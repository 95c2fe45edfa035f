import ApiContract.Proofs.Text.Ranges
import ApiContract.Xml.Lexeme

/-!
The text of a start tag. What a scan takes from the front of a text is told as text: a name as it is
written, an attribute as its name, an equals sign and its value in quotes, and a tag as attributes
with blanks before them (`exists_tagBody_of_scanAttributes`).
-/

namespace ApiContract.Xml

open ApiContract.Text

variable {a : Alphabet} {cs rest : List Char}

/-! ### Names -/

/-- A character that is in no name of a tag: a blank, an equals sign, a quote or an end of the tag. -/
def isMark (c : Char) : Bool := isBlank c || "=<>/\"'".toList.contains c

/-- The text can be a name in a tag: it is not empty, and there are no marks in it. -/
def IsUnmarked (w : List Char) : Prop := w ≠ [] ∧ ∀ c ∈ w, isMark c = false

lemma isBlank_of_isSpace {c : Char} (h : isSpace c = true) : isBlank c = true := by
  simp only [isSpace, Bool.or_eq_true, beq_iff_eq] at h
  rcases h with ((rfl | rfl) | rfl) | rfl <;> rfl

lemma isNameChar_of_isMark {c : Char} (h : isMark c = true) : a.isNameChar c = false := by
  rcases Bool.or_eq_true_iff.1 h with hb | hc
  · exact isNameChar_of_isBlank hb
  · have hc : c ∈ ['=', '<', '>', '/', '"', '\''] := by simpa using hc
    simp only [List.mem_cons, List.not_mem_nil, or_false] at hc
    rcases hc with rfl | rfl | rfl | rfl | rfl | rfl <;> rfl

lemma isMark_of_isNameChar {c : Char} (h : a.isNameChar c = true) : isMark c = false := by
  by_contra hc
  rw [isNameChar_of_isMark (Bool.not_eq_false _ ▸ hc)] at h
  cases h

lemma isNameChar_of_isNameStart {c : Char} (h : a.isNameStart c = true) :
    a.isNameChar c = true := by
  unfold Alphabet.isNameStart at h
  unfold Alphabet.isNameChar
  by_cases hc : c.toNat < 128
  · rw [if_pos hc] at h ⊢
    simp only [Char.isAlphanum, Bool.or_eq_true] at h ⊢
    exact .inl (.inl (h.imp_left .inl))
  · rw [if_neg hc] at h ⊢
    simp only [Bool.or_eq_true] at h ⊢
    exact h.imp_left .inl

/-- A name is what is at the front up to a character that no name has. -/
lemma scanName_eq {n : String} (h : scanName a cs = .ok (n, rest)) :
    cs = n.toList ++ rest ∧ n.toList ≠ [] ∧ ∀ c ∈ n.toList, a.isNameChar c = true := by
  cases cs with
  | nil => cases h
  | cons c cs =>
    simp only [scanName] at h
    split at h
    · rename_i hc
      split at h
      · cases h
      · cases h
        refine ⟨by simp, by simp, ?_⟩
        simp only [String.toList_ofList, List.mem_cons]
        rintro x (rfl | hx)
        · exact isNameChar_of_isNameStart hc
        · exact List.mem_takeWhile_imp hx
    · cases h

lemma scanRawName_eq {n : RawName} (h : scanRawName a cs = .ok (n, rest)) :
    cs = n.written.toList ++ rest ∧ IsUnmarked n.written.toList := by
  unfold scanRawName at h
  split at h
  · cases h
  · rename_i l r hl
    obtain ⟨hcs, hne, hchars⟩ := scanName_eq hl
    split at h
    · cases h
    · rename_i hb
      cases h
      obtain ⟨hr, -, hchars'⟩ := scanName_eq hb
      refine ⟨by simp [RawName.written, hcs, hr], by simp [RawName.written], ?_⟩
      simp only [RawName.written, String.toList_append, List.mem_append]
      rintro c ((hc | hc) | hc)
      · exact isMark_of_isNameChar (hchars c hc)
      · have : c = ':' := by simpa using hc
        subst this; rfl
      · exact isMark_of_isNameChar (hchars' c hc)
  · rename_i hn
    cases h
    obtain ⟨hcs, hne, hchars⟩ := scanName_eq hn
    exact ⟨hcs, hne, fun c hc => isMark_of_isNameChar (hchars c hc)⟩

/-! ### Attributes -/

lemma exists_dropSpace (cs : List Char) :
    ∃ b, cs = b ++ dropSpace cs ∧ ∀ c ∈ b, isSpace c = true :=
  ⟨cs.takeWhile isSpace, List.takeWhile_append_dropWhile.symm,
    fun _ hc => List.mem_takeWhile_imp hc⟩

lemma scanValue_eq {q : Char} {v : List Char} (h : scanValue a q cs = .ok (v, rest)) :
    cs = v ++ q :: rest ∧ q ∉ v := by
  induction cs generalizing v with
  | nil => cases h
  | cons c cs ih =>
    unfold scanValue at h
    split at h
    · rename_i hc
      cases h
      exact ⟨by rw [hc]; rfl, List.not_mem_nil⟩
    · rename_i hc
      split at h
      · cases h
      · simp only at h
        split at h
        · cases h
        · split at h
          · cases h
          · rename_i hv
            cases h
            obtain ⟨hcs, hq⟩ := ih hv
            refine ⟨by rw [hcs]; rfl, ?_⟩
            rw [List.mem_cons, not_or]
            exact ⟨Ne.symm hc, hq⟩

/-- The text of an attribute: its name and its value in quotes, with an equals sign between them, and
blanks around it. -/
structure RawAttribute.Spells (r : RawAttribute) (text : List Char) : Prop where
  name : IsUnmarked r.name.written.toList
  text : ∃ b₁ b₂ q, text = r.name.written.toList ++ (b₁ ++ '=' :: (b₂ ++ q :: (r.value ++ [q]))) ∧
    (∀ c ∈ b₁, isSpace c = true) ∧ (∀ c ∈ b₂, isSpace c = true) ∧
    (q = '"' ∨ q = '\'') ∧ q ∉ r.value

/-- The text of an attribute and what follows it, piece by piece. -/
lemma RawAttribute.Spells.exists_append {r : RawAttribute} {text : List Char} (h : r.Spells text)
    (m : List Char) :
    ∃ b₁ b₂ q, text ++ m =
        r.name.written.toList ++ (b₁ ++ '=' :: (b₂ ++ q :: (r.value ++ q :: m))) ∧
      (∀ c ∈ b₁, isBlank c = true) ∧ (∀ c ∈ b₂, isBlank c = true) ∧
      (q = '"' ∨ q = '\'') ∧ q ∉ r.value := by
  obtain ⟨b₁, b₂, q, rfl, h₁, h₂, hq, hv⟩ := h.text
  exact ⟨b₁, b₂, q, by simp, fun c hc => isBlank_of_isSpace (h₁ c hc),
    fun c hc => isBlank_of_isSpace (h₂ c hc), hq, hv⟩

lemma scanAttribute_eq {r : RawAttribute} (h : scanAttribute a cs = .ok (r, rest)) :
    ∃ text, r.Spells text ∧ cs = text ++ rest := by
  unfold scanAttribute at h
  split at h
  · cases h
  · rename_i name after hname
    obtain ⟨hcs, hunmarked⟩ := scanRawName_eq hname
    obtain ⟨b₁, hb₁, hspace₁⟩ := exists_dropSpace after
    split at h
    · cases h
    · rename_i after' heq
      obtain ⟨b₂, hb₂, hspace₂⟩ := exists_dropSpace after'
      split at h
      · cases h
      · rename_i q v hq
        split at h
        · rename_i hquote
          split at h
          · cases h
          · rename_i hv
            cases h
            obtain ⟨hv, hmem⟩ := scanValue_eq hv
            refine ⟨_, ⟨hunmarked, b₁, b₂, q, rfl, hspace₁, hspace₂, hquote, hmem⟩, ?_⟩
            rw [hcs, hb₁, heq, hb₂, hq, hv]
            simp
        · cases h
    · cases h

/-- The text of a start tag after its name, without the `>`: attributes after blanks, and perhaps a
slash. -/
inductive TagBody : List RawAttribute → List Char → Prop where
  | nil {b slash : List Char} (hb : ∀ c ∈ b, isSpace c = true) (hs : slash = [] ∨ slash = ['/']) :
      TagBody [] (b ++ slash)
  | cons {b text body : List Char} {r : RawAttribute} {rs : List RawAttribute} (hne : b ≠ [])
      (hb : ∀ c ∈ b, isSpace c = true) (hr : r.Spells text) (h : TagBody rs body) :
      TagBody (r :: rs) (b ++ (text ++ body))

lemma tagEnd?_eq {closed : Bool} (h : tagEnd? cs = some (.ok (closed, rest))) :
    ∃ slash, (slash = [] ∨ slash = ['/']) ∧ cs = slash ++ '>' :: rest := by
  unfold tagEnd? at h
  split at h <;> simp at h
  · obtain ⟨_, rfl⟩ := h; exact ⟨[], .inl rfl, rfl⟩
  · obtain ⟨_, rfl⟩ := h; exact ⟨['/'], .inr rfl, rfl⟩

theorem exists_tagBody_of_scanAttributes {rs : List RawAttribute} {closed : Bool}
    (h : scanAttributes a cs = .ok ((rs, closed), rest)) :
    ∃ body, TagBody rs body ∧ cs = body ++ '>' :: rest := by
  fun_induction scanAttributes a cs generalizing rs with
  | case1 cs closed after hend =>
    cases h
    obtain ⟨b, hb, hspace⟩ := exists_dropSpace cs
    obtain ⟨slash, hs, hafter⟩ := tagEnd?_eq hend
    refine ⟨b ++ slash, .nil hspace hs, ?_⟩
    rw [hb, hafter]
    simp
  | case2 => cases h
  | case3 => cases h
  | case4 => cases h
  | case5 cs _ hblank r after ha rs closed after' hr ih =>
    cases h
    obtain ⟨body, hbody, hafter⟩ := ih hr
    obtain ⟨b, hb, hspace⟩ := exists_dropSpace cs
    obtain ⟨text, htext, hcs⟩ := scanAttribute_eq ha
    refine ⟨b ++ (text ++ body), .cons ?_ hspace htext hbody, ?_⟩
    · -- the attribute follows a blank
      rintro rfl
      obtain _ | ⟨c, cs⟩ := cs
      · cases hblank
      · have hc : isSpace c = true := hblank
        have hdrop : c :: cs = dropSpace cs := by rwa [dropSpace, List.dropWhile_cons_of_pos hc] at hb
        have hlen := dropSpace_length cs
        rw [← hdrop, List.length_cons] at hlen
        omega
    · rw [hb, hcs, hafter]
      simp
  | case6 => cases h

end ApiContract.Xml
