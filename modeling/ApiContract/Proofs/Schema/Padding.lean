import ApiContract.Proofs.Schema.Namespaces
import ApiContract.Proofs.Text.Blank
import ApiContract.Proofs.Text.Utf8
import ApiContract.Schema.Reader

/-!
Blanks around the content of a document. Two readers see the content: one of XML, which sees it without
the blanks at its ends, and the search for declarations, which sees all of it. A tag lies between its `<`
and its `>`, so the search is not misled by what comes before the first `<` and after the last `>`
(`ofText_around`); and bytes are decoded between their blanks as they are alone. So what reading yields, a
document or an error, does not depend on the blanks (`read_of_padded`).
-/

namespace ApiContract.Schema

open ApiContract.Text

namespace Namespaces

variable {cs l r m : List Char}

/-! ### A tag lies between its marks -/

/-- What the tag of a schema begins with: a `<`, a label with its colon or none, and the name. -/
def IsOpening (p : List Char) : Prop :=
  p = '<' :: "schema".toList ∨ ∃ l, isLabel l = true ∧ p = '<' :: (l ++ ':' :: "schema".toList)

lemma dropLabel_eq_some_iff : dropLabel cs = some m ↔ ∃ l, isLabel l = true ∧ cs = l ++ ':' :: m := by
  constructor
  · intro h
    unfold dropLabel at h
    split at h
    · cases h
    · rename_i c cs
      split at h
      · rename_i hc
        split at h
        · rename_i rest hrest
          cases h
          refine ⟨c :: cs.takeWhile isLabelChar, ?_, ?_⟩
          · rw [isLabel, hc, Bool.true_and, List.all_eq_true]
            exact fun x hx => List.mem_takeWhile_imp hx
          · rw [List.cons_append, ← hrest, List.takeWhile_append_dropWhile]
        · cases h
      · cases h
  · rintro ⟨l, hl, rfl⟩
    exact dropLabel_append hl

lemma hasName_eq_true_iff : hasName cs = true ↔
    ∃ m, cs = "schema".toList ++ m ∧ (∀ c ∈ m.head?, Text.isWord c = false) ∧ '>' ∈ m := by
  unfold hasName
  split
  · rename_i m hm
    rw [dropWord_eq_some_iff] at hm
    subst hm
    cases m <;> simp
  · rename_i hnone
    refine iff_of_false (by simp) ?_
    rintro ⟨m, rfl, -⟩
    rw [dropWord_eq_some_iff.2 rfl] at hnone
    cases hnone

lemma hasTag_eq_true_iff : hasTag cs = true ↔
    ∃ p m, cs = p ++ m ∧ IsOpening p ∧ (∀ c ∈ m.head?, Text.isWord c = false) ∧ '>' ∈ m := by
  constructor
  · intro h
    unfold hasTag at h
    split at h
    · rename_i cs
      rcases Bool.or_eq_true_iff.1 h with h | h
      · cases hlabel : dropLabel cs with
        | none => simp [hlabel] at h
        | some n =>
          obtain ⟨l, hl, rfl⟩ := dropLabel_eq_some_iff.1 hlabel
          rw [hlabel] at h
          obtain ⟨m, rfl, hm⟩ := hasName_eq_true_iff.1 h
          exact ⟨'<' :: (l ++ ':' :: "schema".toList), m, by simp, .inr ⟨l, hl, rfl⟩, hm⟩
      · obtain ⟨m, rfl, hm⟩ := hasName_eq_true_iff.1 h
        exact ⟨'<' :: "schema".toList, m, rfl, .inl rfl, hm⟩
    · cases h
  · rintro ⟨p, m, rfl, rfl | ⟨l, hl, rfl⟩, hm⟩
    · exact Bool.or_eq_true_iff.2 (.inr (hasName_eq_true_iff.2 ⟨m, rfl, hm⟩))
    · have hlabel : dropLabel (l ++ ':' :: "schema".toList ++ m) = some ("schema".toList ++ m) := by
        rw [List.append_assoc]
        exact dropLabel_append hl
      rw [List.cons_append, hasTag, hlabel]
      exact Bool.or_eq_true_iff.2 (.inl (hasName_eq_true_iff.2 ⟨m, rfl, hm⟩))

/-- A text that closes no tag adds nothing to one in which the search begins. -/
lemma hasTag_append (hr : '>' ∉ r) : hasTag (cs ++ r) = hasTag cs := by
  rw [Bool.eq_iff_iff, hasTag_eq_true_iff, hasTag_eq_true_iff]
  constructor
  · rintro ⟨p, m, heq, hp, hword, hmark⟩
    rcases List.append_eq_append_iff.1 heq with ⟨a, rfl, rfl⟩ | ⟨a, rfl, rfl⟩
    · exact absurd (List.mem_append_right a hmark) hr
    · have ha : '>' ∈ a := (List.mem_append.1 hmark).resolve_right hr
      obtain ⟨c, a, rfl⟩ := List.exists_cons_of_ne_nil (List.ne_nil_of_mem ha)
      exact ⟨p, _, rfl, hp, hword, ha⟩
  · rintro ⟨p, m, rfl, hp, hword, hmark⟩
    obtain ⟨c, m, rfl⟩ := List.exists_cons_of_ne_nil (List.ne_nil_of_mem hmark)
    exact ⟨p, _, List.append_assoc .., hp, hword, List.mem_append_left r hmark⟩

lemma findTag?_append_right (hr : '>' ∉ r) : findTag? (cs ++ r) = findTag? cs := by
  induction cs with
  | nil =>
    have hnone := findTag?_append (p := r) (m := []) fun t _ ht => by
      rw [List.append_nil, ← List.nil_append t, hasTag_append fun h => hr (ht.subset h)]
      rfl
    rwa [List.append_nil] at hnone
  | cons c cs ih =>
    have htag : hasTag (c :: cs ++ r) = hasTag (c :: cs) := hasTag_append hr
    rw [List.cons_append] at htag
    rw [List.cons_append, findTag?, findTag?, htag, ih]
    split
    · rename_i h
      obtain ⟨p, m, hcs, -, -, hmark⟩ := hasTag_eq_true_iff.1 h
      have hend : '>' ∈ c :: cs := hcs ▸ List.mem_append_right p hmark
      obtain ⟨a, b, hab, ha⟩ := List.eq_append_cons_of_mem hend
      rw [← List.cons_append, hab, List.append_assoc, List.cons_append, takeWhile_ne_append ha,
        takeWhile_ne_append ha]
    · rfl

/-- **A tag is found between its marks.** What comes before the first `<` and after the last `>` of a text
does not count. -/
theorem ofText_around (hl : '<' ∉ l) (hr : '>' ∉ r) : ofText (l ++ cs ++ r) = ofText cs := by
  have hbefore : ∀ t, t ≠ [] → t <:+ l → hasTag (t ++ (cs ++ r)) = false := by
    intro t hne ht
    obtain ⟨c, t, rfl⟩ := List.exists_cons_of_ne_nil hne
    have hc : c ≠ '<' := fun h => hl (h ▸ ht.subset List.mem_cons_self)
    rw [List.cons_append, hasTag]
    rintro _ ⟨⟩
    exact hc rfl
  rw [ofText, List.append_assoc, findTag?_append hbefore, findTag?_append_right hr, ofText]

end Namespaces

/-! ### Reading content among blanks -/

/-- The second content is the first one with blanks before and behind it: of Unicode around a text, of
ASCII around bytes. -/
inductive Content.IsPadded : Content → Content → Prop
  | text {l s r : String} (hl : ∀ c ∈ l.toList, isBlank c = true)
      (hr : ∀ c ∈ r.toList, isBlank c = true) : IsPadded (.text s) (.text (l ++ s ++ r))
  | bytes {l bs r : List UInt8} (hl : ∀ b ∈ l, isBlankByte b = true)
      (hr : ∀ b ∈ r, isBlankByte b = true) : IsPadded (.bytes bs) (.bytes (l ++ bs ++ r))

namespace Content

variable {c c' : Content}

lemma xmlSource_of_padded (h : c.IsPadded c') : c'.xmlSource = c.xmlSource := by
  cases h with
  | text hl hr => rw [xmlSource, xmlSource, String.toList_append, String.toList_append, trim_padded hl hr]
  | bytes hl hr => rw [xmlSource, xmlSource, trim_padded hl hr]

/-- The raw texts differ in blanks at the ends too. -/
lemma exists_rawText_of_padded (h : c.IsPadded c') : ∃ l r, (∀ x ∈ l, isBlank x = true) ∧
    (∀ x ∈ r, isBlank x = true) ∧ c'.rawText = l ++ c.rawText ++ r := by
  cases h with
  | @text l s r hl hr =>
    refine ⟨l.toList, r.toList, hl, hr, ?_⟩
    rw [rawText, rawText, String.toList_append, String.toList_append]
  | @bytes l bs r hl hr =>
    exact ⟨decodeLenient l, decodeLenient r, isBlank_of_mem_decodeLenient hl,
      isBlank_of_mem_decodeLenient hr, decodeLenient_padded hl hr⟩

lemma namespaces_of_padded (h : c.IsPadded c') :
    Namespaces.ofText c'.rawText = Namespaces.ofText c.rawText := by
  obtain ⟨l, r, hl, hr, heq⟩ := exists_rawText_of_padded h
  have hmark : ∀ {m : List Char} {x : Char}, (∀ y ∈ m, isBlank y = true) → isBlank x = false → x ∉ m :=
    fun hm hx hmem => by rw [hm _ hmem] at hx; cases hx
  rw [heq, Namespaces.ofText_around (hmark hl (by decide)) (hmark hr (by decide))]

end Content

/-- **Blanks around the content of a document are of no account.** -/
theorem read_of_padded {c c' : Content} (h : c.IsPadded c') (source : Option String) :
    Document.read c' source = Document.read c source ∧ readNotes c' source = readNotes c source := by
  have hroot : readRoot c' source = readRoot c source := by
    rw [readRoot, readRoot, Content.xmlSource_of_padded h]
  have hread : Document.read c' source = Document.read c source := by
    rw [Document.read, Document.read, hroot, Content.namespaces_of_padded h]
  exact ⟨hread, by rw [readNotes, readNotes, hroot, hread]⟩

/-- A schema with a declaration is read between blanks of Unicode as it is alone, and so are bytes that end
within a character between blanks of ASCII. -/
theorem read_of_padded_declared_and_cut :
    let schema := Content.text "<?xml version='1.0'?><s:schema xmlns:s='http://www.w3.org/2001/XMLSchema'/>"
    let padded := Content.text
      ("\n\u2003" ++ "<?xml version='1.0'?><s:schema xmlns:s='http://www.w3.org/2001/XMLSchema'/>" ++ "\x1c")
    schema.IsPadded padded ∧
      (Content.bytes [0x3c, 0xe2]).IsPadded (.bytes ([0x0a] ++ [0x3c, 0xe2] ++ [0x0b, 0x20])) ∧
      Document.read padded none = Document.read schema none ∧
      Document.read (.bytes ([0x0a] ++ [0x3c, 0xe2] ++ [0x0b, 0x20])) none =
        Document.read (.bytes [0x3c, 0xe2]) none := by
  intro schema padded
  have htext : schema.IsPadded padded := .text (List.all_eq_true.1 (by decide)) (List.all_eq_true.1 (by decide))
  have hbytes : (Content.bytes [0x3c, 0xe2]).IsPadded (.bytes ([0x0a] ++ [0x3c, 0xe2] ++ [0x0b, 0x20])) :=
    .bytes (List.all_eq_true.1 (by decide)) (List.all_eq_true.1 (by decide))
  exact ⟨htext, hbytes, (read_of_padded htext none).1, (read_of_padded hbytes none).1⟩

end ApiContract.Schema
