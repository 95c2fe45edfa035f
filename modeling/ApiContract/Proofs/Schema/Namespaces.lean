import ApiContract.Proofs.Front
import ApiContract.Proofs.Xml.RootTag
import ApiContract.Schema.Namespaces

/-!
The search for declarations in a raw text. Where a declaration is found, the text begins like one: with
its name, blanks and an equals sign (`startsDeclaration_of_declaration?`). So the search passes over a
text in which nothing begins like a declaration (`declarations_append`), and it finds one whose label
has the form that is looked for (`declaration?_bindingName`). The search for the tag passes over what
begins like no tag (`findTag?_append`).
-/

namespace ApiContract.Schema.Namespaces

open ApiContract.Text ApiContract.Xml

variable {cs m p w : List Char}

lemma dropWord_eq_some_iff {rest : List Char} : dropWord w cs = some rest ↔ cs = w ++ rest := by
  induction w generalizing cs with
  | nil => simp [dropWord]
  | cons a w ih =>
    cases cs with
    | nil => simp [dropWord]
    | cons c cs =>
      unfold dropWord
      by_cases h : a = c
      · subst h
        rw [if_pos rfl, ih]
        simp
      · rw [if_neg h]
        simp [Ne.symm h]

/-! ### What begins like a declaration -/

/-- The text is a label. -/
def isLabel : List Char → Bool
  | c :: cs => isLabelStart c && cs.all isLabelChar
  | [] => false

/-- A character that ends the name of a declaration. -/
def isSep (c : Char) : Bool := isBlank c || c == '='

/-- The text is the name of a declaration: `xmlns`, alone or with a colon and a label. -/
def isDeclarationName (w : List Char) : Bool :=
  match dropWord "xmlns".toList w with
  | some [] => true
  | some (':' :: l) => isLabel l
  | _ => false

/-- Whether the text begins like a declaration: with the name of one, blanks and an equals sign. -/
def startsDeclaration (cs : List Char) : Bool :=
  isDeclarationName (cs.takeWhile (!isSep ·)) &&
    ((cs.dropWhile (!isSep ·)).dropWhile isBlank).head? == some '='

lemma isSep_of_isBlank {c : Char} (h : isBlank c = true) : isSep c = true := by simp [isSep, h]

lemma isSep_of_isLabelChar {c : Char} (h : isLabelChar c = true) : isSep c = false := by
  by_contra hc
  rw [Bool.not_eq_false, isSep, Bool.or_eq_true, beq_iff_eq] at hc
  have hmark : isLabelChar c = false := by
    rcases hc with hc | rfl
    · have hword := isWord_of_isBlank hc
      have hdot : c ≠ '.' ∧ c ≠ '-' := by constructor <;> rintro rfl <;> exact absurd hc (by decide)
      simp [isLabelChar, hword, hdot]
    · decide
  rw [hmark] at h
  cases h

lemma isLabelChar_of_isLabelStart {c : Char} (h : isLabelStart c = true) : isLabelChar c = true := by
  rcases Bool.or_eq_true_iff.1 h with hletter | hc
  · have hc : c.toNat < 128 := by
      have := toNat_of_isAlpha hletter
      omega
    simp [isLabelChar, Text.isWord, if_pos hc, Char.isAlphanum, hletter]
  · rw [beq_iff_eq.1 hc]
    rfl

lemma isLabelChar_of_isLabel {l : List Char} (h : isLabel l = true) :
    ∀ c ∈ l, isLabelChar c = true := by
  cases l with
  | nil => cases h
  | cons c cs =>
    obtain ⟨hc, hcs⟩ := Bool.and_eq_true_iff.1 h
    rw [List.forall_mem_cons]
    exact ⟨isLabelChar_of_isLabelStart hc, List.all_eq_true.1 hcs⟩

lemma isDeclarationName_label (l : List Char) :
    isDeclarationName ("xmlns".toList ++ ':' :: l) = isLabel l := by
  rw [isDeclarationName, dropWord_eq_some_iff.2 rfl]
  rfl

lemma isLabelChar_of_isDeclarationName (h : isDeclarationName w = true) :
    ∀ c ∈ w, c = ':' ∨ isLabelChar c = true := by
  have hxmlns : ∀ c ∈ "xmlns".toList, isLabelChar c = true := List.all_eq_true.1 (by decide)
  unfold isDeclarationName at h
  split at h
  · rename_i hw
    rw [dropWord_eq_some_iff.1 hw, List.append_nil]
    exact fun c hc => .inr (hxmlns c hc)
  · rename_i l hw
    rw [dropWord_eq_some_iff.1 hw, List.forall_mem_append, List.forall_mem_cons]
    exact ⟨fun c hc => .inr (hxmlns c hc), .inl rfl,
      fun c hc => .inr (isLabelChar_of_isLabel h c hc)⟩
  · cases h

lemma isSep_of_isDeclarationName (h : isDeclarationName w = true) : ∀ c ∈ w, isSep c = false := by
  intro c hc
  rcases isLabelChar_of_isDeclarationName h c hc with rfl | hc
  · decide
  · exact isSep_of_isLabelChar hc

/-- Up to the first separator it is the name that decides, and from there on the equals sign. -/
lemma startsDeclaration_append (hw : ∀ c ∈ w, isSep c = false) (hm : ∀ c ∈ m.head?, isSep c = true) :
    startsDeclaration (w ++ m) =
      (isDeclarationName w && (m.dropWhile isBlank).head? == some '=') := by
  have hw : ∀ c ∈ w, (!isSep c) = true := by simpa using hw
  have hm : ∀ c ∈ m.head?, (!isSep c) = false := by simpa using hm
  rw [startsDeclaration, takeWhile_append_of_head? hw hm, dropWhile_append_of_head? hw hm]

lemma isSep_of_mem_head? {b : List Char} (hb : ∀ c ∈ b, isBlank c = true) :
    ∀ c ∈ (b ++ '=' :: m).head?, isSep c = true := by
  cases b with
  | nil => rintro c ⟨⟩; rfl
  | cons c b => rintro c ⟨⟩; exact isSep_of_isBlank (hb _ List.mem_cons_self)

/-- Before blanks and an equals sign it is the name that decides. -/
lemma startsDeclaration_append_equals {b : List Char} (hw : ∀ c ∈ w, isSep c = false)
    (hb : ∀ c ∈ b, isBlank c = true) :
    startsDeclaration (w ++ (b ++ '=' :: m)) = isDeclarationName w := by
  have hblank : (b ++ '=' :: m).dropWhile isBlank = '=' :: m :=
    dropWhile_append_of_head? hb (by rintro _ ⟨⟩; rfl)
  rw [startsDeclaration_append hw (isSep_of_mem_head? hb), hblank]
  simp

lemma startsDeclaration_cons_of_isSep {c : Char} (h : isSep c = true) :
    startsDeclaration (c :: cs) = false :=
  startsDeclaration_append (w := []) (by simp) (by simpa using h)

/-- What begins like a declaration up to a quote does so before the quote. -/
lemma startsDeclaration_append_quote {q : Char} (hq : q = '"' ∨ q = '\'')
    (h : startsDeclaration p = false) : startsDeclaration (p ++ q :: m) = false := by
  have hsep : isSep q = false := by rcases hq with rfl | rfl <;> decide
  have hblank : isBlank q = false := by rcases hq with rfl | rfl <;> decide
  have hw : ∀ c ∈ p.takeWhile (!isSep ·), isSep c = false := fun c hc => by
    simpa using List.mem_takeWhile_imp hc
  cases hr : p.dropWhile (!isSep ·) with
  | nil =>
    -- the quote is in the name
    have hp : ∀ c ∈ p, (!isSep c) = true := List.dropWhile_eq_nil_iff.1 hr
    have hname : isDeclarationName (p ++ q :: m.takeWhile (!isSep ·)) = false := by
      refine Bool.eq_false_iff.2 fun hn => ?_
      rcases isLabelChar_of_isDeclarationName hn q (by simp) with hc | hc
      · rcases hq with rfl | rfl <;> cases hc
      · rcases hq with rfl | rfl <;> exact absurd hc (by decide)
    rw [startsDeclaration, List.takeWhile_append_of_pos hp,
      List.takeWhile_cons_of_pos (by simpa using hsep), hname, Bool.false_and]
  | cons c r =>
    have hc : isSep c = true := by
      have := List.head?_dropWhile_not (!isSep ·) p
      rw [hr] at this
      simpa using this
    have hp : p = p.takeWhile (!isSep ·) ++ c :: r := by rw [← hr, List.takeWhile_append_dropWhile]
    rw [hp, startsDeclaration_append hw (by simpa using hc)] at h
    rw [hp, List.append_assoc, List.cons_append, startsDeclaration_append hw (by simpa using hc)]
    rw [Bool.and_eq_false_iff] at h ⊢
    refine h.imp_right fun h => ?_
    rw [← List.cons_append, List.dropWhile_append]
    split
    · rw [List.dropWhile_cons_of_neg (by simpa using hblank)]
      rcases hq with rfl | rfl <;> rfl
    · rename_i hne
      obtain ⟨x, y, hxy⟩ := List.exists_cons_of_ne_nil (mt List.isEmpty_iff.2 hne)
      rw [hxy] at h ⊢
      exact h

/-! ### One declaration -/

lemma exists_of_declaredValue {r : List Char × List Char} (h : declaredValue cs = some r) :
    ∃ b m, cs = b ++ '=' :: m ∧ ∀ c ∈ b, isBlank c = true := by
  unfold declaredValue at h
  split at h
  · rename_i m hm
    refine ⟨cs.takeWhile isBlank, m, ?_, fun c hc => List.mem_takeWhile_imp hc⟩
    rw [← hm, List.takeWhile_append_dropWhile]
  · cases h

/-- What is taken for a declaration begins like one. -/
lemma startsDeclaration_of_declaration? {r : String × String × List Char}
    (h : declaration? cs = some r) : startsDeclaration cs = true := by
  unfold declaration? at h
  split at h
  · cases h
  · rename_i rest hrest
    split at h
    · cases h
    · rename_i label rest' hlabel
      split at h
      · cases h
      · rename_i hvalue
        obtain ⟨b, m, rfl, hb⟩ := exists_of_declaredValue hvalue
        rw [dropWord_eq_some_iff.1 hrest]
        unfold declaredLabel at hlabel
        split at hlabel
        · rename_i c l
          split at hlabel
          · rename_i hc
            have hname : isDeclarationName ("xmlns".toList ++ ':' :: c :: l.takeWhile isLabelChar) =
                true := by
              rw [isDeclarationName_label, isLabel, hc, Bool.true_and, List.all_eq_true]
              exact fun c hc => List.mem_takeWhile_imp hc
            obtain ⟨-, hl⟩ := Prod.mk.inj (Option.some.inj hlabel)
            rw [← List.takeWhile_append_dropWhile (p := isLabelChar) (l := l), hl]
            rw [← List.cons_append, ← List.cons_append, ← List.append_assoc,
              startsDeclaration_append_equals (isSep_of_isDeclarationName hname) hb]
            exact hname
          · cases hlabel
        · obtain ⟨-, rfl⟩ := Prod.mk.inj (Option.some.inj hlabel)
          exact startsDeclaration_append_equals (isSep_of_isDeclarationName rfl) hb

lemma declaredValue_append {b₁ b₂ v : List Char} {q : Char} (h₁ : ∀ c ∈ b₁, isBlank c = true)
    (h₂ : ∀ c ∈ b₂, isBlank c = true) (hq : q = '"' ∨ q = '\'') (hv : q ∉ v) :
    declaredValue (b₁ ++ '=' :: (b₂ ++ q :: (v ++ q :: m))) = some (v, m) := by
  have hequals : (b₁ ++ '=' :: (b₂ ++ q :: (v ++ q :: m))).dropWhile isBlank =
      '=' :: (b₂ ++ q :: (v ++ q :: m)) :=
    dropWhile_append_of_head? h₁ (by rintro _ ⟨⟩; rfl)
  have hquote : (b₂ ++ q :: (v ++ q :: m)).dropWhile isBlank = q :: (v ++ q :: m) :=
    dropWhile_append_of_head? h₂ (by rintro _ ⟨⟩; rcases hq with rfl | rfl <;> rfl)
  simp only [declaredValue, hequals, hquote, if_pos hq]
  rw [dropWhile_ne_append hv, takeWhile_ne_append hv]

lemma declaredLabel_of_isSep (h : ∀ c ∈ m.head?, isSep c = true) :
    declaredLabel m = some ([], m) := by
  unfold declaredLabel
  split
  · exact absurd (h ':' rfl) (by decide)
  · rfl

lemma declaredLabel_append {l : List Char} (hl : isLabel l = true)
    (h : ∀ c ∈ m.head?, isSep c = true) : declaredLabel (':' :: (l ++ m)) = some (l, m) := by
  cases l with
  | nil => cases hl
  | cons c l =>
    obtain ⟨hc, hcs⟩ := Bool.and_eq_true_iff.1 hl
    have hcs := List.all_eq_true.1 hcs
    have hstop : ∀ x ∈ m.head?, isLabelChar x = false := by
      intro x hx
      by_contra hlabel
      have hsep := h x hx
      rw [isSep_of_isLabelChar (Bool.not_eq_false _ ▸ hlabel)] at hsep
      cases hsep
    simp only [List.cons_append, declaredLabel, if_pos hc]
    rw [takeWhile_append_of_head? hcs hstop, dropWhile_append_of_head? hcs hstop]

/-- The binding of a label is taken for a declaration if the label has the form that is looked
for. -/
lemma declaration?_bindingName {l : Option String} (hl : ∀ x ∈ l, isLabel x.toList = true)
    {b₁ b₂ v : List Char} {q : Char} (h₁ : ∀ c ∈ b₁, isBlank c = true)
    (h₂ : ∀ c ∈ b₂, isBlank c = true) (hq : q = '"' ∨ q = '\'') (hv : q ∉ v) :
    declaration? ((bindingName l).written.toList ++ (b₁ ++ '=' :: (b₂ ++ q :: (v ++ q :: m)))) =
      some (l.getD "", String.ofList v, m) := by
  have hvalue := declaredValue_append (m := m) h₁ h₂ hq hv
  have hhead := isSep_of_mem_head? (m := b₂ ++ q :: (v ++ q :: m)) h₁
  generalize b₁ ++ '=' :: (b₂ ++ q :: (v ++ q :: m)) = rest at hvalue hhead
  cases l with
  | none =>
    have hname : (bindingName none).written.toList = "xmlns".toList := rfl
    rw [hname, declaration?, dropWord_eq_some_iff.2 rfl]
    simp only [declaredLabel_of_isSep hhead, hvalue]
    rfl
  | some l =>
    have hname : (bindingName (some l)).written.toList = "xmlns".toList ++ ':' :: l.toList := by
      simp [bindingName, RawName.written]
    rw [hname, List.append_assoc, declaration?, dropWord_eq_some_iff.2 rfl]
    simp only [List.cons_append, declaredLabel_append (hl l rfl) hhead, hvalue]
    simp

/-! ### The search for declarations -/

lemma declarations_nil : declarations [] = [] := by rw [declarations]

lemma declarations_cons_of_none {c : Char} (h : startsDeclaration (c :: cs) = false) :
    declarations (c :: cs) = declarations cs := by
  rw [declarations]
  split
  · rename_i hd
    rw [startsDeclaration_of_declaration? hd] at h
    cases h
  · rfl

lemma declarations_of_declaration? {l u : String} {rest : List Char}
    (h : declaration? m = some (l, u, rest)) : declarations m = (l, u) :: declarations rest := by
  cases m with
  | nil => cases h
  | cons c m =>
    rw [declarations]
    split
    · rename_i hd
      cases hd.symm.trans h
      rfl
    · rename_i hd
      rw [h] at hd
      cases hd

/-- **The search passes over a text in which nothing begins like a declaration.** -/
lemma declarations_append (h : ∀ t, t ≠ [] → t <:+ p → startsDeclaration (t ++ m) = false) :
    declarations (p ++ m) = declarations m := by
  induction p with
  | nil => rfl
  | cons c p ih =>
    have hc : startsDeclaration (c :: (p ++ m)) = false := h (c :: p) (by simp) List.suffix_rfl
    rw [List.cons_append, declarations_cons_of_none hc]
    exact ih fun t hne ht => h t hne (ht.trans (List.suffix_cons c p))

lemma declarations_append_of_isSep (h : ∀ c ∈ p, isSep c = true) :
    declarations (p ++ m) = declarations m := by
  refine declarations_append fun t hne ht => ?_
  obtain ⟨c, t, rfl⟩ := List.exists_cons_of_ne_nil hne
  exact startsDeclaration_cons_of_isSep (h c (ht.subset List.mem_cons_self))

/-! ### The search for the tag -/

lemma dropLabel_append {l : List Char} (h : isLabel l = true) :
    dropLabel (l ++ ':' :: m) = some m := by
  cases l with
  | nil => cases h
  | cons c l =>
    obtain ⟨hc, hl⟩ := Bool.and_eq_true_iff.1 h
    have hdrop : (l ++ ':' :: m).dropWhile isLabelChar = ':' :: m :=
      dropWhile_append_of_head? (List.all_eq_true.1 hl) (by rintro _ ⟨⟩; decide)
    simp only [List.cons_append, dropLabel, if_pos hc, hdrop]

lemma findTag?_of_hasTag (h : hasTag cs = true) : findTag? cs = some (cs.takeWhile (· ≠ '>')) := by
  cases cs with
  | nil => cases h
  | cons c cs => rw [findTag?, if_pos h]

/-- **The search finds the first tag of its form.** -/
lemma findTag?_append {p : List Char} (h : ∀ t, t ≠ [] → t <:+ p → hasTag (t ++ m) = false) :
    findTag? (p ++ m) = findTag? m := by
  induction p with
  | nil => rfl
  | cons c p ih =>
    have hc : hasTag (c :: (p ++ m)) = false := h (c :: p) (by simp) List.suffix_rfl
    rw [List.cons_append, findTag?, hc, if_neg (by simp)]
    exact ih fun t hne ht => h t hne (ht.trans (List.suffix_cons c p))

end ApiContract.Schema.Namespaces
