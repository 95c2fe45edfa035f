import ApiContract.Proofs.Fields
import ApiContract.Proofs.Schema.Padding

/-!
The search for declarations in a start tag that is written as one. The tag is found behind any text without
the name of a schema (`findTag?_opening`): what begins a tag before it would have this name before the next
`<`. Within the tag nothing but a declaration is taken for one, since between them `xmlns` does not occur
(`declarations_parts`). So the search finds the declarations, all of them and nothing else
(`ofText_startTag`).
-/

namespace ApiContract.Schema.Namespaces

open ApiContract.Text

/-- A part of a start tag behind its name: the declaration of a namespace, after blanks, or something else. -/
inductive TagPart where
  | declaration (gap : List Char) (label : Option (List Char)) (before after : List Char) (quote : Char)
    (value : List Char)
  | other (text : List Char)

namespace TagPart

/-- The part as it is written. -/
def text : TagPart → List Char
  | declaration gap label before after quote value =>
    gap ++ ("xmlns".toList ++ (label.elim [] (':' :: ·) ++
      (before ++ '=' :: (after ++ quote :: (value ++ [quote])))))
  | other text => text

/-- What the part declares. -/
def declared? : TagPart → Option (String × String)
  | declaration _ label _ _ _ value => some (String.ofList (label.getD []), String.ofList value)
  | other _ => none

/-- The part begins with a blank. A declaration has a label or none, blanks or none around its equals sign,
and a value in quotes that do not occur in it. In anything else `xmlns` does not occur. -/
inductive IsWritten : TagPart → Prop
  | declaration {gap before after value : List Char} {label : Option (List Char)} {quote : Char}
      (hgap : gap ≠ []) (hblank : ∀ c ∈ gap, isBlank c = true) (hlabel : ∀ l ∈ label, isLabel l = true)
      (hbefore : ∀ c ∈ before, isBlank c = true) (hafter : ∀ c ∈ after, isBlank c = true)
      (hquote : quote = '"' ∨ quote = '\'') (hvalue : quote ∉ value) :
      IsWritten (declaration gap label before after quote value)
  | other {c : Char} {text : List Char} (hblank : isBlank c = true) (hfree : ¬ "xmlns".toList <:+: c :: text) :
      IsWritten (other (c :: text))

end TagPart

/-- The declarations that parts are. -/
def declaredBy (parts : List TagPart) : List (String × String) := parts.filterMap TagPart.declared?

/-- The start tag of a schema up to its name. -/
def opening (label : Option (List Char)) : List Char :=
  '<' :: (label.elim [] (· ++ [':']) ++ "schema".toList)

/-- A start tag: its name, its parts and its end. -/
def startTag (label : Option (List Char)) (parts : List TagPart) (isEmpty : Bool) : List Char :=
  opening label ++ (parts.flatMap TagPart.text ++ (if isEmpty then ['/', '>'] else ['>']))

variable {cs m p w before after : List Char} {label : Option (List Char)} {parts : List TagPart}

/-! ### Where no declaration begins -/

/-- A word that does not occur in a text does not begin in it if the text is followed by none of its letters. -/
lemma not_prefix_of_free (hfree : ¬ w <:+: p) (hnext : ∀ c ∈ m.head?, c ∉ w) {t : List Char} (hne : t ≠ [])
    (ht : t <:+ p) : ¬ w <+: t ++ m := by
  rintro ⟨r, hr⟩
  rcases List.append_eq_append_iff.1 hr with ⟨a, rfl, -⟩ | ⟨a, rfl, hm⟩
  · exact hfree ((List.infix_append' [] w a).trans ht.isInfix)
  · cases a with
    | nil => exact hfree (by simpa using ht.isInfix)
    | cons c a => exact hnext c (by rw [hm]; rfl) (by simp)

lemma startsDeclaration_of_not_prefix (h : ¬ "xmlns".toList <+: cs) : startsDeclaration cs = false := by
  refine Bool.eq_false_iff.2 fun hstart => h ?_
  have hname := (Bool.and_eq_true_iff.1 hstart).1
  have hword : "xmlns".toList <+: cs.takeWhile (!isSep ·) := by
    unfold isDeclarationName at hname
    split at hname
    · rename_i heq
      exact ⟨_, (dropWord_eq_some_iff.1 heq).symm⟩
    · rename_i heq
      exact ⟨_, (dropWord_eq_some_iff.1 heq).symm⟩
    · cases hname
  exact hword.trans (List.takeWhile_prefix _)

/-- **The search passes over a text in which `xmlns` does not occur.** -/
lemma declarations_append_of_free (hfree : ¬ "xmlns".toList <:+: p)
    (hnext : ∀ c ∈ m.head?, c ∉ "xmlns".toList) :
    declarations (p ++ m) = declarations m :=
  declarations_append fun _ hne ht =>
    startsDeclaration_of_not_prefix (not_prefix_of_free hfree hnext hne ht)

lemma not_mem_of_isBlank {c : Char} (h : isBlank c = true) : c ∉ "xmlns".toList := by
  intro hc
  have hall : ∀ x ∈ "xmlns".toList, isBlank x = false :=
    List.forall_iff_forall_mem.1 (by decide)
  rw [hall c hc] at h
  cases h

/-! ### The parts -/

lemma isBlank_of_mem_head? {part : TagPart} (h : part.IsWritten) (m : List Char) :
    ∃ c, (part.text ++ m).head? = some c ∧ isBlank c = true := by
  cases h with
  | @declaration gap _ _ _ _ _ hgap hblank =>
    obtain ⟨c, gap, rfl⟩ := List.exists_cons_of_ne_nil hgap
    exact ⟨c, rfl, hblank c List.mem_cons_self⟩
  | other hblank _ => exact ⟨_, rfl, hblank⟩

/-- What parts and a text begin with is a blank, or what the text begins with. -/
lemma isBlank_or_mem_head? (h : ∀ part ∈ parts, part.IsWritten) {c : Char}
    (hc : c ∈ (parts.flatMap TagPart.text ++ m).head?) : isBlank c = true ∨ c ∈ m.head? := by
  cases parts with
  | nil => exact .inr hc
  | cons part parts =>
    obtain ⟨c', hc', hblank⟩ := isBlank_of_mem_head? (h part List.mem_cons_self)
      (parts.flatMap TagPart.text ++ m)
    rw [List.flatMap_cons, List.append_assoc, hc', Option.mem_some_iff] at hc
    exact .inl (hc ▸ hblank)

/-- What follows a part begins with no letter of `xmlns`. -/
lemma not_mem_of_mem_head? (h : ∀ part ∈ parts, part.IsWritten) (hm : ∀ c ∈ m.head?, c ∉ "xmlns".toList) :
    ∀ c ∈ (parts.flatMap TagPart.text ++ m).head?, c ∉ "xmlns".toList :=
  fun c hc => (isBlank_or_mem_head? h hc).elim not_mem_of_isBlank (hm c)

lemma declaration?_declaration {label : Option (List Char)} {before after value : List Char} {quote : Char}
    (hlabel : ∀ l ∈ label, isLabel l = true) (hbefore : ∀ c ∈ before, isBlank c = true)
    (hafter : ∀ c ∈ after, isBlank c = true) (hquote : quote = '"' ∨ quote = '\'') (hvalue : quote ∉ value)
    (m : List Char) :
    declaration? ("xmlns".toList ++ (label.elim [] (':' :: ·) ++
      (before ++ '=' :: (after ++ quote :: (value ++ quote :: m))))) =
      some (String.ofList (label.getD []), String.ofList value, m) := by
  have hread := declaredValue_append (m := m) hbefore hafter hquote hvalue
  have hhead := isSep_of_mem_head? (m := after ++ quote :: (value ++ quote :: m)) hbefore
  rw [declaration?, dropWord_eq_some_iff.2 rfl]
  cases label with
  | none =>
    simp only [Option.elim_none, List.nil_append, declaredLabel_of_isSep hhead, hread]
    rfl
  | some l =>
    simp only [Option.elim_some, List.cons_append, declaredLabel_append (hlabel l rfl) hhead, hread]
    rfl

/-- **The search finds the declarations among the parts.** -/
lemma declarations_parts (h : ∀ part ∈ parts, part.IsWritten) (hm : ∀ c ∈ m.head?, c ∉ "xmlns".toList) :
    declarations (parts.flatMap TagPart.text ++ m) = declaredBy parts ++ declarations m := by
  induction parts with
  | nil => rfl
  | cons part parts ih =>
    obtain ⟨hpart, hparts⟩ := List.forall_mem_cons.1 h
    have hnext := not_mem_of_mem_head? hparts hm
    rw [List.flatMap_cons, List.append_assoc]
    cases hpart with
    | declaration hgap hblank hlabel hbefore hafter hquote hvalue =>
      have hsep := fun c hc => isSep_of_isBlank (hblank c hc)
      have hread := declaration?_declaration hlabel hbefore hafter hquote hvalue
        (parts.flatMap TagPart.text ++ m)
      simp only [TagPart.text, List.append_assoc, List.cons_append, List.nil_append]
      rw [declarations_append_of_isSep hsep, declarations_of_declaration? hread, ih hparts]
      rfl
    | other hblank hfree =>
      rw [TagPart.text, declarations_append_of_free hfree hnext, ih hparts]
      rfl

/-! ### The tag -/

/-- A word without a letter that stands between two texts occurs in one of them if it occurs at all. -/
lemma isInfix_cases {a b : List Char} {c : Char} (hc : c ∉ w) (h : w <:+: a ++ c :: b) :
    w <:+: a ∨ w <:+: b := by
  obtain ⟨s, t, h⟩ := h
  rcases List.append_eq_append_iff.1 h with ⟨x, rfl, -⟩ | ⟨x, hx, hb⟩
  · exact .inl ((List.infix_append s w x))
  · cases x with
    | nil =>
      rw [List.append_nil] at hx
      exact .inl ⟨s, [], by rw [List.append_nil, hx]⟩
    | cons d x =>
      obtain ⟨rfl, rfl⟩ := List.cons.inj hb
      rcases List.append_eq_append_iff.1 hx with ⟨y, -, rfl⟩ | ⟨y, -, hy⟩
      · exact absurd (by simp) hc
      · cases y with
        | nil =>
          rw [List.nil_append] at hy
          exact absurd (hy ▸ List.mem_cons_self) hc
        | cons e y =>
          obtain ⟨-, rfl⟩ := List.cons.inj hy
          exact .inr (List.infix_append y w t)

lemma ne_of_isLabel {l : List Char} (h : isLabel l = true) : ∀ c ∈ l, c ≠ '<' ∧ c ≠ '>' := by
  intro c hc
  have hchar := isLabelChar_of_isLabel h c hc
  constructor
  · rintro rfl
    revert hchar
    decide
  · rintro rfl
    revert hchar
    decide

lemma exists_of_isOpening (h : IsOpening p) : ∃ t, p = '<' :: t ∧ '<' ∉ t ∧ "schema".toList <:+: t := by
  rcases h with rfl | ⟨l, hl, rfl⟩
  · exact ⟨_, rfl, by decide, List.infix_rfl⟩
  · have hlabel : '<' ∉ l := fun hmem => (ne_of_isLabel hl _ hmem).1 rfl
    refine ⟨_, rfl, ?_, ⟨l ++ [':'], [], by simp⟩⟩
    simp [hlabel]

/-- No tag begins in a text without the name of a schema that a `<` follows. -/
lemma hasTag_of_free (hfree : ¬ "schema".toList <:+: before) {t : List Char} (hne : t ≠ [])
    (ht : t <:+ before) :
    hasTag (t ++ '<' :: m) = false := by
  refine Bool.eq_false_iff.2 fun htag => hfree ?_
  obtain ⟨p, m', heq, hp, -⟩ := hasTag_eq_true_iff.1 htag
  obtain ⟨q, rfl, hlt, hname⟩ := exists_of_isOpening hp
  obtain ⟨c, t, rfl⟩ := List.exists_cons_of_ne_nil hne
  have htail := (List.cons.inj heq).2
  have hsuffix : t <:+: before := ((List.suffix_cons c t).trans ht).isInfix
  rcases List.append_eq_append_iff.1 htail with ⟨a, rfl, ha⟩ | ⟨a, rfl, -⟩
  · cases a with
    | nil =>
      rw [List.append_nil] at hname
      exact hname.trans hsuffix
    | cons d a =>
      obtain ⟨rfl, -⟩ := List.cons.inj ha
      exact absurd (by simp) hlt
  · exact (hname.trans (List.prefix_append q a).isInfix).trans hsuffix

lemma isOpening_opening (h : ∀ l ∈ label, isLabel l = true) : IsOpening (opening label) := by
  cases label with
  | none => exact .inl rfl
  | some l => exact .inr ⟨l, h l rfl, by simp [opening]⟩

lemma not_mem_opening (h : ∀ l ∈ label, isLabel l = true) : '>' ∉ opening label := by
  cases label with
  | none => decide
  | some l =>
    have hl : '>' ∉ l := fun hmem => (ne_of_isLabel (h l rfl) _ hmem).2 rfl
    simp [opening, hl]

lemma free_opening (h : ∀ l ∈ label, ¬ "xmlns".toList <:+: l) : ¬ "xmlns".toList <:+: opening label := by
  have hschema : ¬ "xmlns".toList <:+: "schema".toList := by decide
  intro hinfix
  have hinner := (isInfix_cases (a := []) (by decide) hinfix).resolve_left (by decide)
  cases label with
  | none => exact hschema hinner
  | some l =>
    rw [Option.elim_some, List.append_assoc] at hinner
    exact (isInfix_cases (by decide) hinner).elim (h l rfl) hschema

lemma isWord_of_mem_head?_parts (h : ∀ part ∈ parts, part.IsWritten)
    (hm : ∀ c ∈ m.head?, Text.isWord c = false) :
    ∀ c ∈ (parts.flatMap TagPart.text ++ m).head?, Text.isWord c = false :=
  fun c hc => (isBlank_or_mem_head? h hc).elim isWord_of_isBlank (hm c)

/-- The search finds a start tag behind a text without the name of a schema. -/
lemma findTag?_opening {slash : List Char} (hslash : slash = [] ∨ slash = ['/'])
    (hbefore : ¬ "schema".toList <:+: before) (hlabel : ∀ l ∈ label, isLabel l = true)
    (hparts : ∀ part ∈ parts, part.IsWritten ∧ '>' ∉ part.text) :
    findTag? (before ++ (opening label ++ (parts.flatMap TagPart.text ++ slash) ++ '>' :: after)) =
      some (opening label ++ (parts.flatMap TagPart.text ++ slash)) := by
  have hwritten := fun part hpart => (hparts part hpart).1
  have hmark : '>' ∉ opening label ++ (parts.flatMap TagPart.text ++ slash) := by
    simp only [List.mem_append, List.mem_flatMap, not_or, not_exists, not_and]
    exact ⟨not_mem_opening hlabel, fun part hpart => (hparts part hpart).2,
      by rcases hslash with rfl | rfl <;> simp⟩
  have hend : ∀ c ∈ (slash ++ '>' :: after).head?, Text.isWord c = false := by
    rcases hslash with rfl | rfl
    · rintro c ⟨⟩
      decide
    · rintro c ⟨⟩
      decide
  have hword := isWord_of_mem_head?_parts hwritten hend
  have htag : hasTag (opening label ++ (parts.flatMap TagPart.text ++ slash) ++ '>' :: after) = true := by
    refine hasTag_eq_true_iff.2 ⟨opening label, parts.flatMap TagPart.text ++ (slash ++ '>' :: after), ?_,
      isOpening_opening hlabel, hword, by simp⟩
    simp only [List.append_assoc]
  have hskip : ∀ t, t ≠ [] → t <:+ before →
      hasTag (t ++ (opening label ++ (parts.flatMap TagPart.text ++ slash) ++ '>' :: after)) = false :=
    fun t hne ht => hasTag_of_free hbefore hne ht
  rw [findTag?_append hskip, findTag?_of_hasTag htag, takeWhile_ne_append hmark]

/-- **The declarations of a start tag are found.** A start tag of a schema stands in a text behind something in
which `schema` does not occur, and before anything. It has a label of the form that is looked for, or none, in
which `xmlns` does not occur, and its parts have no `>`. Then the search finds the namespaces that the parts
declare and nothing else: a label that is declared again keeps its place and has the last of its values. -/
theorem ofText_startTag (isEmpty : Bool) (hbefore : ¬ "schema".toList <:+: before)
    (hlabel : ∀ l ∈ label, isLabel l = true ∧ ¬ "xmlns".toList <:+: l)
    (hparts : ∀ part ∈ parts, part.IsWritten ∧ '>' ∉ part.text) :
    keys (ofText (before ++ startTag label parts isEmpty ++ after)) = (keys (declaredBy parts)).eraseDups ∧
    ∀ l, (ofText (before ++ startTag label parts isEmpty ++ after)).lookup l =
      (declaredBy parts).reverse.lookup l := by
  obtain ⟨slash, hslash, hend⟩ : ∃ slash : List Char, (slash = [] ∨ slash = ['/']) ∧
      startTag label parts isEmpty ++ after =
        opening label ++ (parts.flatMap TagPart.text ++ slash) ++ '>' :: after := by
    cases isEmpty
    · exact ⟨[], .inl rfl, by simp [startTag]⟩
    · exact ⟨['/'], .inr rfl, by simp [startTag]⟩
  have hnext : ∀ c ∈ slash.head?, c ∉ "xmlns".toList := by
    rcases hslash with rfl | rfl <;> simp
  have hlast : declarations slash = [] := by
    rcases hslash with rfl | rfl
    · exact declarations_nil
    · rw [declarations_cons_of_none (by decide), declarations_nil]
  have hwritten := fun part hpart => (hparts part hpart).1
  have hopening := free_opening fun l hl => (hlabel l hl).2
  have hfound : ofText (before ++ startTag label parts isEmpty ++ after) = fieldsOf (declaredBy parts) := by
    rw [ofText, List.append_assoc, hend,
      findTag?_opening hslash hbefore (fun l hl => (hlabel l hl).1) hparts]
    simp only
    rw [declarations_append_of_free hopening (not_mem_of_mem_head? hwritten hnext),
      declarations_parts hwritten hnext, hlast, List.append_nil]
  rw [hfound]
  exact ⟨keys_fieldsOf _, fun l => lookup_fieldsOf l _⟩

/-- Three declarations and something else in the tag, one of the labels twice. -/
def sampleParts : List TagPart :=
  [.declaration ['\n', ' '] (some ['a']) [' '] ['\t'] '\'' "u\"xmlns:z=".toList, .other " b=\"xm".toList,
    .declaration [' '] none [] [] '"' "v".toList, .declaration ['\xa0'] (some ['a']) [] [] '"' []]

/-- The start tag with these parts, behind a `<` that begins no tag and before another tag. -/
theorem ofText_startTag_twice :
    (¬ "schema".toList <:+: "<x:".toList) ∧
    (∀ l ∈ some "x".toList, isLabel l = true ∧ ¬ "xmlns".toList <:+: l) ∧
    (∀ part ∈ sampleParts, part.IsWritten ∧ '>' ∉ part.text) ∧
    keys (ofText ("<x:".toList ++ startTag (some "x".toList) sampleParts true ++ "<schema xmlns='w'>".toList)) =
      ["a", ""] := by
  have hbefore : ¬ "schema".toList <:+: "<x:".toList := by decide
  have hlabel : ∀ l ∈ some "x".toList, isLabel l = true ∧ ¬ "xmlns".toList <:+: l := by
    rintro _ ⟨⟩
    decide
  have hparts : ∀ part ∈ sampleParts, part.IsWritten ∧ '>' ∉ part.text := by
    simp only [sampleParts, List.forall_mem_cons, List.not_mem_nil, false_implies, implies_true, and_true]
    have hblank {cs : List Char} (h : cs.Forall (isBlank · = true)) : ∀ c ∈ cs, isBlank c = true :=
      List.forall_iff_forall_mem.1 h
    refine
      ⟨⟨.declaration (by decide) (hblank (by decide)) ?_ (hblank (by decide)) (hblank (by decide)) (.inr rfl)
          (by decide), by decide⟩,
        ⟨.other (by decide) (by decide), by decide⟩,
        ⟨.declaration (by decide) (hblank (by decide)) nofun (hblank (by decide)) (hblank (by decide)) (.inl rfl)
          (by decide), by decide⟩,
        ⟨.declaration (by decide) (hblank (by decide)) ?_ (hblank (by decide)) (hblank (by decide)) (.inl rfl)
          (by decide), by decide⟩⟩
    · rintro _ ⟨⟩
      decide
    · rintro _ ⟨⟩
      decide
  refine ⟨hbefore, hlabel, hparts, ?_⟩
  rw [(ofText_startTag true hbefore hlabel hparts).1]
  decide

end ApiContract.Schema.Namespaces
