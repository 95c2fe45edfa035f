import ApiContract.Proofs.Front
import ApiContract.Proofs.Xml.StartTag
import ApiContract.Xml.Reader

/-!
The text of elements without attributes. A tag with a name of letters is scanned as such, whatever follows
it, and so the text of an element is read as one more child of the element around it, if the text
between its tags is read as its children (`ReadsAs.element`).
-/

namespace ApiContract.Xml

open ApiContract.Text

variable {a : Alphabet} {d : Declarations} {scope : Scope} {fs fs' : Frames} {cs rest body : List Char}
  {name space : String} {children : List Node}

/-! ### Tags -/

/-- The name is made of letters of ASCII. -/
def IsPlainName (name : String) : Prop := name.toList ≠ [] ∧ ∀ c ∈ name.toList, c.isAlpha = true

instance (name : String) : Decidable (IsPlainName name) :=
  decidable_of_iff (name.toList ≠ [] ∧ name.toList.all Char.isAlpha = true) (by rw [List.all_eq_true, IsPlainName])

lemma toNat_lt_of_isAlpha {c : Char} (h : c.isAlpha = true) : c.toNat < 128 :=
  Nat.lt_of_le_of_lt (toNat_of_isAlpha h).2 (by decide)

lemma ne_of_isAlpha {c t : Char} (h : c.isAlpha = true) (ht : t.isAlpha = false) : c ≠ t := by
  rintro rfl
  exact Bool.false_ne_true (ht.symm.trans h)

lemma IsPlainName.exists_cons (h : IsPlainName name) :
    ∃ c cs, name.toList = c :: cs ∧ c.isAlpha = true ∧ ∀ x ∈ cs, x.isAlpha = true := by
  obtain ⟨c, cs, hcs⟩ := List.exists_cons_of_ne_nil h.1
  have hchars := h.2
  rw [hcs] at hchars
  exact ⟨c, cs, hcs, List.forall_mem_cons.1 hchars⟩

lemma IsPlainName.toNat_lt (h : IsPlainName name) : ∀ c ∈ name.toList, c.toNat < 128 :=
  fun c hc => toNat_lt_of_isAlpha (h.2 c hc)

lemma isNameStart_of_isAlpha {c : Char} (h : c.isAlpha = true) : a.isNameStart c = true := by
  rw [Alphabet.isNameStart, if_pos (toNat_lt_of_isAlpha h), h]
  rfl

lemma scanName_plain (hname : IsPlainName name) {t : Char} (ht : isMark t = true) (rest : List Char) :
    scanName a (name.toList ++ t :: rest) = .ok (name, t :: rest) := by
  obtain ⟨c, cs, hcs, hc, htail⟩ := hname.exists_cons
  have hpos : ∀ x ∈ cs, a.isNameChar x = true := fun x hx =>
    isNameChar_of_isNameStart (isNameStart_of_isAlpha (htail x hx))
  have hneg : ∀ x ∈ (t :: rest).head?, a.isNameChar x = false := by
    rintro _ ⟨⟩
    exact isNameChar_of_isMark ht
  have hcut : startsCut (t :: rest) = false := by
    refine beq_false_of_ne fun heq => ?_
    cases heq
    cases ht
  rw [hcs, List.cons_append, scanName, if_pos (isNameStart_of_isAlpha hc), takeWhile_append_of_head? hpos hneg,
    dropWhile_append_of_head? hpos hneg, hcut, ← hcs, String.ofList_toList]
  rfl

lemma scanRawName_plain (hname : IsPlainName name) {t : Char} (ht : isMark t = true) (rest : List Char) :
    scanRawName a (name.toList ++ t :: rest) = .ok (⟨none, name⟩, t :: rest) := by
  rw [scanRawName, scanName_plain hname ht]
  split
  · cases ‹_›
  · rename_i heq
    cases heq
    cases ht
  · rename_i heq
    cases heq
    rfl

lemma scanAttributes_nil (rest : List Char) : scanAttributes a ('>' :: rest) = .ok (([], false), rest) := by
  rw [scanAttributes]
  rfl

lemma scanStop_plain (hname : IsPlainName name) (rest : List Char) :
    scanStop a (name.toList ++ '>' :: rest) = .ok (.stop name, rest) := by
  obtain ⟨c, cs, hcs, hc, htail⟩ := hname.exists_cons
  have hpos : ∀ x ∈ cs, isStopChar a x = true := fun x hx => by
    rw [isStopChar, isNameChar_of_isNameStart (isNameStart_of_isAlpha (htail x hx)), Bool.true_or]
  have hneg : ∀ x ∈ ('>' :: rest).head?, isStopChar a x = false := by
    rintro _ ⟨⟩
    rfl
  rw [hcs, List.cons_append, scanStop, if_neg (not_not_intro (isNameStart_of_isAlpha hc)),
    takeWhile_append_of_head? hpos hneg, dropWhile_append_of_head? hpos hneg, ← hcs, String.ofList_toList]
  rfl

lemma scanLexeme_of_scanStart (hname : IsPlainName name) {l : Lexeme}
    (h : scanStart a (name.toList ++ cs) = .ok (l, rest)) :
    scanLexeme a ('<' :: (name.toList ++ cs)) = .ok (l, rest) := by
  have hmarkup (start : List Char) : scanMarkup a start (name.toList ++ cs) =
      (scanStart a (name.toList ++ cs)).within start := by
    obtain ⟨c, name', hcs, hc, -⟩ := hname.exists_cons
    have hslash : c ≠ '/' := ne_of_isAlpha hc rfl
    have hquestion : c ≠ '?' := ne_of_isAlpha hc rfl
    have hexclaim : c ≠ '!' := ne_of_isAlpha hc rfl
    rw [hcs, List.cons_append, scanMarkup] <;> simp [hslash, hquestion, hexclaim]
  rw [scanLexeme]
  · rw [if_pos rfl, hmarkup, h]
    rfl
  all_goals exact nofun

/-- **A start tag is scanned as such**, whatever follows it. -/
theorem scanLexeme_start (hname : IsPlainName name) (rest : List Char) :
    scanLexeme a ('<' :: (name.toList ++ '>' :: rest)) = .ok (.start ⟨none, name⟩ [] false, rest) := by
  refine scanLexeme_of_scanStart hname ?_
  rw [scanStart, scanRawName_plain hname rfl]
  simp only [scanAttributes_nil]

/-- **An end tag is scanned as such**, whatever follows it. -/
theorem scanLexeme_stop (hname : IsPlainName name) (rest : List Char) :
    scanLexeme a ('<' :: '/' :: (name.toList ++ '>' :: rest)) = .ok (.stop name, rest) := by
  rw [scanLexeme]
  · rw [if_pos rfl, scanMarkup, scanStop_plain hname]
    rfl
  all_goals exact nofun

/-! ### Content -/

/-- The text of an element with a text between its tags. -/
def elementText (name : String) (body : List Char) : List Char :=
  '<' :: (name.toList ++ '>' :: (body ++ '<' :: '/' :: (name.toList ++ ['>'])))

/-- Where the names stand for the same things, the text is read as these children, whatever follows it. -/
def ReadsAs (a : Alphabet) (d : Declarations) (scope : Scope) (text : List Char) (children : List Node) : Prop :=
  ∀ (f : Frame) (fs : Frames) (rest : List Char), f.scope = scope →
    readContent a d (f :: fs) (text ++ rest) =
      readContent a d ({ f with children := children.reverse ++ f.children } :: fs) rest

/-- A lexeme after which elements are open is read and left behind. -/
lemma readContent_of_within {l : Lexeme} (hl : scanLexeme a cs = .ok (l, rest))
    (hs : fs.step a d cs l = .ok (.within fs')) : readContent a d fs cs = readContent a d fs' rest := by
  rw [readContent]
  split
  · rename_i e he
    cases hl.symm.trans he
  · rename_i l' rest' hl'
    cases hl.symm.trans hl'
    rw [hs]

lemma ReadsAs.nil : ReadsAs a d scope [] [] := fun _ _ _ _ => rfl

/-- An element without attributes is in the default namespace. -/
lemma openElement_plain (hrules : d.rulesOf name = []) (hspace : scope.lookup none = some space)
    (hfull : space.isEmpty = false) (start : List Char) : openElement a d scope start ⟨none, name⟩ [] =
      .ok ⟨⟨none, name⟩, ⟨some space, name⟩, [], scope, []⟩ := by
  have hname : scope.elementName start ⟨none, name⟩ = .ok ⟨some space, name⟩ := by
    simp only [Scope.elementName, hspace, hfull, Bool.false_eq_true, if_false]
  have hwritten : d.rulesOf (RawName.mk none name).written = [] := hrules
  simp only [openElement, hwritten, writtenAttributes, defaultAttributes, bindAttributes, List.filterMap_nil,
    Scope.attributeNames, List.append_nil, bind, Except.bind, hname]
  rfl

/-- **An element is read as one child**, if what is between its tags is read as its children. -/
theorem ReadsAs.element (hname : IsPlainName name) (hrules : d.rulesOf name = [])
    (hspace : scope.lookup none = some space) (hfull : space.isEmpty = false)
    (hbody : ReadsAs a d scope body children) :
    ReadsAs a d scope (elementText name body) [.element ⟨some space, name⟩ [] children] := by
  intro f fs rest hf
  have htext : elementText name body ++ rest = '<' :: (name.toList ++ '>' ::
      (body ++ '<' :: '/' :: (name.toList ++ '>' :: rest))) := by
    simp [elementText]
  have hstart : Frames.step a d (f :: fs) (elementText name body ++ rest) (.start ⟨none, name⟩ [] false) =
      .ok (.within (⟨⟨none, name⟩, ⟨some space, name⟩, [], scope, []⟩ :: f :: fs)) := by
    simp only [Frames.step, Frames.scope, hf, openElement_plain hrules hspace hfull]
    rfl
  have hstop (start : List Char) : Frames.step a d (⟨⟨none, name⟩, ⟨some space, name⟩, [], scope,
      children.reverse ++ []⟩ :: f :: fs) start (.stop name) =
      .ok (.within ({ f with children := .element ⟨some space, name⟩ [] children :: f.children } :: fs)) := by
    have hwritten : (RawName.mk none name).written = name := rfl
    simp only [Frames.step, hwritten, if_true, Frames.add, Frame.toNode, List.append_nil, List.reverse_reverse]
  rw [readContent_of_within (htext ▸ scanLexeme_start hname _) hstart, hbody _ _ _ rfl,
    readContent_of_within (scanLexeme_stop hname rest) (hstop _)]
  rfl

end ApiContract.Xml
