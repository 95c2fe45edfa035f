import ApiContract.Proofs.Schema.Labels
import ApiContract.Proofs.Schema.Simulation

/-!
Imported documents that nothing refers to. If no element of a document refers to another document with
some label, and no element of the other imported documents does, then what is imported under the label
is of no account, for every type and however deep references go (`schemas_of_unused`). References with
no label, with a label of the document's own or with one for XML Schema lead to no imported document.
-/

namespace ApiContract.Schema

variable {imports imports' : Imports} {d x : Document} {e : ElementDecl} {label name : String}

/-! ### References to other documents -/

/-- The label of a reference to another document. -/
def TypeRef.foreignLabel? : TypeRef → Option String
  | foreign label _ => some label
  | _ => none

/-- The label with which the element refers to another document, if it does. -/
def ElementDecl.foreignLabel? (d : Document) (e : ElementDecl) : Option String :=
  (TypeRef.resolve d e.typeRef).bind TypeRef.foreignLabel?

/-- No element that a type of the document takes up refers to another document with this label. -/
def Document.Avoids (d : Document) (label : String) : Prop :=
  ∀ t ∈ d.types, ∀ e ∈ t.elements, e.foreignLabel? d ≠ some label

instance : Decidable (d.Avoids label) := by unfold Document.Avoids; infer_instance

/-- The reference has no label, or its label is one of the document's own or one for XML Schema. -/
def Document.Knows (d : Document) (ref : String) : Prop :=
  ':' ∉ ref.toList ∨ ∃ label name, ref = label ++ ":" ++ name ∧ ':' ∉ label.toList ∧
    (label ∈ d.ownLabels ∨ label ∈ reservedLabels ∨ label ∈ d.xsdLabels)

lemma ElementDecl.foreignLabel?_of_foreign
    (h : TypeRef.resolve d e.typeRef = some (.foreign label name)) :
    e.foreignLabel? d = some label := by
  rw [foreignLabel?, h]
  rfl

lemma ElementDecl.foreignLabel?_of_knows {ref : String} (he : e.typeRef = some ref)
    (h : d.Knows ref) : e.foreignLabel? d = none := by
  unfold foreignLabel?
  cases hr : TypeRef.resolve d e.typeRef with
  | none => rfl
  | some t =>
    cases t with
    | own name => rfl
    | builtin name => rfl
    | foreign label name =>
      rw [TypeRef.resolve_eq_foreign_iff, he, Option.some.injEq] at hr
      obtain ⟨rfl, hl, hown, hres, hxsd⟩ := hr
      rcases h with h | ⟨l, n, heq, hl', h⟩
      · simp at h
      · obtain ⟨rfl, -⟩ := label_name_inj hl hl' heq
        exact absurd h (by simp [hown, hres, hxsd])

/-! ### Where references lead -/

/-- The only imported document that matters to an element is the one under its label. -/
lemma ElementDecl.target_congr
    (h : ∀ l, e.foreignLabel? d = some l → imports.lookup l = imports'.lookup l) :
    e.target imports d = e.target imports' d := by
  unfold target
  cases hr : TypeRef.resolve d e.typeRef with
  | none => rfl
  | some ref =>
    cases ref with
    | own name => rfl
    | builtin name => rfl
    | foreign l name => simp only [Target.ofRef, h l (foreignLabel?_of_foreign hr)]

/-- An element leads to its own document, or to the one under the label of its reference. -/
lemma ElementDecl.document_of_target_cases (ht : e.target imports d = .type x name) :
    x = d ∨ ∃ l, e.foreignLabel? d = some l ∧ imports.lookup l = some x := by
  unfold target Target.ofRef at ht
  split at ht
  · cases ht
  · rename_i hr
    split at ht
    · rename_i hl
      cases ht
      exact .inr ⟨_, foreignLabel?_of_foreign hr, hl⟩
    · cases ht
  · split at ht <;> cases ht
  · split at ht
    · cases ht
    · cases ht; exact .inl rfl

/-- A reference that the document knows leads to no other document, whatever is imported. -/
lemma ElementDecl.target_of_knows {ref : String} (he : e.typeRef = some ref) (h : d.Knows ref) :
    (∀ imports', e.target imports' d = e.target imports d) ∧
      ∀ x name, e.target imports d = .type x name → x = d := by
  have hl := foreignLabel?_of_knows he h
  refine ⟨fun imports' => target_congr fun l hl' => ?_, fun x name ht => ?_⟩
  · rw [hl] at hl'; cases hl'
  · rcases document_of_target_cases ht with rfl | ⟨l, hl', -⟩
    · rfl
    · rw [hl] at hl'; cases hl'

/-! ### Imports that differ under one label -/

/-- The same documents are imported, but for the one under the label. -/
def Imports.SameApartFrom (label : String) (imports imports' : Imports) : Prop :=
  ∀ l, l ≠ label → imports.lookup l = imports'.lookup l

/-- The imported documents without the one under the label. -/
def Imports.without (imports : Imports) (label : String) : Imports :=
  imports.filter (·.1 != label)

lemma Imports.sameApartFrom_without (imports : Imports) (label : String) :
    SameApartFrom label imports (Imports.without imports label) := by
  intro l hl
  induction imports with
  | nil => rfl
  | cons p imports ih =>
    obtain ⟨k, x⟩ := p
    unfold without at ih ⊢
    by_cases hk : k = label
    · rw [List.filter_cons_of_neg (by simpa using hk), lookup_pair, if_neg (hk ▸ hl), ih]
    · rw [List.filter_cons_of_pos (by simpa using hk), lookup_pair, lookup_pair, ih]

lemma Imports.sameApartFrom_putField (imports : Imports) (label : String) (x : Document) :
    SameApartFrom label imports (putField label x imports) := by
  intro l hl
  rw [lookup_putField, if_neg hl]

/-- No imported document refers to another one with the label, but perhaps the one under it. -/
def Imports.Avoid (imports : Imports) (label : String) : Prop :=
  ∀ l x, l ≠ label → imports.lookup l = some x → x.Avoids label

lemma Imports.avoid_of_forall (h : ∀ p ∈ imports, p.1 ≠ label → p.2.Avoids label) :
    Imports.Avoid imports label := fun l x hl hx => h (l, x) (mem_of_lookup_eq_some hx) hl

/-- Documents without references with the label simulate themselves: every document that can be
reached from them is another such document. -/
def isolation (hm : Imports.SameApartFrom label imports imports') (ha : Imports.Avoid imports label) :
    Simulation imports imports' where
  element := id
  Related d d' := d = d' ∧ d.Avoids label
  withoutType_element := ElementDecl.withoutType_id
  findType? h name := by rw [← h.1, Document.map_id_findType?]
  target := by
    rintro d _ ⟨rfl, hd⟩ name t ht e he
    have hlabel : ∀ l, e.foreignLabel? d = some l → l ≠ label := fun l hl hne =>
      hd t (List.mem_of_find?_eq_some ht) e he (hne ▸ hl)
    rw [id, ← ElementDecl.target_congr fun l hl => hm l (hlabel l hl)]
    refine .of_self fun x n hx => ⟨rfl, ?_⟩
    rcases ElementDecl.document_of_target_cases hx with rfl | ⟨l, hl, hx⟩
    · exact hd
    · exact ha l x (hlabel l hl) hx

/-- What is imported under a label that nothing refers to is of no account. -/
theorem typeSchema_of_sameApartFrom (hm : Imports.SameApartFrom label imports imports')
    (ha : Imports.Avoid imports label) (hd : d.Avoids label) (chain : List String)
    (defaultType name : String) :
    typeSchema imports' d chain defaultType name = typeSchema imports d chain defaultType name :=
  ((isolation hm ha).typeSchema_eq ⟨rfl, hd⟩ chain defaultType name).symm

/-- **Imports are isolated.** A document does not refer to another one with some label, and neither do
its imports, but perhaps the one under this label. Then the schemas of its types are the same without
this import, and with any other document in its place. And in every document a reference with no
label, with one of the document's own or with one for XML Schema leads to no imported document and
does not depend on what is imported. -/
theorem schemas_of_unused (imports : Imports) (d : Document) (label : String) :
    (d.Avoids label → Imports.Avoid imports label → ∀ chain defaultType name,
      typeSchema (Imports.without imports label) d chain defaultType name =
          typeSchema imports d chain defaultType name ∧
        ∀ x, typeSchema (putField label x imports) d chain defaultType name =
          typeSchema imports d chain defaultType name) ∧
      ∀ (e : ElementDecl) (ref : String), e.typeRef = some ref → d.Knows ref →
        (∀ imports', e.target imports' d = e.target imports d) ∧
          ∀ x name, e.target imports d = .type x name → x = d := by
  refine ⟨fun hd ha chain defaultType name => ⟨?_, fun x => ?_⟩, fun e ref he h => ?_⟩
  · exact typeSchema_of_sameApartFrom (Imports.sameApartFrom_without imports label) ha hd _ _ _
  · exact typeSchema_of_sameApartFrom (Imports.sameApartFrom_putField imports label x) ha hd _ _ _
  · exact ElementDecl.target_of_knows he h

/-- Two documents are imported and nothing refers to the first one: neither the document nor the second
import, whose type `v` is its own. -/
theorem schemas_of_unused_first :
    let imports := [("p", Document.ofTypes [sequenceOf "v" "z" (some "q:u")]),
      ("q", Document.ofTypes [sequenceOf "u" "y" (some "tns:v"), sequenceOf "v" "w" none])]
    let d := Document.ofTypes [sequenceOf "t" "x" (some "q:u")]
    let e := { ElementDecl.ofName "r" with typeRef := some "tns:t" }
    d.Avoids "p" ∧ Imports.Avoid imports "p" ∧ d.Knows "tns:t" ∧
      typeSchema (Imports.without imports "p") d [] "string" "t" =
        typeSchema imports d [] "string" "t" ∧
      typeSchema (putField "p" (.ofTypes [⟨"v", none⟩]) imports) d [] "string" "t" =
        typeSchema imports d [] "string" "t" ∧
      keys (typeSchema imports d [] "string" "t").properties = ["x"] ∧
      e.target [] d = e.target imports d := by
  intro imports d e
  have hd : d.Avoids "p" := by decide
  have ha : Imports.Avoid imports "p" := Imports.avoid_of_forall (by decide)
  have hknows : d.Knows "tns:t" := .inr ⟨"tns", "t", by decide, by decide, .inl (by decide)⟩
  obtain ⟨hwithout, hput⟩ := (schemas_of_unused imports d "p").1 hd ha [] "string" "t"
  refine ⟨hd, ha, hknows, hwithout, hput _, ?_,
    ((schemas_of_unused imports d "p").2 e "tns:t" rfl hknows).1 []⟩
  rw [typeSchema_of_sequence (by decide) rfl]
  decide

end ApiContract.Schema
