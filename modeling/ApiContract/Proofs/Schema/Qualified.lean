import ApiContract.Proofs.Schema.Labels
import ApiContract.Proofs.Schema.Scoping
import ApiContract.Proofs.Schema.Simulation

/-!
References with a label. A label of a document's own stands for this document, and a foreign one for the
document that is imported under it (`Document.Binds`). A reference with a foreign label to a declared type
has the schema of this type. One with a label of the document's own has it too, unless the type goes by the
name of a primitive type: then the primitive type stands in its place (`elementSchema_eq_typeSchema_iff`).
-/

namespace ApiContract.Schema

variable {imports : Imports} {d x : Document} {e : ElementDecl} {t : ComplexType} {p : Primitive}
  {chain : List String} {label name defaultType : String}

/-- The label stands in the first document for the second one: it is the document itself if the label is
one of its own, and the one imported under the label if the label is foreign. -/
inductive Document.Binds (imports : Imports) (d : Document) (label : String) : Document → Prop where
  | own (h : label ∈ d.ownLabels) : Binds imports d label d
  | imported {x : Document} (hown : label ∉ d.ownLabels) (hreserved : label ∉ reservedLabels)
      (hxsd : label ∉ d.xsdLabels) (hx : imports.lookup label = some x) : Binds imports d label x

/-! ### Labels of the document's own -/

lemma TypeRef.resolve_of_own (hl : ':' ∉ label.toList) (h : label ∈ d.ownLabels) :
    resolve d (some (label ++ ":" ++ name)) = some (.own name) := by
  have hne : (label ++ ":" ++ name).isEmpty = false := by
    rw [Bool.eq_false_iff, ne_eq, String.isEmpty_iff]
    exact label_append_ne_empty label name
  have hown : ofLabel d label name = .own name := by
    rw [ofLabel, if_pos (List.contains_iff_mem.2 h)]
  rw [resolve, hne, ofText_append hl, hown]
  rfl

section Own

variable (he : e.typeRef = some (label ++ ":" ++ name)) (hl : ':' ∉ label.toList)
  (h : label ∈ d.ownLabels)

include he hl h

lemma ElementDecl.target_of_own (hp : Primitive.ofXsd? name = none) :
    e.target imports d = .type d name := by
  rw [target, he, TypeRef.resolve_of_own hl h, Target.ofRef, hp]

lemma ElementDecl.target_of_own_primitive (hp : Primitive.ofXsd? name = some p) :
    e.target imports d = .primitive p := by
  rw [target, he, TypeRef.resolve_of_own hl h, Target.ofRef, hp]

/-- The name of a primitive type stands for this type, with a label of the document's own as well, and
whatever the document declares under it. -/
theorem elementSchema_of_own_primitive (hp : Primitive.ofXsd? name = some p) :
    elementSchema imports d chain defaultType e = .primitive p.text .none :=
  elementSchema_of_primitive (e.target_of_own_primitive he hl h hp)

end Own

/-! ### Foreign labels -/

lemma ElementDecl.target_of_imported (he : e.typeRef = some (label ++ ":" ++ name))
    (hl : ':' ∉ label.toList) (hown : label ∉ d.ownLabels) (hreserved : label ∉ reservedLabels)
    (hxsd : label ∉ d.xsdLabels) (hx : imports.lookup label = some x) :
    e.target imports d = .type x name := by
  have hr : TypeRef.resolve d e.typeRef = some (.foreign label name) :=
    TypeRef.resolve_eq_foreign_iff.2 ⟨he, hl, hown, hreserved, hxsd⟩
  rw [target_of_foreign imports hr, hx]

/-! ### Schemas -/

/-- The schema of a declared type is a leaf only if the type has no content model, and then it is the
default type. -/
lemma typeSchema_eq_primitive_iff {type : String} (ht : x.findType? name = some t) :
    typeSchema imports x chain defaultType name = .primitive type .none ↔
      name ∉ chain ∧ t.content = none ∧ type = defaultType := by
  by_cases hc : name ∈ chain
  · rw [typeSchema_of_mem hc]
    simp [hc]
  obtain ⟨n, _ | ⟨_ | max, ms⟩⟩ := t
  · rw [typeSchema_of_empty hc ht]
    simp [hc, eq_comm]
  · rw [typeSchema_of_sequence hc ht]
    simp [Node.ofFields]
  · rw [typeSchema_of_choice hc ht]
    simp

/-- **References with a label to declared types.** An element refers to a type with a label that stands
for a document, and the document declares the type. Then the element has the schema of the type, with
one exception: the label is one of the document's own and the type goes by the name of a primitive type.
In this case it is so by accident only: the type has no content model and is not cut off, and the default
type is that primitive type. -/
theorem elementSchema_eq_typeSchema_iff (he : e.typeRef = some (label ++ ":" ++ name))
    (hl : ':' ∉ label.toList) (hx : d.Binds imports label x) (ht : x.findType? name = some t)
    (chain : List String) (defaultType : String) :
    elementSchema imports d chain defaultType e = typeSchema imports x chain defaultType name ↔
      (label ∈ d.ownLabels → ∀ p, Primitive.ofXsd? name = some p →
        name ∉ chain ∧ t.content = none ∧ p.text = defaultType) := by
  cases hx with
  | imported hown hreserved hxsd hx =>
    have htarget : e.target imports d = .type x name :=
      e.target_of_imported he hl hown hreserved hxsd hx
    refine iff_of_true (elementSchema_of_type htarget) fun h => ?_
    exact absurd h hown
  | own hown =>
    cases hp : Primitive.ofXsd? name with
    | none =>
      refine iff_of_true (elementSchema_of_type (e.target_of_own he hl hown hp)) fun _ p hp' => ?_
      cases hp'
    | some p =>
      rw [elementSchema_of_own_primitive he hl hown hp, eq_comm, typeSchema_eq_primitive_iff ht]
      constructor
      · rintro h - _ ⟨⟩
        exact h
      · intro h
        exact h hown p rfl

/-! ### A type named like a primitive one -/

/-- A document that declares the types `date` and `day`. -/
def dates : Document := .ofTypes [sequenceOf "date" "y" (some "xs:string"),
  sequenceOf "day" "z" (some "tns:date")]

/-- A reference with a label of the document's own, and one from a document that imports it. -/
theorem elementSchema_eq_typeSchema_iff_dates :
    let imports := [("p", dates)]
    "tns" ∈ dates.ownLabels ∧ dates.Binds imports "tns" dates ∧
      dates.findType? "day" = some (sequenceOf "day" "z" (some "tns:date")) ∧
      elementSchema imports dates [] "string" (elementOf "x" "tns:day") =
        typeSchema imports dates [] "string" "day" ∧
      (Document.ofTypes []).Binds imports "p" dates ∧
      elementSchema imports (.ofTypes []) [] "string" (elementOf "x" "p:date") =
        typeSchema imports dates [] "string" "date" := by
  intro imports
  have hown : "tns" ∈ dates.ownLabels := by decide
  have himported : (Document.ofTypes []).Binds imports "p" dates :=
    .imported (by decide) (by decide) (by decide) rfl
  have hday : (elementOf "x" "tns:day").typeRef = some ("tns" ++ ":" ++ "day") := rfl
  have hdate : (elementOf "x" "p:date").typeRef = some ("p" ++ ":" ++ "date") := rfl
  refine ⟨hown, .own hown, rfl, ?_, himported, ?_⟩
  · refine (elementSchema_eq_typeSchema_iff hday (by decide) (.own hown) rfl [] "string").2 ?_
    intro _ p hp
    cases hp
  · refine (elementSchema_eq_typeSchema_iff hdate (by decide) himported rfl [] "string").2 ?_
    intro h
    exact absurd h (by decide)

/-- A reference to the type `date` of a document with a label of the document's own stands for the
primitive type of this name, while the same reference from a document that imports it is followed. -/
theorem own_type_passed_over :
    let imports := [("p", dates)]
    dates.Binds imports "tns" dates ∧ (dates.findType? "date").isSome ∧
      elementSchema imports dates [] "string" (elementOf "x" "tns:date") ≠
        typeSchema imports dates [] "string" "date" ∧
      elementSchema imports (.ofTypes []) [] "string" (elementOf "x" "p:date") =
        typeSchema imports dates [] "string" "date" := by
  intro imports
  have hown : "tns" ∈ dates.ownLabels := by decide
  have htns : (elementOf "x" "tns:date").typeRef = some ("tns" ++ ":" ++ "date") := rfl
  have hp : (elementOf "x" "p:date").typeRef = some ("p" ++ ":" ++ "date") := rfl
  have hprimitive : elementSchema imports dates [] "string" (elementOf "x" "tns:date") =
      .primitive "string" .none :=
    elementSchema_of_own_primitive htns (by decide) hown rfl
  refine ⟨.own hown, rfl, fun h => ?_, ?_⟩
  · have ht : dates.findType? "date" = some (sequenceOf "date" "y" (some "xs:string")) := rfl
    obtain ⟨-, hcontent, -⟩ := (typeSchema_eq_primitive_iff ht).1 (h.symm.trans hprimitive)
    cases hcontent
  · exact elementSchema_of_type
      (ElementDecl.target_of_imported hp (by decide) (by decide) (by decide) (by decide) rfl)

end ApiContract.Schema
