import ApiContract.Proofs.Schema.Coverage
import ApiContract.Proofs.Schema.Required

/-!
The object of elements in closed form. Its properties are named by the elements, in the order in which the
names come up first, and the last element of a name makes the property; its required names are those of the
elements that must occur and are not repeated (`Node.IsObjectOf`). Every list of elements makes such an
object: the elements of a type with a sequence do, and those of each branch of a choice
(`isObjectOf_schemas`).
-/

namespace ApiContract.Schema

open Contract

variable {imports : Imports} {d : Document} {chain : List String} {defaultType : String}

namespace ElementDecl

/-- The lower bound is one: it is written so, or it is not written. -/
def MinIsOne (e : ElementDecl) : Prop := e.minOccurs = none ∨ e.minOccurs = some "1"

/-- The upper bound is one: it is written so, or it is not written. -/
def MaxIsOne (e : ElementDecl) : Prop := e.maxOccurs = none ∨ e.maxOccurs = some "1"

instance (e : ElementDecl) : Decidable e.MinIsOne := by unfold MinIsOne; infer_instance

instance (e : ElementDecl) : Decidable e.MaxIsOne := by unfold MaxIsOne; infer_instance

lemma isRequired_iff {e : ElementDecl} : e.isRequired = true ↔ e.MinIsOne := by
  simp [isRequired, MinIsOne]

lemma isRepeated_iff {e : ElementDecl} : e.isRepeated = true ↔ ¬ e.MaxIsOne := by
  simp [isRepeated, MaxIsOne, Option.isSome_iff_ne_none]

lemma isSingle_iff {e : ElementDecl} : e.isSingle = true ↔ e.MinIsOne ∧ e.MaxIsOne := by
  rw [isSingle, Bool.and_eq_true, Bool.not_eq_true', ← Bool.not_eq_true, isRequired_iff, isRepeated_iff,
    not_not]

end ElementDecl

namespace Node

/-- **The node is the object of the elements**, where `schemaOf` tells the schemas of their types. -/
structure IsObjectOf (schemaOf : ElementDecl → Node) (es : List ElementDecl) (n : Node) : Prop where
  isObject : n.isObject = true
  facets_eq : n.facets = .none
  keys_properties : keys n.properties = (es.map (·.name)).eraseDups
  lookup_properties : ∀ k e, lastNamed ElementDecl.name k es = some e → n.properties.lookup k =
    some (if e.MaxIsOne then (schemaOf e).withFacets ⟨e.defaultValue, e.fixedValue, e.documentation⟩
      else .array (schemaOf e) ⟨e.defaultValue, e.fixedValue, e.documentation⟩)
  required_eq_none_iff : n.required = none ↔ ∀ e ∈ es, ¬ e.MinIsOne
  required_eq : ∀ names, n.required = some names →
    names = ((es.filter fun e => e.MinIsOne ∧ e.MaxIsOne).map (·.name)).eraseDups

lemma ofField_eq (e : ElementDecl) (n : Node) : ofField e n =
    if e.MaxIsOne then n.withFacets ⟨e.defaultValue, e.fixedValue, e.documentation⟩
    else .array n ⟨e.defaultValue, e.fixedValue, e.documentation⟩ := by
  unfold ofField
  by_cases h : e.MaxIsOne
  · rw [if_neg (mt ElementDecl.isRepeated_iff.1 (not_not.2 h)), if_pos h]
    rfl
  · rw [if_pos (ElementDecl.isRepeated_iff.2 h), if_neg h]
    rfl

lemma singleNames_fieldNodes (es : List ElementDecl) :
    singleNames (fieldNodes imports d chain defaultType es) =
      (es.filter fun e => e.MinIsOne ∧ e.MaxIsOne).map (·.name) := by
  unfold singleNames fieldNodes
  rw [List.filter_map, List.map_map]
  refine congrArg (List.map _) (List.filter_congr fun e _ => ?_)
  rw [Bool.eq_iff_iff, decide_eq_true_iff, ← ElementDecl.isSingle_iff, Function.comp_apply,
    elementSchema, isArray_ofField]
  rfl

/-- The fields of elements make the object of the elements. -/
theorem isObjectOf_ofFields (es : List ElementDecl) :
    (ofFields (fieldNodes imports d chain defaultType es)).IsObjectOf
      (elementSchema imports d chain defaultType) es where
  isObject := rfl
  facets_eq := rfl
  keys_properties := by
    rw [properties_ofFields, keys_fieldsOf, keys, fieldNodes, List.map_map, List.map_map]
    rfl
  lookup_properties k e he := by
    rw [lookup_properties_ofFields, he, Option.map_some, ofField_eq]
  required_eq_none_iff := by
    rw [required_ofFields]
    simp [fieldNodes, ← ElementDecl.isRequired_iff]
  required_eq names h := by
    rw [required_ofFields, singleNames_fieldNodes] at h
    split at h
    · exact (Option.some.inj h).symm
    · cases h

end Node

/-! ### The schemas of types -/

/-- **Objects in closed form.** Every list of elements makes the object of the elements, whatever types are
being expanded. The schema of a declared type with a sequence is the object of the elements of the sequence,
and that of a type with a choice has one object for each branch, in the order of the branches. -/
theorem isObjectOf_schemas (imports : Imports) (d : Document) (chain : List String)
    (defaultType : String) :
    (∀ es, (Node.ofFields (fieldNodes imports d chain defaultType es)).IsObjectOf
      (elementSchema imports d chain defaultType) es) ∧
    ∀ name t, name ∉ chain → d.findType? name = some t →
      (∀ ms, t.content = some ⟨.sequence, ms⟩ →
        (typeSchema imports d chain defaultType name).IsObjectOf
          (elementSchema imports d (name :: chain) defaultType) (Particle.sequenceElements ms)) ∧
      ∀ max ms, t.content = some ⟨.choice max, ms⟩ → ∃ ns,
        typeSchema imports d chain defaultType name =
          .combinator (if max = some "unbounded" then .anyOf else .oneOf) ns .none ∧
        List.Forall₂ (fun p n => n.IsObjectOf
          (elementSchema imports d (name :: chain) defaultType) (Particle.branch p)) ms ns := by
  refine ⟨Node.isObjectOf_ofFields, fun name t hc ht => ⟨?_, ?_⟩⟩
  · obtain ⟨tn, content⟩ := t
    rintro ms rfl
    rw [typeSchema_of_sequence hc ht]
    exact Node.isObjectOf_ofFields _
  · obtain ⟨tn, content⟩ := t
    rintro max ms rfl
    refine ⟨ms.map fun p =>
      .ofFields (fieldNodes imports d (name :: chain) defaultType p.branch), ?_, ?_⟩
    · rw [typeSchema_of_choice hc ht, ContentModel.branches_eq_map, List.map_map]
      simp only [isUnbounded, beq_iff_eq]
      rfl
    · rw [List.forall₂_map_right_iff, List.forall₂_same]
      exact fun p _ => Node.isObjectOf_ofFields p.branch

/-! ### An element that comes up again -/

/-- Three elements of two names: `a` must occur once, `b` may be left out, and then `a` may occur any number of
times. -/
def repeatedElements : List ElementDecl :=
  [{ ElementDecl.ofName "a" with typeRef := some "xs:string" },
    { ElementDecl.ofName "b" with
      typeRef := some "xs:boolean", minOccurs := some "0", defaultValue := some "true" },
    { ElementDecl.ofName "a" with
      typeRef := some "xs:integer", maxOccurs := some "unbounded", documentation := some "More." }]

/-- A document where `s` is the sequence of these elements, and `t` an unbounded choice of an element of the
type `s` and of the same sequence. -/
def repeatedElementTypes : Document :=
  let members := repeatedElements.map Particle.element
  .ofTypes [⟨"s", some ⟨.sequence, members⟩⟩,
    ⟨"t", some ⟨.choice (some "unbounded"),
      [.element { ElementDecl.ofName "c" with typeRef := some "s" }, .group .sequence members]⟩⟩]

/-- The schemas of both types, where the property `a` is an array, and its name is required. -/
theorem isObjectOf_schemas_repeated :
    let d := repeatedElementTypes
    let schemaS := typeSchema [] d [] "string" "s"
    let schemaT := typeSchema [] d [] "string" "t"
    let members := repeatedElements.map Particle.element
    let branches := [.element { ElementDecl.ofName "c" with typeRef := some "s" },
      .group .sequence members]
    "s" ∉ ([] : List String) ∧ d.findType? "s" = some ⟨"s", some ⟨.sequence, members⟩⟩ ∧
      schemaS.IsObjectOf (elementSchema [] d ["s"] "string") repeatedElements ∧
      keys schemaS.properties = ["a", "b"] ∧
      schemaS.properties.lookup "a" =
        some (.array (.primitive "integer" .none) ⟨none, none, some "More."⟩) ∧
      schemaS.required = some ["a"] ∧
    "t" ∉ ([] : List String) ∧
      d.findType? "t" = some ⟨"t", some ⟨.choice (some "unbounded"), branches⟩⟩ ∧
      ∃ ns, schemaT = .combinator .anyOf ns .none ∧
        List.Forall₂ (fun p n => n.IsObjectOf (elementSchema [] d ["t"] "string") (Particle.branch p))
          branches ns := by
  intro d schemaS schemaT members branches
  have hs : d.findType? "s" = some ⟨"s", some ⟨.sequence, members⟩⟩ := rfl
  have ht : d.findType? "t" = some ⟨"t", some ⟨.choice (some "unbounded"), branches⟩⟩ := rfl
  have hform := (isObjectOf_schemas [] d [] "string").2
  have hobject := (hform "s" _ (by decide) hs).1 members rfl
  refine ⟨by decide, hs, hobject, ?_, ?_, ?_, by decide, ht,
    (hform "t" _ (by decide) ht).2 _ branches rfl⟩
  · rw [hobject.keys_properties]
    rfl
  · rw [hobject.lookup_properties "a" _ rfl]
    rfl
  · cases hr : schemaS.required with
    | none => exact absurd (.inl rfl) (hobject.required_eq_none_iff.1 hr _ List.mem_cons_self)
    | some names =>
      rw [hobject.required_eq names hr]
      rfl

end ApiContract.Schema
