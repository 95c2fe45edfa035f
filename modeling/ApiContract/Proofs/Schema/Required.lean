import ApiContract.Proofs.Contract.Grouping
import ApiContract.Proofs.Schema.Objects
import ApiContract.Proofs.Schema.Simulation

/-!
The required names of objects. An element that must occur once, and once only, makes its name a required
one, and it stays so when a later element of the name takes over the property (`mem_requiredNames_iff`). So
every required name is there once and names a property; but the property is no array, and comes from an
element that must occur, only where the last element of a name must occur once if any of them must
(`required_of_part`).
-/

namespace ApiContract.Schema

open Contract

variable {imports : Imports} {d : Document} {chain : List String} {name defaultType n : String}
  {es : List ElementDecl}

/-- The element must occur, and not more than once. -/
def ElementDecl.isSingle (e : ElementDecl) : Bool := e.isRequired && !e.isRepeated

namespace Node

/-! ### Arrays -/

lemma isArray_withFacets (f : Facets) (n : Node) : (n.withFacets f).isArray = n.isArray := by
  cases n <;> rfl

lemma isArray_ofExpansion (x : Expansion) : (ofExpansion defaultType x).isArray = false := by
  cases x <;> rfl

/-- The property of an element is an array exactly if the element may occur more than once. -/
lemma isArray_ofField (e : ElementDecl) (x : Expansion) :
    (ofField e (ofExpansion defaultType x)).isArray = e.isRepeated := by
  unfold ofField
  rw [isArray_withFacets]
  cases e.isRepeated
  · exact isArray_ofExpansion x
  · rfl

/-! ### Required names -/

/-- The required names of an object. -/
def requiredNames : Node → List String
  | object _ r _ => r.getD []
  | _ => []

/-- The names of the fields that must occur and are no arrays. -/
def singleNames (fields : List (ElementDecl × Node)) : List String :=
  (fields.filter fun f => f.1.isRequired && !(ofField f.1 f.2).isArray).map fun f => f.1.name

lemma singleNames_concat (fields : List (ElementDecl × Node)) (f : ElementDecl × Node) :
    singleNames (fields ++ [f]) =
      if f.1.isRequired = true ∧ (ofField f.1 f.2).isArray = false then
        singleNames fields ++ [f.1.name]
      else singleNames fields := by
  unfold singleNames
  rw [List.filter_append, List.map_append, List.filter_singleton]
  cases f.1.isRequired <;> cases (ofField f.1 f.2).isArray <;> simp

/-- No names are left out where there is no list of them. -/
lemma getD_singleNames (fields : List (ElementDecl × Node)) :
    (if fields.any (·.1.isRequired) then some (singleNames fields).eraseDups else .none).getD [] =
      (singleNames fields).eraseDups := by
  cases ha : fields.any (·.1.isRequired)
  · have hnil : singleNames fields = [] := by
      rw [singleNames, List.map_eq_nil_iff, List.filter_eq_nil_iff]
      intro f hf hs
      exact List.any_eq_false.1 ha f hf (Bool.and_eq_true_iff.1 hs).1
    rw [hnil]
    rfl
  · rfl

lemma required_concat (fields : List (ElementDecl × Node)) (f : ElementDecl × Node) :
    (ofFields (fields ++ [f])).required =
      addRequired f.1 (ofField f.1 f.2) (ofFields fields).required := by
  unfold ofFields
  rw [List.foldl_append]
  rfl

/-- **The required names** are those of the fields that must occur and are no arrays, each once and in the
order in which they come up. There is no list of them if no field must occur. -/
theorem required_ofFields (fields : List (ElementDecl × Node)) : (ofFields fields).required =
    if fields.any (·.1.isRequired) then some (singleNames fields).eraseDups else .none := by
  induction fields using List.reverseRecOn with
  | nil => rfl
  | append_singleton fields f ih =>
    have hnames := getD_singleNames fields
    rw [← ih] at hnames
    have hany : (fields ++ [f]).any (·.1.isRequired) =
        (fields.any (·.1.isRequired) || f.1.isRequired) := by simp
    rw [required_concat, addRequired, hnames, singleNames_concat, hany]
    cases hr : f.1.isRequired
    · simp only [Bool.or_false]
      exact ih
    · cases ha : (ofField f.1 f.2).isArray <;> simp [eraseDups_concat, List.mem_eraseDups]

lemma requiredNames_ofFields (fields : List (ElementDecl × Node)) :
    (ofFields fields).requiredNames = (singleNames fields).eraseDups := by
  have h : (ofFields fields).requiredNames = (ofFields fields).required.getD [] := rfl
  rw [h, required_ofFields, getD_singleNames]

/-- **A required name is there once.** -/
theorem nodup_requiredNames (fields : List (ElementDecl × Node)) :
    (ofFields fields).requiredNames.Nodup := by
  rw [requiredNames_ofFields]
  exact nodup_eraseDups _

/-- A field makes its name a required one for good. -/
lemma mem_requiredNames {fields : List (ElementDecl × Node)} : n ∈ (ofFields fields).requiredNames ↔
    ∃ f ∈ fields, f.1.name = n ∧ f.1.isRequired = true ∧ (ofField f.1 f.2).isArray = false := by
  rw [requiredNames_ofFields, List.mem_eraseDups, singleNames, List.mem_map]
  refine exists_congr fun f => ?_
  rw [List.mem_filter, Bool.and_eq_true, Bool.not_eq_true', and_assoc, and_comm (b := f.1.name = n)]

end Node

/-! ### Objects of elements -/

/-- The required names are those of the elements that must occur once. -/
theorem mem_requiredNames_iff :
    n ∈ (Node.ofFields (fieldNodes imports d chain defaultType es)).requiredNames ↔
      ∃ e ∈ es, e.name = n ∧ e.isSingle = true := by
  rw [Node.mem_requiredNames]
  have harray : ∀ e, (Node.ofField e (elementSchema imports d chain defaultType e)).isArray =
      e.isRepeated := fun e => Node.isArray_ofField e _
  simp [fieldNodes, harray, ElementDecl.isSingle]

/-- **The property of a name comes from the last element of the name.** -/
theorem lookup_properties_ofFields :
    (Node.ofFields (fieldNodes imports d chain defaultType es)).properties.lookup n =
      (lastNamed ElementDecl.name n es).map fun e =>
        Node.ofField e (elementSchema imports d chain defaultType e) := by
  induction es using List.reverseRecOn with
  | nil => rfl
  | append_singleton es e ih =>
    rw [Node.properties_ofFields] at ih ⊢
    rw [fieldNodes, List.map_append, List.map_append, List.map_singleton, List.map_singleton,
      fieldsOf_concat, lookup_putField, lastNamed_concat]
    unfold Node.propertyOf
    by_cases h : e.name = n
    · rw [if_pos h.symm, if_pos h]
      rfl
    · rw [if_neg (Ne.symm h), if_neg h]
      exact ih

/-- Where an element must occur once, the last one of its name must, too. -/
def ElementDecl.KeepSingle (es : List ElementDecl) : Prop :=
  ∀ e ∈ es, e.isSingle = true → ∀ e', lastNamed ElementDecl.name e.name es = some e' →
    e'.isSingle = true

/-- The name stands for a property that comes from an element, the last one of the name; the property
is no array and the element must occur. -/
def Demands (schemaOf : ElementDecl → Node) (es : List ElementDecl)
    (properties : List (String × Node)) (n : String) : Prop :=
  ∃ e p, lastNamed ElementDecl.name n es = some e ∧ properties.lookup n = some p ∧
    p = Node.ofField e (schemaOf e) ∧ p.isArray = false ∧ e.isRequired = true

/-- A name is demanded exactly if the last element of the name must occur once. -/
lemma demands_iff : Demands (elementSchema imports d chain defaultType) es
      (Node.ofFields (fieldNodes imports d chain defaultType es)).properties n ↔
    ∃ e, lastNamed ElementDecl.name n es = some e ∧ e.isSingle = true := by
  unfold Demands
  rw [lookup_properties_ofFields]
  constructor
  · rintro ⟨e, p, he, -, rfl, harray, hreq⟩
    rw [elementSchema, Node.isArray_ofField] at harray
    exact ⟨e, he, by rw [ElementDecl.isSingle, hreq, harray]; rfl⟩
  · rintro ⟨e, he, hsingle⟩
    obtain ⟨hreq, hrep⟩ : e.isRequired = true ∧ e.isRepeated = false := by
      simpa [ElementDecl.isSingle] using hsingle
    refine ⟨e, _, he, by rw [he]; rfl, rfl, ?_, hreq⟩
    rw [elementSchema, Node.isArray_ofField]
    exact hrep

lemma forall_demands_iff :
    (∀ n ∈ (Node.ofFields (fieldNodes imports d chain defaultType es)).requiredNames,
        Demands (elementSchema imports d chain defaultType) es
          (Node.ofFields (fieldNodes imports d chain defaultType es)).properties n) ↔
      ElementDecl.KeepSingle es := by
  simp only [demands_iff, mem_requiredNames_iff]
  constructor
  · intro h e he hs e' he'
    obtain ⟨e'', he'', hs'⟩ := h e.name ⟨e, he, rfl, hs⟩
    cases he'.symm.trans he''
    exact hs'
  · rintro h n ⟨e, he, rfl, hs⟩
    obtain ⟨e', he'⟩ := Option.isSome_iff_exists.1
      (isSome_lastNamed.2 ⟨e, he, rfl⟩ : (lastNamed ElementDecl.name e.name es).isSome)
    exact ⟨e', he', h e he hs e' he'⟩

/-! ### Objects anywhere in a schema -/

/-- **Required names.** In every object anywhere in the schema of a type each required name is there
once and is the name of a property. The object is made from the elements that a call gathers, and all
required names stand for properties which are no arrays and come from elements that must occur exactly
if, of these elements, the last one of a name must occur once where one of the name must. -/
theorem required_of_part {ps : List (String × Node)} {r : Option (List String)} {f : Facets}
    (h : (Node.object ps r f).Part (typeSchema imports d chain defaultType name)) :
    (r.getD []).Nodup ∧ (∀ n ∈ r.getD [], n ∈ keys ps) ∧
      ∃ c es, Call.Leads imports ⟨d, chain, name⟩ c ∧ c.Gathers es ∧
        Node.object ps r .none =
          .ofFields (fieldNodes imports c.document (c.name :: c.chain) defaultType es) ∧
        ((∀ n ∈ r.getD [], Demands
            (elementSchema imports c.document (c.name :: c.chain) defaultType) es ps n) ↔
          ElementDecl.KeepSingle es) := by
  obtain ⟨c, es, hl, hg, heq⟩ := exists_gathers_of_part h
  have hps : ps = (Node.ofFields (fieldNodes imports c.document (c.name :: c.chain) defaultType
      es)).properties := by rw [← heq]; rfl
  have hr : r.getD [] = (Node.ofFields (fieldNodes imports c.document (c.name :: c.chain) defaultType
      es)).requiredNames := by rw [← heq]; rfl
  rw [hr, hps]
  refine ⟨Node.nodup_requiredNames _, fun n hn => ?_, c, es, hl, hg, ?_, forall_demands_iff⟩
  · obtain ⟨field, hfield, hname, -⟩ := Node.mem_requiredNames.1 hn
    exact Node.mem_keys_properties.2 ⟨field, hfield, hname⟩
  · rw [← hps]
    exact heq

/-- The object of the type `u` within the schema of the type `t`. -/
theorem required_of_part_nested :
    let d := Document.ofTypes
      [sequenceOf "t" "x" (some "u"), sequenceOf "u" "y" (some "xs:string")]
    let ps := [("y", Node.primitive "string" .none)]
    (Node.object ps (some ["y"]) .none).Part (typeSchema [] d [] "string" "t") ∧
      ["y"].Nodup ∧ (∀ n ∈ ["y"], n ∈ keys ps) ∧
      ∃ c es, Call.Leads [] ⟨d, [], "t"⟩ c ∧ c.Gathers es ∧
        Node.object ps (some ["y"]) .none =
          .ofFields (fieldNodes [] c.document (c.name :: c.chain) "string" es) ∧
        ((∀ n ∈ ["y"], Demands
            (elementSchema [] c.document (c.name :: c.chain) "string") es ps n) ↔
          ElementDecl.KeepSingle es) := by
  intro d ps
  let x : ElementDecl := { ElementDecl.ofName "x" with typeRef := some "u" }
  have hx : elementSchema [] d ["t"] "string" x = .object ps (some ["y"]) .none := by
    have hd : x.target [] d = .type d "u" := rfl
    rw [elementSchema_of_type hd, typeSchema_of_sequence (by decide) rfl]
    rfl
  have ht : typeSchema [] d [] "string" "t" =
      .object [("x", .object ps (some ["y"]) .none)] (some ["x"]) .none := by
    rw [typeSchema_of_sequence (by decide) rfl]
    show Node.ofFields [(x, elementSchema [] d ["t"] "string" x)] = _
    rw [hx]
    rfl
  have hpart : (Node.object ps (some ["y"]) .none).Part (typeSchema [] d [] "string" "t") := by
    rw [ht]
    exact .property List.mem_cons_self .self
  exact ⟨hpart, required_of_part hpart⟩

/-! ### A name that comes up again -/

/-- A document with a choice between two sequences in a sequence: in one the element `a` must occur once,
and in the other it may occur any number of times. -/
def repeatedName : Document :=
  .ofTypes [⟨"t", some ⟨.sequence, [.group (.choice none)
    [.group .sequence [.element (.ofName "a")],
      .group .sequence [.element { ElementDecl.ofName "a" with maxOccurs := some "unbounded" }]]]⟩⟩]

/-- The name of an array is among the required ones. -/
theorem array_required : ∃ ps r f,
    (Node.object ps r f).Part (typeSchema [] repeatedName [] "string" "t") ∧
      "a" ∈ r.getD [] ∧ ∃ p, ps.lookup "a" = some p ∧ p.isArray = true := by
  have h : typeSchema [] repeatedName [] "string" "t" =
      .object [("a", .array (.primitive "string" .none) .none)] (some ["a"]) .none := by
    rw [typeSchema_of_sequence (by decide) rfl]
    rfl
  refine ⟨[("a", .array (.primitive "string" .none) .none)], some ["a"], .none, ?_,
    List.mem_singleton_self "a", _, rfl, rfl⟩
  rw [h]
  exact .self

end ApiContract.Schema
