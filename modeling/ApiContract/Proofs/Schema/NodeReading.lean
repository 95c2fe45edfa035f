import ApiContract.Proofs.Fields
import ApiContract.Schema.Node

/-!
Reading schemas back from values. A schema is written as a map whose first fields tell what it is: an object
has `properties` behind its type, an array has `items`, and a primitive type, whatever its name is, has
neither. So a value is read as a schema if and only if the schema is written as it (`ofValue?_eq_some_iff`),
and different schemas are different values (`toValue_separates`).
-/

namespace ApiContract.Schema

variable {fs rest : List (String × Value)}

/-! ### Facets -/

/-- The text under a name, if it is the first of some fields, and the other fields. -/
def cutText (name : String) : List (String × Value) → Option String × List (String × Value)
  | (k, .str s) :: fs => if k = name then (some s, fs) else (none, (k, .str s) :: fs)
  | fs => (none, fs)

/-- The field of a text, if there is one. -/
def textField (name : String) (s : Option String) : List (String × Value) :=
  (s.map fun s => (name, Value.str s)).toList

lemma cutText_append {name : String} (h : name ∉ keys rest) (s : Option String) :
    cutText name (textField name s ++ rest) = (s, rest) := by
  cases s with
  | some s => exact if_pos rfl
  | none =>
    rcases rest with _ | ⟨⟨k, v⟩, rest⟩
    · rfl
    · have hk : k ≠ name := fun e => h (e ▸ List.mem_cons_self)
      cases v with
      | str s => exact if_neg hk
      | _ => rfl

lemma eq_of_cutText {name : String} {s : Option String} (h : cutText name fs = (s, rest)) :
    fs = textField name s ++ rest := by
  unfold cutText at h
  split at h
  · split at h
    · rename_i hk
      cases h
      rw [hk]
      rfl
    · cases h
      rfl
  · cases h
    rfl

/-- The facets that fields are, if they are nothing else. -/
def Facets.ofFields? (fs : List (String × Value)) : Option Facets :=
  let (defaultValue, fs) := cutText "default" fs
  let (fixedValue, fs) := cutText "fixed" fs
  let (description, fs) := cutText "description" fs
  if fs = [] then some ⟨defaultValue, fixedValue, description⟩ else .none

/-- The way to join alternatives that a word stands for. -/
def Combinator.ofText? (s : String) : Option Combinator :=
  if s = "oneOf" then some .oneOf else if s = "anyOf" then some .anyOf else .none

lemma Combinator.ofText?_eq_some_iff {s : String} {k : Combinator} :
    Combinator.ofText? s = some k ↔ s = k.text := by
  unfold Combinator.ofText?
  constructor
  · intro h
    split at h
    · rename_i hs
      cases h
      exact hs
    · split at h
      · rename_i hs
        cases h
        exact hs
      · cases h
  · rintro rfl
    cases k <;> rfl

namespace Node

lemma facetFields_eq (f : Facets) : facetFields f =
    textField "default" f.defaultValue ++ (textField "fixed" f.fixedValue ++
      (textField "description" f.description ++ [])) := by
  rw [List.append_nil, ← List.append_assoc]
  rfl

lemma ofFields?_facetFields (f : Facets) : Facets.ofFields? (facetFields f) = some f := by
  have hkey : ∀ (name k : String) (s : Option String), name ≠ k → name ∉ keys (textField k s) := by
    rintro name k (_ | s) h
    · exact List.not_mem_nil
    · exact fun hmem => h (List.mem_singleton.1 hmem)
  have hdescription : "description" ∉ keys ([] : List (String × Value)) := List.not_mem_nil
  have hfixed : "fixed" ∉ keys (textField "description" f.description ++ []) := by
    rw [List.append_nil]
    exact hkey _ _ _ (by decide)
  have hdefault : "default" ∉ keys (textField "fixed" f.fixedValue ++
      (textField "description" f.description ++ [])) := by
    rw [List.append_nil, keys_append, List.mem_append, not_or]
    exact ⟨hkey _ _ _ (by decide), hkey _ _ _ (by decide)⟩
  simp only [facetFields_eq, Facets.ofFields?, cutText_append hdefault, cutText_append hfixed,
    cutText_append hdescription, if_true]

lemma ofFields?_eq_some_iff {f : Facets} : Facets.ofFields? fs = some f ↔ fs = facetFields f := by
  constructor
  · intro h
    obtain ⟨d, fs₁, h₁⟩ : ∃ d fs₁, cutText "default" fs = (d, fs₁) := ⟨_, _, rfl⟩
    obtain ⟨x, fs₂, h₂⟩ : ∃ x fs₂, cutText "fixed" fs₁ = (x, fs₂) := ⟨_, _, rfl⟩
    obtain ⟨t, fs₃, h₃⟩ : ∃ t fs₃, cutText "description" fs₂ = (t, fs₃) := ⟨_, _, rfl⟩
    simp only [Facets.ofFields?, h₁, h₂, h₃] at h
    split at h
    · rename_i hnil
      cases h
      rw [facetFields_eq, eq_of_cutText h₁, eq_of_cutText h₂, eq_of_cutText h₃, hnil]
    · cases h
  · rintro rfl
    exact ofFields?_facetFields f

/-! ### Schemas -/

/-- The text that a value is. -/
def text? : Value → Option String
  | .str s => some s
  | _ => none

/-- The required names, if they are the first of some fields, and the other fields. -/
def cutRequired : List (String × Value) → Option (Option (List String) × List (String × Value))
  | (k, .list vs) :: fs =>
    if k = "required" then (vs.mapM text?).map fun names => (some names, fs) else none
  | fs => some (none, fs)

/-- The field of the required names, if there is one. -/
def requiredField (names : Option (List String)) : List (String × Value) :=
  (names.map fun names => ("required", Value.list (names.map .str))).toList

lemma mapM_text?_eq_some_iff {vs : List Value} {names : List String} :
    vs.mapM text? = some names ↔ vs = names.map .str := by
  constructor
  · intro h
    induction vs generalizing names with
    | nil => cases h; rfl
    | cons v vs ih =>
      rw [List.mapM_cons] at h
      obtain ⟨s, hs, h⟩ := Option.bind_eq_some_iff.1 h
      obtain ⟨names', hnames, h⟩ := Option.bind_eq_some_iff.1 h
      cases h
      cases v <;> cases hs
      rw [ih hnames, List.map_cons]
  · rintro rfl
    induction names with
    | nil => rfl
    | cons s names ih =>
      rw [List.map_cons, List.mapM_cons, ih]
      rfl

lemma cutRequired_append (names : Option (List String)) (f : Facets) :
    cutRequired (requiredField names ++ facetFields f) = some (names, facetFields f) := by
  cases names with
  | some names =>
    have hnames := mapM_text?_eq_some_iff.2 (rfl : names.map Value.str = names.map .str)
    simp only [requiredField, Option.map_some, Option.toList_some, List.singleton_append, cutRequired,
      hnames, if_true]
  | none =>
    obtain ⟨d, x, t⟩ := f
    cases d <;> cases x <;> cases t <;> rfl

lemma eq_of_cutRequired {names : Option (List String)} (h : cutRequired fs = some (names, rest)) :
    fs = requiredField names ++ rest := by
  unfold cutRequired at h
  split at h
  · split at h
    · rename_i hk
      obtain ⟨ss, hss, h⟩ := Option.map_eq_some_iff.1 h
      cases h
      rw [hk, mapM_text?_eq_some_iff.1 hss]
      rfl
    · cases h
  · cases h
    rfl

mutual

/-- The schema that a value is. -/
def ofValue? : Value → Option Node
  | .map ((k, v) :: fs) =>
    if k = "type" then
      match v, fs with
      | .str t, (k', w) :: fs' =>
        if t = "object" ∧ k' = "properties" then do
          let (required, facets) ← cutRequired fs'
          pure (object (← properties? w) required (← Facets.ofFields? facets))
        else if t = "array" ∧ k' = "items" then do
          pure (array (← ofValue? w) (← Facets.ofFields? fs'))
        else (Facets.ofFields? ((k', w) :: fs')).map (primitive t)
      | .str t, [] => some (primitive t .none)
      | _, _ => none
    else do
      let kind ← Combinator.ofText? k
      match v with
      | .list vs => pure (combinator kind (← ofValues? vs) (← Facets.ofFields? fs))
      | _ => none
  | _ => none

/-- The properties that a value is. -/
def properties? : Value → Option (List (String × Node))
  | .map ps => ofFields? ps
  | _ => none

/-- The properties that fields are. -/
def ofFields? : List (String × Value) → Option (List (String × Node))
  | [] => some []
  | (k, v) :: ps => do pure ((k, ← ofValue? v) :: (← ofFields? ps))

/-- The schemas that values are. -/
def ofValues? : List Value → Option (List Node)
  | [] => some []
  | v :: vs => do pure ((← ofValue? v) :: (← ofValues? vs))

end

/-- Facets do not begin with a field of this name. -/
lemma keys_facetFields_ne {k : String} {v : Value} {f : Facets} (h : facetFields f = (k, v) :: fs) :
    k ≠ "properties" ∧ k ≠ "items" := by
  obtain ⟨d, x, t⟩ := f
  cases d <;> cases x <;> cases t <;> cases h <;> exact ⟨by decide, by decide⟩

lemma ofValue?_primitive (t : String) (f : Facets) :
    ofValue? (.map (("type", .str t) :: facetFields f)) = some (primitive t f) := by
  have hread := ofFields?_facetFields f
  cases hf : facetFields f with
  | nil =>
    rw [hf] at hread
    cases hread
    rfl
  | cons q fs =>
    obtain ⟨k, v⟩ := q
    obtain ⟨hproperties, hitems⟩ := keys_facetFields_ne hf
    rw [hf] at hread
    simp only [ofValue?, hproperties, hitems, and_false, if_false, if_true, hread, Option.map_some]

mutual

/-- **The value of a schema is read as the schema.** -/
theorem ofValue?_toValue : (n : Node) → ofValue? n.toValue = some n
  | primitive t f => ofValue?_primitive t f
  | object ps r f => by
    have hfields := ofFields?_propertyValues ps
    have hrequired := cutRequired_append r f
    have hfacets := ofFields?_facetFields f
    rw [requiredField] at hrequired
    simp [toValue, ofValue?, properties?, hrequired, hfields, hfacets]
  | array n f => by
    have hitems := ofValue?_toValue n
    have hfacets := ofFields?_facetFields f
    simp [toValue, ofValue?, hitems, hfacets]
  | combinator k ns f => by
    have hkind : Combinator.ofText? k.text = some k := Combinator.ofText?_eq_some_iff.2 rfl
    have hk : k.text ≠ "type" := by cases k <;> decide
    have halternatives := ofValues?_toValues ns
    have hfacets := ofFields?_facetFields f
    simp [toValue, ofValue?, hk, hkind, halternatives, hfacets]

theorem ofFields?_propertyValues :
    (ps : List (String × Node)) → ofFields? (propertyValues ps) = some ps
  | [] => rfl
  | (k, n) :: ps => by
    simp [propertyValues, ofFields?, ofValue?_toValue n, ofFields?_propertyValues ps]

theorem ofValues?_toValues : (ns : List Node) → ofValues? (toValues ns) = some ns
  | [] => rfl
  | n :: ns => by simp [toValues, ofValues?, ofValue?_toValue n, ofValues?_toValues ns]

end

mutual

/-- **A value is read as no schema but the one that it is the value of.** -/
theorem eq_of_ofValue? {n : Node} : (v : Value) → ofValue? v = some n → v = n.toValue
  | .map ((k, v) :: fs), h => by
    unfold ofValue? at h
    split at h
    · rename_i hk
      subst hk
      split at h
      · rename_i t k' w fs'
        split at h
        · rename_i hobject
          obtain ⟨rfl, rfl⟩ := hobject
          obtain ⟨⟨required, facets⟩, hrequired, h⟩ := Option.bind_eq_some_iff.1 h
          obtain ⟨ps, hps, h⟩ := Option.bind_eq_some_iff.1 h
          obtain ⟨f, hf, h⟩ := Option.bind_eq_some_iff.1 h
          cases h
          rw [eq_of_properties? w hps, eq_of_cutRequired hrequired, ofFields?_eq_some_iff.1 hf]
          rfl
        · split at h
          · rename_i harray
            obtain ⟨rfl, rfl⟩ := harray
            obtain ⟨m, hm, h⟩ := Option.bind_eq_some_iff.1 h
            obtain ⟨f, hf, h⟩ := Option.bind_eq_some_iff.1 h
            cases h
            rw [eq_of_ofValue? w hm, ofFields?_eq_some_iff.1 hf]
            rfl
          · obtain ⟨f, hf, h⟩ := Option.map_eq_some_iff.1 h
            cases h
            rw [ofFields?_eq_some_iff.1 hf]
            rfl
      · cases h
        rfl
      · cases h
    · obtain ⟨kind, hkind, h⟩ := Option.bind_eq_some_iff.1 h
      split at h
      · rename_i vs _
        obtain ⟨ns, hns, h⟩ := Option.bind_eq_some_iff.1 h
        obtain ⟨f, hf, h⟩ := Option.bind_eq_some_iff.1 h
        cases h
        rw [Combinator.ofText?_eq_some_iff.1 hkind, eq_of_ofValues? vs hns, ofFields?_eq_some_iff.1 hf]
        rfl
      · cases h
  | .map [], h | .null, h | .bool _, h | .int _, h | .real _, h | .str _, h | .list _, h | .bytes _, h
  | .date _, h | .moment _ _, h | .set _, h | .pair _ _, h | .table _, h | .shared _ _, h
  | .again _ _, h => by cases h

theorem eq_of_properties? {ps : List (String × Node)} :
    (v : Value) → properties? v = some ps → v = .map (propertyValues ps)
  | .map fs, h => congrArg Value.map (eq_of_ofFields? fs h)
  | .null, h | .bool _, h | .int _, h | .real _, h | .str _, h | .list _, h | .bytes _, h
  | .date _, h | .moment _ _, h | .set _, h | .pair _ _, h | .table _, h | .shared _ _, h
  | .again _ _, h => by cases h

theorem eq_of_ofFields? {ps : List (String × Node)} :
    (fs : List (String × Value)) → ofFields? fs = some ps → fs = propertyValues ps
  | [], h => by cases h; rfl
  | (k, v) :: fs, h => by
    obtain ⟨n, hn, h⟩ := Option.bind_eq_some_iff.1 h
    obtain ⟨ps', hps, h⟩ := Option.bind_eq_some_iff.1 h
    cases h
    rw [propertyValues, ← eq_of_ofValue? v hn, ← eq_of_ofFields? fs hps]

theorem eq_of_ofValues? {ns : List Node} : (vs : List Value) → ofValues? vs = some ns → vs = toValues ns
  | [], h => by cases h; rfl
  | v :: vs, h => by
    obtain ⟨n, hn, h⟩ := Option.bind_eq_some_iff.1 h
    obtain ⟨ns', hns, h⟩ := Option.bind_eq_some_iff.1 h
    cases h
    rw [toValues, ← eq_of_ofValue? v hn, ← eq_of_ofValues? vs hns]

end

/-- **Different schemas are different values.** Two schemas are the same value, with all names in their order,
if and only if they are the same schema; and a value is read as a schema if and only if it is the value of this
schema. -/
theorem toValue_separates : (∀ n m : Node, n.toValue = m.toValue ↔ n = m) ∧
    ∀ (v : Value) (n : Node), ofValue? v = some n ↔ v = n.toValue := by
  have hread : ∀ (v : Value) (n : Node), ofValue? v = some n ↔ v = n.toValue := fun v n =>
    ⟨eq_of_ofValue? v, fun h => h ▸ ofValue?_toValue n⟩
  refine ⟨fun n m => ⟨fun h => ?_, congrArg toValue⟩, hread⟩
  have hn : ofValue? n.toValue = some m := (hread _ _).2 h
  rw [ofValue?_toValue] at hn
  exact Option.some.inj hn

/-- Primitive types with the names of an object and of an array are no object and no array. -/
example : ofValue? (primitive "object" ⟨some "array", none, some ""⟩).toValue =
    some (primitive "object" ⟨some "array", none, some ""⟩) := rfl

end Node

end ApiContract.Schema
