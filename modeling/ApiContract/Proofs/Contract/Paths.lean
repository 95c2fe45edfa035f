import ApiContract.Contract.Document
import ApiContract.Proofs.Contract.Grouping
import ApiContract.Proofs.Fields
import ApiContract.Proofs.Schema.Agreement

/-!
The paths of an interface description. Every group has a path of its own (`paths_eq`). If no name can
end in both suffixes and there is no error response, the paths are told by the last elements of each
name (`isPaired_paths`), and so the order of elements with different names changes nothing but the
order of the paths (`paths_perm`).
-/

namespace ApiContract.Contract

open ApiContract.Schema

variable {imports : Imports} {d : Document} {schemaName : String} {o : Options}
  {errorSchema : Option Value} {g : Group ElementDecl}

/-! ### One path for each group -/

lemma path_injective (schemaName : String) (nameInPath : Bool) :
    Function.Injective (path schemaName nameInPath) := by
  intro m n h
  unfold path at h
  split at h
  · exact (String.append_right_inj _).1 h
  · exact (String.append_right_inj _).1 h

/-- **Every group has a path of its own.** -/
theorem paths_eq (imports : Imports) (d : Document) (schemaName : String) (o : Options)
    (errorSchema : Option Value) : paths imports d schemaName o errorSchema =
      (groups d o).zipIdx.map fun (g, i) => (path schemaName o.nameInPath g.name,
        .map [(o.method.text, operation imports d o (path schemaName o.nameInPath g.name) g
          (errorSchema.map (Value.copied i)))]) := by
  refine fieldsOf_of_nodup ?_
  have hk : ((groups d o).map Group.name).Nodup := nodup_names_group _ _ _ _
  have := hk.map (path_injective schemaName o.nameInPath)
  rw [List.map_map, ← List.zipIdx_map_fst 0 (groups d o), List.map_map] at this
  rw [keys, List.map_map]
  exact this

lemma nodup_keys_paths (imports : Imports) (d : Document) (schemaName : String) (o : Options)
    (errorSchema : Option Value) : (keys (paths imports d schemaName o errorSchema)).Nodup :=
  nodup_keys_fieldsOf _

lemma document_paths (imports : Imports) (d : Document) (schemaName : String) (o : Options)
    (errorSchema : Option Value) :
    (document imports d schemaName o errorSchema).field? "paths" =
      some (.map (paths imports d schemaName o errorSchema)) := by
  simp [document, Value.field?, lookup_pair]

/-! ### The parts of an operation -/

lemma operation_requestBody (imports : Imports) (d : Document) (o : Options) (p : String)
    (g : Group ElementDecl) (errorSchema : Option Value) :
    (operation imports d o p g errorSchema).field? "requestBody" =
      g.request.map (requestBody imports d o) := by
  unfold operation Value.field?
  cases description? g <;> cases g.request <;> rfl

lemma operation_responses (imports : Imports) (d : Document) (o : Options) (p : String)
    (g : Group ElementDecl) (errorSchema : Option Value) :
    (operation imports d o p g errorSchema).field? "responses" =
      some (.map (responses imports d o g errorSchema)) := by
  unfold operation Value.field?
  cases description? g <;> cases g.request <;> rfl

lemma responses_of_no_error (ho : o.error = none) : responses imports d o g errorSchema =
    (g.response.map fun e => (successStatus, successResponse imports d o e)).toList := by
  unfold responses
  rw [ho]
  cases errorSchema <;> rfl

lemma operation_congr {d' : Document} {p : String}
    (h : ∀ e, elementValue imports d o e = elementValue imports d' o e) :
    operation imports d o p g errorSchema = operation imports d' o p g errorSchema := by
  have hq : requestBody imports d o = requestBody imports d' o := by
    funext e
    rw [requestBody, h e, requestBody]
  have hr : successResponse imports d o = successResponse imports d' o := by
    funext e
    rw [successResponse, h e, successResponse]
  simp only [operation, responses, hq, hr]

/-! ### Paths without an error response -/

/-- The operation of a group without an error response, at its path. -/
def pathItem (imports : Imports) (d : Document) (schemaName : String) (o : Options)
    (g : Group ElementDecl) : String × Value :=
  let p := path schemaName o.nameInPath g.name
  (p, .map [(o.method.text, operation imports d o p g none)])

lemma paths_of_no_error (ho : o.error = none) : paths imports d schemaName o errorSchema =
    (groups d o).map (pathItem imports d schemaName o) := by
  have hop : ∀ p g i, operation imports d o p g (errorSchema.map (Value.copied i)) =
      operation imports d o p g none := by
    intro p g i
    unfold operation
    rw [responses_of_no_error ho, responses_of_no_error ho]
  rw [paths_eq]
  simp only [hop]
  rw [← List.zipIdx_map_fst 0 (groups d o), List.map_map, List.zipIdx_map_fst]
  rfl

/-- **The paths of the elements that are paired**, each with one operation. An operation has a body
and a response as its two names have elements, of which the last one counts. -/
structure IsPaired (imports : Imports) (d : Document) (schemaName : String) (o : Options)
    (paths : List (String × Value)) : Prop where
  nodup : (keys paths).Nodup
  named : ∀ k ∈ keys paths, ∃ p, k = path schemaName o.nameInPath p
  mem_keys : ∀ p, path schemaName o.nameInPath p ∈ keys paths ↔
    ∃ e ∈ d.elements, e.name = p ++ o.requestSuffix ∨ e.name = p ++ o.responseSuffix
  item : ∀ p v, paths.lookup (path schemaName o.nameInPath p) = some v →
    ∃ operation, v = .map [(o.method.text, operation)] ∧
      operation.field? "requestBody" =
        ((lastNamed ElementDecl.name (p ++ o.requestSuffix) d.elements).map fun e =>
          .map [("required", .bool (decide (e.minOccurs ≠ some "0"))),
            ("content", .map [(o.contentType, .map [("schema",
              (elementSchema imports d [] o.defaultType e).toValue)])])]) ∧
      operation.field? "responses" = some (.map
        ((lastNamed ElementDecl.name (p ++ o.responseSuffix) d.elements).map fun e =>
          ("200", .map [("description", .str "OK"),
            ("content", .map [(o.contentType, .map [("schema",
              (elementSchema imports d [] o.defaultType e).toValue)])])])).toList)

lemma isFilled_lastPair_iff {q r p : String} {es : List ElementDecl} :
    (lastPair q r ElementDecl.name es p).isFilled = true ↔
      ∃ e ∈ es, e.name = p ++ q ∨ e.name = p ++ r := by
  unfold Group.isFilled lastPair
  rw [Bool.or_eq_true, isSome_lastNamed, isSome_lastNamed]
  constructor
  · rintro (⟨e, he, h⟩ | ⟨e, he, h⟩)
    · exact ⟨e, he, .inl h⟩
    · exact ⟨e, he, .inr h⟩
  · rintro ⟨e, he, h | h⟩
    · exact .inl ⟨e, he, h⟩
    · exact .inr ⟨e, he, h⟩

/-- The paths are those of the names whose pair of last elements is not empty. -/
lemma mem_paths_iff (ha : Apart o.requestSuffix o.responseSuffix) (ho : o.error = none)
    {x : String × Value} : x ∈ paths imports d schemaName o errorSchema ↔
      ∃ p, (∃ e ∈ d.elements, e.name = p ++ o.requestSuffix ∨ e.name = p ++ o.responseSuffix) ∧
        x = pathItem imports d schemaName o
          (lastPair o.requestSuffix o.responseSuffix ElementDecl.name d.elements p) := by
  rw [paths_of_no_error ho, List.mem_map]
  constructor
  · rintro ⟨g, hg, rfl⟩
    obtain ⟨he, hf⟩ := (mem_group_iff ha).1 hg
    rw [he] at hf
    exact ⟨g.name, isFilled_lastPair_iff.1 hf, by rw [← he]⟩
  · rintro ⟨p, hp, rfl⟩
    exact ⟨_, (mem_group_iff ha).2 ⟨rfl, isFilled_lastPair_iff.2 hp⟩, rfl⟩

theorem isPaired_paths (ha : Apart o.requestSuffix o.responseSuffix) (ho : o.error = none) :
    IsPaired imports d schemaName o (paths imports d schemaName o errorSchema) where
  nodup := nodup_keys_paths _ _ _ _ _
  named := by
    intro k hk
    obtain ⟨x, hx, rfl⟩ := List.mem_map.1 hk
    obtain ⟨p, -, rfl⟩ := (mem_paths_iff ha ho).1 hx
    exact ⟨p, rfl⟩
  mem_keys := by
    intro p
    constructor
    · intro hk
      obtain ⟨x, hx, hp⟩ := List.mem_map.1 hk
      obtain ⟨m, hm, rfl⟩ := (mem_paths_iff ha ho).1 hx
      rw [← path_injective _ _ hp]
      exact hm
    · intro hp
      exact List.mem_map.2 ⟨_, (mem_paths_iff ha ho).2 ⟨p, hp, rfl⟩, rfl⟩
  item := by
    intro p v hv
    have hx := (lookup_eq_some_iff_mem (nodup_keys_paths _ _ _ _ _)).1 hv
    obtain ⟨m, -, hm⟩ := (mem_paths_iff ha ho).1 hx
    obtain ⟨hp, rfl⟩ := Prod.mk.inj hm
    obtain rfl : p = m := path_injective _ _ hp
    refine ⟨_, rfl, ?_, ?_⟩
    · rw [operation_requestBody]
      refine Option.map_congr fun e _ => ?_
      have hb : (e.minOccurs != some "0") = decide (e.minOccurs ≠ some "0") := by
        rw [Bool.eq_iff_iff, bne_iff_ne, decide_eq_true_iff]
      rw [requestBody, hb]
      rfl
    · rw [operation_responses, responses_of_no_error ho]
      rfl

/-! ### The order of elements -/

/-- The elements of each name are the same, in the same order: one list is the other one put into an
order that keeps those of each name as they are. -/
def SameByName (es es' : List ElementDecl) : Prop :=
  ∀ n, es.filter (·.name == n) = es'.filter (·.name == n)

lemma sameByName_iff {es es' : List ElementDecl} : SameByName es es' ↔
    ∀ e ∈ es ++ es', es.filter (·.name == e.name) = es'.filter (·.name == e.name) := by
  constructor
  · intro h e _
    exact h e.name
  · intro h n
    by_cases hn : ∃ e ∈ es ++ es', e.name = n
    · obtain ⟨e, he, rfl⟩ := hn
      exact h e he
    · -- no element has the name
      have hf : ∀ e ∈ es ++ es', ¬(e.name == n) = true := by
        intro e he hb
        exact hn ⟨e, he, by simpa using hb⟩
      rw [List.filter_eq_nil_iff.2 fun e he => hf e (List.mem_append_left _ he),
        List.filter_eq_nil_iff.2 fun e he => hf e (List.mem_append_right _ he)]

instance (es es' : List ElementDecl) : Decidable (SameByName es es') :=
  decidable_of_iff' _ sameByName_iff

/-- **The order of elements with different names is of no account**, but for the order of the
paths. -/
theorem paths_perm (ha : Apart o.requestSuffix o.responseSuffix) (ho : o.error = none)
    {es : List ElementDecl} (hes : SameByName d.elements es) :
    (paths imports d schemaName o errorSchema).Perm
      (paths imports { d with elements := es } schemaName o errorSchema) := by
  have hlast : ∀ n, lastNamed ElementDecl.name n d.elements = lastNamed ElementDecl.name n es :=
    fun n => congrArg List.getLast? (hes n)
  have hnamed : ∀ n, (∃ e ∈ d.elements, e.name = n) ↔ ∃ e ∈ es, e.name = n := by
    intro n
    rw [← isSome_lastNamed, hlast n, isSome_lastNamed]
  have hfilled : ∀ p, (∃ e ∈ d.elements,
      e.name = p ++ o.requestSuffix ∨ e.name = p ++ o.responseSuffix) ↔
      ∃ e ∈ es, e.name = p ++ o.requestSuffix ∨ e.name = p ++ o.responseSuffix := by
    intro p
    simp only [and_or_left, exists_or, hnamed]
  have hitem : ∀ g, pathItem imports d schemaName o g =
      pathItem imports { d with elements := es } schemaName o g := by
    intro g
    refine congrArg (Prod.mk _) ?_
    rw [operation_congr fun e => ?_]
    unfold elementValue
    rw [elementSchema_of_agrees (.refl imports) (d.agrees_of_elements es)]
  refine (List.perm_ext_iff_of_nodup ((nodup_keys_paths _ _ _ _ _).of_map _)
    ((nodup_keys_paths _ _ _ _ _).of_map _)).2 fun x => ?_
  rw [mem_paths_iff ha ho, mem_paths_iff ha ho]
  refine exists_congr fun p => and_congr (hfilled p) ?_
  rw [hitem, lastPair, hlast, hlast]
  rfl

end ApiContract.Contract
