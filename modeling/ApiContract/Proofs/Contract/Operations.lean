import ApiContract.Proofs.Contract.Paths

/-!
The operations of an interface description, whatever the suffixes are and whether there is an error
response. Every group has a path of its own with one operation, which has a name of its own and a body or
a response without errors (`hasPathEach_paths`).
-/

namespace ApiContract.Contract

open ApiContract.Schema

variable {imports : Imports} {d : Document} {schemaName p : String} {o : Options}
  {errorSchema : Option Value} {g : Group ElementDecl}

/-- The names of all operations at paths. -/
def operationIds (paths : List (String × Value)) : List String :=
  paths.flatMap fun item => match item.2 with
    | .map operations => operations.filterMap fun op => match op.2.field? "operationId" with
      | some (.str id) => some id
      | _ => none
    | _ => []

/-- A path with the one operation of a group, which has a body or a response without errors. -/
structure IsPathOf (schemaName : String) (o : Options) (g : Group ElementDecl)
    (item : String × Value) : Prop where
  path_eq : item.1 = path schemaName o.nameInPath g.name
  operation : ∃ operation, item.2 = .map [(o.method.text, operation)] ∧
    operation.field? "operationId" = some (.str g.name) ∧
    ((operation.field? "requestBody").isSome ∨
      ∃ responses, operation.field? "responses" = some (.map responses) ∧ "200" ∈ keys responses)

/-- **One path for each group**, in the order of the groups, where no path and no name of an operation is
there twice. -/
structure HasPathEach (schemaName : String) (o : Options) (gs : List (Group ElementDecl))
    (paths : List (String × Value)) : Prop where
  each : List.Forall₂ (IsPathOf schemaName o) gs paths
  nodup_paths : (keys paths).Nodup
  nodup_ids : (operationIds paths).Nodup

/-! ### The parts of an operation -/

lemma operation_operationId (imports : Imports) (d : Document) (o : Options) (p : String)
    (g : Group ElementDecl) (errorSchema : Option Value) :
    (operation imports d o p g errorSchema).field? "operationId" = some (.str g.name) := by
  simp [operation, Value.field?]

/-- An error response takes nothing away, not even if it has the status of the other one. -/
lemma success_mem_keys_responses (h : g.response.isSome) :
    "200" ∈ keys (responses imports d o g errorSchema) := by
  obtain ⟨e, he⟩ := Option.isSome_iff_exists.1 h
  have hok : "200" ∈ keys (g.response.map fun e =>
      (successStatus, successResponse imports d o e)).toList := by
    rw [he]
    exact List.mem_singleton_self _
  unfold responses
  split
  · exact mem_keys_putField.2 (.inr hok)
  · exact hok

lemma isPathOf_operation (hg : g.isFilled = true)
    (hp : p = path schemaName o.nameInPath g.name) :
    IsPathOf schemaName o g
      (p, .map [(o.method.text, operation imports d o p g errorSchema)]) where
  path_eq := hp
  operation := by
    refine ⟨_, rfl, operation_operationId _ _ _ _ _ _, ?_⟩
    rcases Bool.or_eq_true_iff.1 hg with hreq | hres
    · left
      rw [operation_requestBody, Option.isSome_map]
      exact hreq
    · right
      exact ⟨_, operation_responses _ _ _ _ _ _, success_mem_keys_responses hres⟩

/-! ### All operations -/

lemma keys_eq {gs : List (Group ElementDecl)} {paths : List (String × Value)}
    (h : List.Forall₂ (IsPathOf schemaName o) gs paths) :
    keys paths = gs.map (path schemaName o.nameInPath ∘ Group.name) := by
  induction h with
  | nil => rfl
  | cons hitem _ ih => rw [keys_cons, List.map_cons, ih, hitem.path_eq, Function.comp_apply]

lemma operationIds_eq {gs : List (Group ElementDecl)} {paths : List (String × Value)}
    (h : List.Forall₂ (IsPathOf schemaName o) gs paths) :
    operationIds paths = gs.map Group.name := by
  induction h with
  | nil => rfl
  | @cons g item gs paths hitem _ ih =>
    obtain ⟨operation, hv, hid, -⟩ := hitem.operation
    unfold operationIds at ih ⊢
    rw [List.flatMap_cons, ih, List.map_cons, hv]
    simp [hid]

/-- **Every group has a path of its own with one operation of its own.** -/
theorem hasPathEach_paths (imports : Imports) (d : Document) (schemaName : String) (o : Options)
    (errorSchema : Option Value) :
    HasPathEach schemaName o (groups d o) (paths imports d schemaName o errorSchema) := by
  have heach : List.Forall₂ (IsPathOf schemaName o) ((groups d o).zipIdx.map Prod.fst)
      (paths imports d schemaName o errorSchema) := by
    rw [paths_eq, List.forall₂_map_left_iff, List.forall₂_map_right_iff, List.forall₂_same]
    intro x hx
    have hg : x.1 ∈ groups d o := List.fst_mem_of_mem_zipIdx hx
    exact isPathOf_operation (isFilled_of_mem_group hg) rfl
  rw [List.zipIdx_map_fst] at heach
  refine ⟨heach, nodup_keys_paths _ _ _ _ _, ?_⟩
  rw [operationIds_eq heach]
  exact nodup_names_group _ _ _ _

end ApiContract.Contract
