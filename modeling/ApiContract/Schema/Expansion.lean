import ApiContract.Schema.Reference

/-!
Expansion of types. A type with a sequence is expanded to fields, one for each element, and a type
with a choice to branches of fields; references are followed from element to type, within a document
and across imports. A type that is met again while it is being expanded is cut off. Expansion ends
because every type that is followed takes one of the declared names, which are finite in number, out
of those that are still open (`openNames_length_lt`).
-/

namespace ApiContract.Schema

/-- What a type stands for. `cut` is a type within itself, and `fallback` what the default type
stands for, with the label of a document that is not imported if this is why. -/
inductive Expansion where
  | primitive (p : Primitive)
  | fallback (label : Option String)
  | cut (name : String)
  | object (fields : List (ElementDecl × Expansion))
  | choice (unbounded : Bool) (branches : List (List (ElementDecl × Expansion)))
  deriving Repr, Inhabited

/-! ### The names that are still open -/

/-- The names of the types of a document and of all imported ones, each once, that are not in
`chain`. -/
def openNames (imports : Imports) (d : Document) (chain : List String) : List String :=
  (d.typeNames ++ imports.flatMap fun p => p.2.typeNames).eraseDups.filter (!chain.contains ·)

theorem mem_openNames {imports : Imports} {d : Document} {chain : List String} {n : String} :
    n ∈ openNames imports d chain ↔
      (n ∈ d.typeNames ∨ ∃ p ∈ imports, n ∈ p.2.typeNames) ∧ n ∉ chain := by
  simp [openNames, List.mem_eraseDups]

theorem nodup_eraseDups {α : Type} [BEq α] [LawfulBEq α] (l : List α) : l.eraseDups.Nodup := by
  induction h : l.length using Nat.strongRecOn generalizing l with
  | _ n ih =>
    cases l with
    | nil => simp [List.eraseDups_nil]
    | cons a l =>
      rw [List.eraseDups_cons, List.nodup_cons]
      refine ⟨?_, ?_⟩
      · simp [List.mem_eraseDups]
      · refine ih _ ?_ _ rfl
        have := List.length_filter_le (fun b => !b == a) l
        simp only [List.length_cons] at h; omega

/-- Following a reference to a declared type leaves fewer names open. -/
theorem openNames_length_lt {imports : Imports} {d d' : Document} {chain : List String}
    {name : String} (hd : d' = d ∨ ∃ label, (label, d') ∈ imports) (hn : name ∈ d.typeNames)
    (hc : name ∉ chain) :
    (openNames imports d' (name :: chain)).length < (openNames imports d chain).length := by
  have hs : (name :: openNames imports d' (name :: chain)) ⊆ openNames imports d chain := by
    intro n h
    rcases List.mem_cons.1 h with rfl | h
    · exact mem_openNames.2 ⟨.inl hn, hc⟩
    · obtain ⟨h₁, h₂⟩ := mem_openNames.1 h
      refine mem_openNames.2 ⟨?_, fun h => h₂ (List.mem_cons_of_mem _ h)⟩
      rcases hd with rfl | ⟨l, hl⟩
      · exact h₁
      · rcases h₁ with h₁ | h₁
        · exact .inr ⟨_, hl, h₁⟩
        · exact .inr h₁
  have := List.Nodup.length_le_of_subset (List.nodup_cons.2 ⟨?_, ?_⟩) hs
  · simp only [List.length_cons] at this; omega
  · simp [mem_openNames]
  · exact (nodup_eraseDups _).filter _

theorem Document.mem_typeNames {d : Document} {name : String} {t : ComplexType}
    (h : d.findType? name = some t) : name ∈ d.typeNames := by
  have := List.find?_some h
  rw [← eq_of_beq this]
  exact List.mem_map_of_mem (List.mem_of_find?_eq_some h)

/-! ### Expansion -/

/-- The elements of each branch of a choice. -/
def ContentModel.branches (members : List Particle) : List (List ElementDecl) :=
  members.map fun
    | .element e => [e]
    | .group _ ms => Particle.sequenceElements ms

/-- What a type of a document stands for, while the types in `chain` are being expanded. -/
def expand (imports : Imports) (d : Document) (chain : List String) (name : String) : Expansion :=
  if _hc : name ∈ chain then .cut name
  else match _ht : d.findType? name with
    | none => .fallback none
    | some t =>
      let follow (e : ElementDecl) : Expansion := match _hd : e.target imports d with
        | .primitive p => .primitive p
        | .missing label => .fallback label
        | .type d' n => expand imports d' (name :: chain) n
      match t.content with
      | none => .fallback none
      | some ⟨.sequence, ms⟩ => .object ((Particle.sequenceElements ms).map fun e => (e, follow e))
      | some ⟨.choice max, ms⟩ =>
        .choice (isUnbounded max) ((ContentModel.branches ms).map (·.map fun e => (e, follow e)))
  termination_by (openNames imports d chain).length
  decreasing_by
    exact openNames_length_lt (ElementDecl.document_of_target _hd) (Document.mem_typeNames _ht) _hc

mutual

/-- How many types are expanded one inside the other. -/
def Expansion.depth : Expansion → Nat
  | .object fields => fieldDepth fields + 1
  | .choice _ branches => branchDepth branches + 1
  | _ => 0

/-- The depth of the deepest field. -/
def fieldDepth : List (ElementDecl × Expansion) → Nat
  | [] => 0
  | (_, x) :: fields => max x.depth (fieldDepth fields)

/-- The depth of the deepest branch. -/
def branchDepth : List (List (ElementDecl × Expansion)) → Nat
  | [] => 0
  | fields :: branches => max (fieldDepth fields) (branchDepth branches)

end

/-- What the type of an element stands for. -/
def expandElement (imports : Imports) (d : Document) (chain : List String) (e : ElementDecl) :
    Expansion :=
  match e.target imports d with
  | .primitive p => .primitive p
  | .missing label => .fallback label
  | .type d' n => expand imports d' chain n

end ApiContract.Schema
