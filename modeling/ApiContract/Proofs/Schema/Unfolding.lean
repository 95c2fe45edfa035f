import ApiContract.Schema.Expansion
import Mathlib.Data.List.Basic

/-!
Expansion, one step at a time. What a type stands for is put together from what its elements stand
for (`expand_of_declared`), and what holds of every type once it holds of the types that its elements
refer to holds of every type (`expand_induction`). Later proofs use these and do not open `expand`.
-/

namespace ApiContract.Schema

variable {imports : Imports} {d d' : Document} {chain : List String} {name : String}

/-! ### Content models -/

/-- The elements that a content model takes up; of a choice, those of all branches. -/
def ContentModel.elements : ContentModel → List ElementDecl
  | ⟨.sequence, ms⟩ => Particle.sequenceElements ms
  | ⟨.choice _, ms⟩ => (ContentModel.branches ms).flatten

/-- What a content model stands for, if `follow` tells what its elements stand for. -/
def ContentModel.expansion (follow : ElementDecl → Expansion) : ContentModel → Expansion
  | ⟨.sequence, ms⟩ => .object ((Particle.sequenceElements ms).map fun e => (e, follow e))
  | ⟨.choice max, ms⟩ =>
    .choice (isUnbounded max) ((ContentModel.branches ms).map (·.map fun e => (e, follow e)))

lemma ContentModel.mem_elements_of_branch {ms : List Particle} {max : Option String}
    {b : List ElementDecl} {e : ElementDecl} (hb : b ∈ ContentModel.branches ms) (he : e ∈ b) :
    e ∈ ContentModel.elements ⟨.choice max, ms⟩ :=
  List.mem_flatten_of_mem hb he

/-- Of what elements stand for only that of the elements of the model matters. -/
theorem ContentModel.expansion_congr {f g : ElementDecl → Expansion} {m : ContentModel}
    (h : ∀ e ∈ m.elements, f e = g e) : m.expansion f = m.expansion g := by
  obtain ⟨_ | max, ms⟩ := m
  · have hs : (Particle.sequenceElements ms).map (fun e => (e, f e)) =
        (Particle.sequenceElements ms).map fun e => (e, g e) :=
      List.map_congr_left fun e he => by rw [h e he]
    simp only [expansion, hs]
  · have hb : (ContentModel.branches ms).map (·.map fun e => (e, f e)) =
        (ContentModel.branches ms).map (·.map fun e => (e, g e)) :=
      List.map_congr_left fun b hb => List.map_congr_left fun e he => by
        rw [h e (mem_elements_of_branch hb he)]
    simp only [expansion, hb]

/-- The elements that a type takes up. -/
def ComplexType.elements (t : ComplexType) : List ElementDecl :=
  match t.content with
  | none => []
  | some m => m.elements

/-- What a declared type stands for, if `follow` tells what its elements stand for. -/
def ComplexType.expansion (follow : ElementDecl → Expansion) (t : ComplexType) : Expansion :=
  match t.content with
  | none => .fallback none
  | some m => m.expansion follow

theorem ComplexType.expansion_congr {f g : ElementDecl → Expansion} {t : ComplexType}
    (h : ∀ e ∈ t.elements, f e = g e) : t.expansion f = t.expansion g := by
  obtain ⟨_, _ | m⟩ := t
  · rfl
  · exact ContentModel.expansion_congr h

/-! ### Steps -/

theorem expand_of_mem (h : name ∈ chain) : expand imports d chain name = .cut name := by
  rw [expand, dif_pos h]

theorem expand_of_undeclared (hc : name ∉ chain) (ht : d.findType? name = none) :
    expand imports d chain name = .fallback none := by
  rw [expand, dif_neg hc]
  split
  · rfl
  · rename_i h; rw [ht] at h; cases h

theorem expandElement_of_type {e : ElementDecl} {n : String} (h : e.target imports d = .type d' n) :
    expandElement imports d chain e = expand imports d' chain n := by
  simp only [expandElement, h]

theorem expandElement_of_missing {e : ElementDecl} {label : Option String}
    (h : e.target imports d = .missing label) :
    expandElement imports d chain e = .fallback label := by
  simp only [expandElement, h]

theorem expandElement_of_primitive {e : ElementDecl} {p : Primitive}
    (h : e.target imports d = .primitive p) : expandElement imports d chain e = .primitive p := by
  simp only [expandElement, h]

/-- A declared type stands for what its content model stands for, where the type itself is among
those that are being expanded. -/
theorem expand_of_declared {t : ComplexType} (hc : name ∉ chain) (ht : d.findType? name = some t) :
    expand imports d chain name = t.expansion (expandElement imports d (name :: chain)) := by
  rw [expand, dif_neg hc]
  split
  · rename_i h; rw [ht] at h; cases h
  · rename_i u h
    obtain rfl : t = u := Option.some.inj (ht.symm.trans h)
    extract_lets follow
    have hfollow : follow = expandElement imports d (name :: chain) := by
      funext e
      simp only [follow, expandElement]
      split <;> rename_i h <;> simp only [h]
    rw [hfollow]
    obtain ⟨_, _ | ⟨_ | _, _⟩⟩ := t <;> rfl

/-! ### Induction -/

/-- What holds of types that are cut off, of types that are not declared, and of a declared type once
it holds of the types that its elements refer to, holds of all types. -/
@[elab_as_elim]
theorem expand_induction (imports : Imports) {motive : Document → List String → String → Prop}
    (cut : ∀ d chain name, name ∈ chain → motive d chain name)
    (undeclared : ∀ d chain name, name ∉ chain → d.findType? name = none → motive d chain name)
    (declared : ∀ d chain name t, name ∉ chain → d.findType? name = some t →
      (∀ e d' n, ElementDecl.target imports d e = .type d' n → motive d' (name :: chain) n) →
      motive d chain name)
    (d : Document) (chain : List String) (name : String) : motive d chain name := by
  induction h : (openNames imports d chain).length using Nat.strongRecOn
    generalizing d chain name with
  | _ k ih =>
    by_cases hc : name ∈ chain
    · exact cut d chain name hc
    cases ht : d.findType? name with
    | none => exact undeclared d chain name hc ht
    | some t =>
      refine declared d chain name t hc ht fun e d' n hd => ih _ ?_ _ _ _ rfl
      rw [← h]
      exact openNames_length_lt (ElementDecl.document_of_target hd) (Document.mem_typeNames ht) hc

end ApiContract.Schema
