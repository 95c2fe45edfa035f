import ApiContract.Proofs.Schema.Properties
import Mathlib.Logic.Relation

/-!
Which types refer to which. The references of a type are the types that its elements lead to, each one a
document and the name that is looked up there (`Site.references`). They lead on from there, within a
document and across imports, whatever types are being expanded (`Site.Reaches`). Of other types a declared
type needs to know no more than what its references stand for (`opened_congr`).
-/

namespace ApiContract.Schema

open Relation

variable {imports : Imports} {d : Document} {chain : List String} {name : String}

/-- A type as references lead to it: a document and a name in it, which may be declared there or not. -/
structure Site where
  document : Document
  name : String

/-! ### What targets stand for -/

namespace Target

/-- The type that a target is, if it is one. -/
def site? : Target → Option Site
  | type d name => some ⟨d, name⟩
  | _ => none

lemma site?_eq_some_iff {x : Target} {a : Site} : x.site? = some a ↔ x = type a.document a.name := by
  cases x with
  | primitive p => simp [site?]
  | type d name =>
    obtain ⟨d', name'⟩ := a
    simp [site?]
  | missing label => simp [site?]

/-- What a target stands for, if `follow` tells what types stand for. -/
def expansion (follow : Site → Expansion) : Target → Expansion
  | primitive p => .primitive p
  | type d name => follow ⟨d, name⟩
  | missing label => .fallback label

lemma expansion_congr {f g : Site → Expansion} {x : Target} (h : ∀ a, x.site? = some a → f a = g a) :
    x.expansion f = x.expansion g := by
  cases x with
  | primitive p => rfl
  | type d name => exact h ⟨d, name⟩ rfl
  | missing label => rfl

end Target

/-- An element stands for what its target stands for, where types are expanded in the chain. -/
lemma expandElement_eq (imports : Imports) (d : Document) (chain : List String) (e : ElementDecl) :
    expandElement imports d chain e =
      (e.target imports d).expansion fun a => expand imports a.document chain a.name := by
  unfold expandElement
  cases e.target imports d <;> rfl

/-! ### References -/

namespace Site

/-- The types that the elements of the first type of this name lead to. A name that is not declared has
no references. -/
def references (imports : Imports) (a : Site) : List Site :=
  match a.document.findType? a.name with
  | none => []
  | some t => t.elements.filterMap fun e => (e.target imports a.document).site?

lemma mem_references {a b : Site} : b ∈ a.references imports ↔
    ∃ t, a.document.findType? a.name = some t ∧
      ∃ e ∈ t.elements, e.target imports a.document = .type b.document b.name := by
  unfold references
  cases a.document.findType? a.name with
  | none => simp
  | some t => simp [Target.site?_eq_some_iff]

/-- References lead from the first type to the second, directly or by way of others, or they are the
same. -/
def Reaches (imports : Imports) : Site → Site → Prop :=
  ReflTransGen fun a b => b ∈ a.references imports

/-- What is kept by references is kept of all that is reached. -/
lemma Reaches.closed {a b : Site} {P : Site → Prop} (h : a.Reaches imports b) (ha : P a)
    (hP : ∀ x, P x → ∀ y ∈ x.references imports, P y) : P b := by
  induction h with
  | refl => exact ha
  | tail _ hxy ih => exact hP _ ih _ hxy

end Site

/-! ### What declared types stand for -/

/-- What a type of a document stands for, if `follow` tells what the types stand for that it refers
to. -/
def ComplexType.opened (imports : Imports) (d : Document) (follow : Site → Expansion)
    (t : ComplexType) : Expansion :=
  t.expansion fun e => (e.target imports d).expansion follow

/-- Only the references of a type matter to what it stands for. -/
theorem opened_congr {a : Site} {t : ComplexType} {f g : Site → Expansion}
    (ht : a.document.findType? a.name = some t) (h : ∀ b ∈ a.references imports, f b = g b) :
    t.opened imports a.document f = t.opened imports a.document g := by
  refine ComplexType.expansion_congr fun e he => Target.expansion_congr fun b hb => h b ?_
  exact Site.mem_references.2 ⟨t, ht, e, he, Target.site?_eq_some_iff.1 hb⟩

/-- A declared type stands for what its references stand for, with its name put before the chain. -/
theorem expand_eq_opened {t : ComplexType} (hc : name ∉ chain) (ht : d.findType? name = some t) :
    expand imports d chain name =
      t.opened imports d fun a => expand imports a.document (name :: chain) a.name := by
  rw [expand_of_declared hc ht, funext (expandElement_eq imports d (name :: chain))]
  rfl

end ApiContract.Schema
