import ApiContract.Proofs.Schema.References

/-!
How deep expansion goes. Every type that is opened takes one of the names that are still open
(`openNames`), and it opens at most three levels of the schema: a choice, the object of a branch, and
an array around a property. So expansion ends (`expandWithin_eq`), the types that are opened one
inside the other have different names (`Call.nodup_names`), and the depth of a schema is bounded by the
number of declared names. The calls of expansion are those by which it is put together
(`Call.isFollowed`). They follow references until a name comes up again, so they lead only to what is
reached (`Call.Leads.reaches`).
-/

namespace ApiContract.Schema

open Relation

variable {imports : Imports} {d d' : Document} {chain : List String} {name defaultType : String}

/-! ### Expansion with a bound on nested calls -/

/-- What a type stands for, if it can be found with at most `n` calls one inside the other. Nothing but
the bound keeps this from running on. -/
def expandWithin (imports : Imports) : Nat → Document → List String → String → Option Expansion
  | 0, _, _, _ => none
  | n + 1, d, chain, name =>
    if name ∈ chain then some (.cut name)
    else match d.findType? name with
      | none => some (.fallback none)
      | some t =>
        let follow (e : ElementDecl) : Option (ElementDecl × Expansion) :=
          match e.target imports d with
          | .primitive p => some (e, .primitive p)
          | .missing label => some (e, .fallback label)
          | .type d' m => (expandWithin imports n d' (name :: chain) m).map (e, ·)
        match t.content with
        | none => some (.fallback none)
        | some ⟨.sequence, ms⟩ => ((Particle.sequenceElements ms).mapM follow).map .object
        | some ⟨.choice max, ms⟩ =>
          ((ContentModel.branches ms).mapM (List.mapM follow)).map (.choice (isUnbounded max))

lemma mapM_eq_some_map {α β : Type} {f : α → Option β} {g : α → β} {l : List α}
    (h : ∀ a ∈ l, f a = some (g a)) : l.mapM f = some (l.map g) := by
  induction l with
  | nil => rfl
  | cons a l ih =>
    rw [List.mapM_cons, h a List.mem_cons_self, ih fun b hb => h b (List.mem_cons_of_mem _ hb)]
    rfl

/-- **Expansion ends**: as many nested calls as there are open names, and one more, are enough. -/
theorem expandWithin_eq (n : Nat) (h : (openNames imports d chain).length < n) :
    expandWithin imports n d chain name = some (expand imports d chain name) := by
  induction n generalizing d chain name with
  | zero => exact absurd h (Nat.not_lt_zero _)
  | succ n ih =>
    unfold expandWithin
    by_cases hc : name ∈ chain
    · rw [if_pos hc, expand_of_mem hc]
    rw [if_neg hc]
    cases ht : d.findType? name with
    | none => rw [expand_of_undeclared hc ht]
    | some t =>
      rw [expand_of_declared hc ht]
      extract_lets follow
      have hfollow : ∀ e, follow e = some (e, expandElement imports d (name :: chain) e) := by
        intro e
        simp only [follow]
        split
        · rename_i hd; rw [expandElement_of_primitive hd]
        · rename_i hd; rw [expandElement_of_missing hd]
        · rename_i hd
          have hlt := openNames_length_lt (ElementDecl.document_of_target hd)
            (Document.mem_typeNames ht) hc
          rw [ih (by omega), expandElement_of_type hd]
          rfl
      obtain ⟨_, _ | ⟨_ | max, ms⟩⟩ := t
      · rfl
      · simp only [mapM_eq_some_map fun e _ => hfollow e]
        rfl
      · simp only [mapM_eq_some_map fun (b : List ElementDecl) _ =>
          mapM_eq_some_map fun e (_ : e ∈ b) => hfollow e]
        rfl

/-! ### Calls one inside the other -/

/-- A call of expansion: a type of a document, and the types that are being expanded around it. -/
structure Call where
  document : Document
  chain : List String
  name : String

namespace Call

/-- The type that a call is about. -/
def site (c : Call) : Site := ⟨c.document, c.name⟩

/-- The call for a type within the type that a call is about. -/
def within (c : Call) (a : Site) : Call := ⟨a.document, c.name :: c.chain, a.name⟩

/-- What a call comes to. -/
def expansion (imports : Imports) (c : Call) : Expansion := expand imports c.document c.chain c.name

/-- The call expands its type and is not cut off. -/
def IsOpen (c : Call) : Prop := c.name ∉ c.chain

/-- The second call is made for an element of the type that the first call expands. -/
inductive Makes (imports : Imports) (c : Call) : Call → Prop where
  | element {t : ComplexType} {e : ElementDecl} {d' : Document} {n : String} (hc : c.IsOpen)
      (ht : c.document.findType? c.name = some t) (he : e ∈ t.elements)
      (hd : e.target imports c.document = .type d' n) : Makes imports c ⟨d', c.name :: c.chain, n⟩

lemma makes_iff {c c' : Call} : Makes imports c c' ↔
    c.IsOpen ∧ c'.site ∈ c.site.references imports ∧ c'.chain = c.name :: c.chain := by
  rw [Site.mem_references]
  constructor
  · rintro ⟨hc, ht, he, hd⟩
    exact ⟨hc, ⟨_, ht, _, he, hd⟩, rfl⟩
  · obtain ⟨d', chain', n⟩ := c'
    rintro ⟨hc, ⟨t, ht, e, he, hd⟩, rfl⟩
    exact .element hc ht he hd

lemma Makes.chain_eq {c c' : Call} (h : Makes imports c c') : c'.chain = c.name :: c.chain := by
  cases h; rfl

/-- How a call comes to its expansion. One that is cut off, or about a type that is not declared, makes no
calls. Any other one makes a call for each reference of its type, and what these come to is all that
it needs to know of other types. -/
structure IsFollowed (imports : Imports) (c : Call) : Prop where
  cut : ¬c.IsOpen → c.expansion imports = .cut c.name
  undeclared : c.IsOpen → c.document.findType? c.name = none → c.expansion imports = .fallback none
  declared : ∀ (t : ComplexType) (follow : Site → Expansion), c.IsOpen →
    c.document.findType? c.name = some t →
    (∀ a, Makes imports c (c.within a) → follow a = (c.within a).expansion imports) →
    c.expansion imports = t.opened imports c.document follow
  makes : ∀ c', Makes imports c c' ↔ c.IsOpen ∧ ∃ a ∈ c.site.references imports, c' = c.within a

/-- **Expansion goes by its calls.** -/
theorem isFollowed (imports : Imports) (c : Call) : c.IsFollowed imports where
  cut hc := expand_of_mem (not_not.1 hc)
  undeclared hc ht := expand_of_undeclared hc ht
  declared t follow hc ht h := by
    have hexpansion : c.expansion imports =
        t.opened imports c.document fun a => (c.within a).expansion imports :=
      expand_eq_opened hc ht
    rw [hexpansion]
    refine opened_congr (a := c.site) ht fun a ha => ?_
    exact (h a (makes_iff.2 ⟨hc, ha, rfl⟩)).symm
  makes c' := by
    rw [makes_iff]
    refine and_congr_right fun _ => ⟨?_, ?_⟩
    · rintro ⟨ha, hchain⟩
      obtain ⟨d', chain', n⟩ := c'
      exact ⟨_, ha, by rw [within, ← hchain]; rfl⟩
    · rintro ⟨a, ha, rfl⟩
      exact ⟨ha, rfl⟩

/-- Calls each of which is made by the one before it, and none of which is cut off. -/
def IsNest (imports : Imports) (cs : List Call) : Prop :=
  cs.IsChain (Makes imports) ∧ ∀ c ∈ cs, c.IsOpen

/-- The names of nested calls differ from each other and from the names around the first one. -/
theorem nodup_names {c : Call} {cs : List Call} (h : IsNest imports (c :: cs)) :
    ((c :: cs).map (·.name)).Nodup ∧ ∀ n ∈ (c :: cs).map (·.name), n ∉ c.chain := by
  obtain ⟨hm, ho⟩ := h
  induction cs generalizing c with
  | nil =>
    have hc : c.name ∉ c.chain := ho c List.mem_cons_self
    simpa using hc
  | cons c' cs ih =>
    rw [List.isChain_cons_cons] at hm
    obtain ⟨hn, hc⟩ := ih hm.2 fun x hx => ho x (List.mem_cons_of_mem _ hx)
    rw [hm.1.chain_eq] at hc
    have hne : ∀ n ∈ (c' :: cs).map (·.name), n ≠ c.name ∧ n ∉ c.chain := fun n h => by
      simpa using hc n h
    refine ⟨List.nodup_cons.2 ⟨fun h => (hne _ h).1 rfl, hn⟩, fun n h => ?_⟩
    rcases List.mem_cons.1 h with rfl | h
    · exact ho c List.mem_cons_self
    · exact (hne n h).2

/-- The second call is made within the first one, or they are the same. -/
def Leads (imports : Imports) : Call → Call → Prop := ReflTransGen (Makes imports)

/-- Calls lead only to what references reach. -/
theorem Leads.reaches {c c' : Call} (h : c.Leads imports c') : c.site.Reaches imports c'.site :=
  h.lift site fun _ _ hm => (makes_iff.1 hm).2.1

/-- The types around a call are around all calls within it. -/
lemma Leads.chain_subset {c c' : Call} (h : c.Leads imports c') : c.chain ⊆ c'.chain := by
  induction h with
  | refl => exact List.Subset.refl _
  | tail _ hm ih =>
    rw [hm.chain_eq]
    exact List.subset_cons_of_subset _ ih

end Call

/-! ### The depth of nodes -/

namespace Node

mutual

/-- The number of nodes one inside the other; a node without parts has depth one. -/
def depth : Node → Nat
  | primitive _ _ => 1
  | object ps _ _ => propertyDepth ps + 1
  | array n _ => n.depth + 1
  | combinator _ ns _ => listDepth ns + 1

/-- The depth of the deepest property. -/
def propertyDepth : List (String × Node) → Nat
  | [] => 0
  | (_, n) :: ps => max n.depth (propertyDepth ps)

/-- The depth of the deepest node. -/
def listDepth : List Node → Nat
  | [] => 0
  | n :: ns => max n.depth (listDepth ns)

end

lemma propertyDepth_le {k : Nat} {ps : List (String × Node)} (h : ∀ p ∈ ps, p.2.depth ≤ k) :
    propertyDepth ps ≤ k := by
  induction ps with
  | nil => exact Nat.zero_le _
  | cons p ps ih =>
    rw [propertyDepth]
    exact Nat.max_le.2 ⟨h p List.mem_cons_self, ih fun q hq => h q (List.mem_cons_of_mem _ hq)⟩

lemma listDepth_le {k : Nat} {ns : List Node} (h : ∀ n ∈ ns, n.depth ≤ k) : listDepth ns ≤ k := by
  induction ns with
  | nil => exact Nat.zero_le _
  | cons n ns ih =>
    rw [listDepth]
    exact Nat.max_le.2 ⟨h n List.mem_cons_self, ih fun q hq => h q (List.mem_cons_of_mem _ hq)⟩

lemma depth_withFacets (f : Facets) (n : Node) : (n.withFacets f).depth = n.depth := by
  cases n <;> rfl

/-- A property may be an array of what its type stands for. -/
lemma depth_ofField_le (e : ElementDecl) (n : Node) : (ofField e n).depth ≤ n.depth + 1 := by
  unfold ofField
  rw [depth_withFacets]
  split
  · exact Nat.le_refl _
  · exact Nat.le_succ _

lemma depth_ofFields_le {k : Nat} {fields : List (ElementDecl × Node)}
    (h : ∀ f ∈ fields, f.2.depth ≤ k) : (ofFields fields).depth ≤ k + 2 := by
  have hp : ∀ p ∈ (ofFields fields).properties, p.2.depth ≤ k + 1 := by
    intro p hp
    obtain ⟨f, hf, rfl⟩ := exists_of_mem_properties hp
    exact Nat.le_trans (depth_ofField_le f.1 f.2) (Nat.succ_le_succ (h f hf))
  exact Nat.succ_le_succ (propertyDepth_le hp)

end Node

lemma depth_fieldNodes_le {k : Nat} {es : List ElementDecl}
    (h : ∀ e, (elementSchema imports d chain defaultType e).depth ≤ k) :
    ∀ f ∈ fieldNodes imports d chain defaultType es, f.2.depth ≤ k := by
  intro f hf
  obtain ⟨e, -, rfl⟩ := List.mem_map.1 hf
  exact h e

/-- A declared type adds at most three levels to what its elements stand for. -/
lemma depth_typeSchema_le {k : Nat} {t : ComplexType} (hc : name ∉ chain)
    (ht : d.findType? name = some t)
    (h : ∀ e, (elementSchema imports d (name :: chain) defaultType e).depth ≤ k) :
    (typeSchema imports d chain defaultType name).depth ≤ k + 3 := by
  obtain ⟨_, _ | ⟨_ | max, ms⟩⟩ := t
  · rw [typeSchema_of_empty hc ht]
    exact Nat.le_add_left _ _
  · rw [typeSchema_of_sequence hc ht]
    exact Nat.le_trans (Node.depth_ofFields_le (depth_fieldNodes_le h)) (Nat.le_succ _)
  · rw [typeSchema_of_choice hc ht]
    refine Nat.succ_le_succ (Node.listDepth_le fun n hn => ?_)
    obtain ⟨b, -, rfl⟩ := List.mem_map.1 hn
    exact Node.depth_ofFields_le (depth_fieldNodes_le h)

theorem depth_typeSchema_le_openNames (imports : Imports) (d : Document) (chain : List String)
    (defaultType name : String) : (typeSchema imports d chain defaultType name).depth ≤
      3 * (openNames imports d chain).length + 1 := by
  induction d, chain, name using expand_induction imports with
  | cut d chain name hc => rw [typeSchema_of_mem hc]; exact Nat.le_add_left _ _
  | undeclared d chain name hc ht =>
    rw [typeSchema_of_undeclared hc ht]; exact Nat.le_add_left _ _
  | declared d chain name t hc ht ih =>
    have hopen : 1 ≤ (openNames imports d chain).length :=
      List.length_pos_of_mem (mem_openNames.2 ⟨.inl (Document.mem_typeNames ht), hc⟩)
    have hk : 3 * ((openNames imports d chain).length - 1) + 1 + 3 =
        3 * (openNames imports d chain).length + 1 := by omega
    rw [← hk]
    refine depth_typeSchema_le hc ht fun e => ?_
    unfold elementSchema
    cases hd : e.target imports d with
    | primitive p => rw [expandElement_of_primitive hd]; exact Nat.le_add_left _ _
    | missing label => rw [expandElement_of_missing hd]; exact Nat.le_add_left _ _
    | type d' n =>
      have hlt := openNames_length_lt (ElementDecl.document_of_target hd)
        (Document.mem_typeNames ht) hc
      have hd' := ih e d' n hd
      rw [expandElement_of_type hd]
      unfold typeSchema at hd'
      omega

/-- **Bounds of expansion.** Whatever types refer to each other, in one document or across imports,
expansion ends within as many nested calls as there are open names and one more; every call comes to its
expansion by the calls that it makes; the types that are expanded one inside the other have different
names, none of which is in `chain`; and the schema has at most three levels for each open name, and a
leaf. -/
theorem expansion_bounds (imports : Imports) (d : Document) (chain : List String)
    (defaultType name : String) :
    (∀ n, (openNames imports d chain).length < n →
        expandWithin imports n d chain name = some (expand imports d chain name)) ∧
      (∀ c : Call, c.IsFollowed imports) ∧
      (∀ cs, Call.IsNest imports (⟨d, chain, name⟩ :: cs) →
        ((⟨d, chain, name⟩ :: cs : List Call).map (·.name)).Nodup ∧
          ∀ n ∈ (⟨d, chain, name⟩ :: cs : List Call).map (·.name), n ∉ chain) ∧
      (typeSchema imports d chain defaultType name).depth ≤
        3 * (openNames imports d chain).length + 1 :=
  ⟨expandWithin_eq, Call.isFollowed imports, fun _ h => Call.nodup_names h,
    depth_typeSchema_le_openNames imports d chain defaultType name⟩

end ApiContract.Schema
