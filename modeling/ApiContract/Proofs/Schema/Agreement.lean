import ApiContract.Proofs.Schema.Simulation
import Mathlib.Data.List.Forall2
import Mathlib.Data.List.Perm.Basic

/-!
What expansion asks of a document: which labels are its own, which stand for XML Schema, and what the
first type of a name is. Documents that agree in this have the same schemas (`typeSchema_of_agrees`),
and so all else, the order of types with different names, types whose name comes earlier, and the
elements at the top, is of no account (`sameSchemas_of_lookup`).
-/

namespace ApiContract.Schema

variable {imports imports' : Imports} {d d' : Document}

/-- The documents have the same labels of their own and for XML Schema, and the same types by name. -/
structure Document.Agrees (d d' : Document) : Prop where
  ownLabels : ∀ label, label ∈ d.ownLabels ↔ label ∈ d'.ownLabels
  xsdLabels : ∀ label, label ∈ d.xsdLabels ↔ label ∈ d'.xsdLabels
  findType? : ∀ name, d.findType? name = d'.findType? name

lemma Document.Agrees.refl (d : Document) : d.Agrees d :=
  ⟨fun _ => Iff.rfl, fun _ => Iff.rfl, fun _ => rfl⟩

/-- The imported documents stand under the same labels and agree one by one. -/
def Imports.Agree (imports imports' : Imports) : Prop :=
  ∀ label, Option.Rel Document.Agrees (imports.lookup label) (imports'.lookup label)

lemma Imports.Agree.refl (imports : Imports) : Imports.Agree imports imports := fun label => by
  cases imports.lookup label with
  | none => exact .none
  | some d => exact .some (.refl d)

lemma Imports.Agree.lookup_cases (h : Imports.Agree imports imports') (label : String) :
    (imports.lookup label = none ∧ imports'.lookup label = none) ∨
      ∃ x x', imports.lookup label = some x ∧ imports'.lookup label = some x' ∧ x.Agrees x' := by
  have hl := h label
  generalize imports.lookup label = o at hl ⊢
  generalize imports'.lookup label = o' at hl ⊢
  cases hl with
  | none => exact .inl ⟨rfl, rfl⟩
  | some hx => exact .inr ⟨_, _, rfl, rfl, hx⟩

/-! ### References -/

lemma TypeRef.resolve_of_agrees (h : d.Agrees d') (text : Option String) :
    resolve d text = resolve d' text := by
  have hl : ∀ label name, ofLabel d label name = ofLabel d' label name := by
    intro label name
    simp only [ofLabel, Bool.or_eq_true, List.contains_iff_mem, h.ownLabels, h.xsdLabels]
  have ht : ∀ text, ofText d text = ofText d' text := by
    intro text
    unfold ofText
    split
    · exact hl _ _
    · rfl
  cases text with
  | none => rfl
  | some text => simp only [resolve, ht]

theorem ElementDecl.target_agrees (hm : Imports.Agree imports imports') (hd : d.Agrees d')
    (e : ElementDecl) :
    (e.target imports d).Related Document.Agrees (e.target imports' d') := by
  unfold target
  rw [TypeRef.resolve_of_agrees hd]
  rcases TypeRef.resolve d' e.typeRef with _ | name | name | ⟨label, name⟩
  · exact .missing none none
  · simp only [Target.ofRef]
    split
    · exact .primitive _
    · exact .type hd name
  · simp only [Target.ofRef]
    split
    · exact .primitive _
    · exact .missing none none
  · simp only [Target.ofRef]
    rcases hm.lookup_cases label with ⟨h, h'⟩ | ⟨x, x', h, h', hx⟩
    · rw [h, h']
      exact .missing _ _
    · rw [h, h']
      exact .type hx name

/-! ### Schemas -/

/-- Documents that agree simulate each other, element by element. -/
def agreement (hm : Imports.Agree imports imports') : Simulation imports imports' where
  element := id
  Related := Document.Agrees
  withoutType_element := ElementDecl.withoutType_id
  findType? hd name := by rw [← hd.findType? name, Document.map_id_findType?]
  target hd _ _ _ e _ := ElementDecl.target_agrees hm hd e

/-- **Documents that agree have the same schemas.** -/
theorem typeSchema_of_agrees (hm : Imports.Agree imports imports') (hd : d.Agrees d')
    (chain : List String) (defaultType name : String) :
    typeSchema imports d chain defaultType name = typeSchema imports' d' chain defaultType name :=
  (agreement hm).typeSchema_eq hd chain defaultType name

theorem elementSchema_of_agrees (hm : Imports.Agree imports imports') (hd : d.Agrees d')
    (chain : List String) (defaultType : String) (e : ElementDecl) :
    elementSchema imports d chain defaultType e = elementSchema imports' d' chain defaultType e :=
  (agreement hm).elementSchema_eq (ElementDecl.target_agrees hm hd e) chain defaultType

/-- The elements at the top are of no account. -/
lemma Document.agrees_of_elements (d : Document) (es : List ElementDecl) :
    d.Agrees { d with elements := es } :=
  ⟨fun _ => Iff.rfl, fun _ => Iff.rfl, fun _ => rfl⟩

/-! ### The order of types -/

/-- The second list of types is the first one in an order that keeps the types of each name as they
are, or without a type whose name comes earlier, or it comes from the first one in several such
steps. -/
inductive ComplexType.Rearranged : List ComplexType → List ComplexType → Prop where
  | reordered {ts ts' : List ComplexType}
      (h : ∀ n, ts.filter (·.name == n) = ts'.filter (·.name == n)) : Rearranged ts ts'
  | dropped {before after : List ComplexType} {t : ComplexType}
      (h : t.name ∈ before.map (·.name)) : Rearranged (before ++ t :: after) (before ++ after)
  | trans {ts ts' ts'' : List ComplexType} (h : Rearranged ts ts') (h' : Rearranged ts' ts'') :
      Rearranged ts ts''

/-- Types with different names may be put into any order. -/
lemma ComplexType.Rearranged.of_perm {ts ts' : List ComplexType} (hp : ts.Perm ts')
    (hn : (ts.map (·.name)).Nodup) : Rearranged ts ts' := by
  refine .reordered fun n => ?_
  have hf := hp.filter (·.name == n)
  have hs : ((ts.filter (·.name == n)).map (·.name)).Nodup := hn.sublist (List.filter_sublist.map _)
  have hname : ∀ t ∈ ts.filter (·.name == n), t.name = n := fun t ht => by
    simpa using (List.mem_filter.1 ht).2
  generalize ts.filter (·.name == n) = us at hf hs hname
  generalize ts'.filter (·.name == n) = us' at hf
  match us with
  | [] => exact hf.nil_eq
  | [t] => exact List.singleton_perm.1 hf
  | t :: u :: _ =>
    -- there is one type of a name at most
    have htu : t.name = u.name := (hname t (by simp)).trans (hname u (by simp)).symm
    simp [htu] at hs

/-- The first type of a name stays. -/
lemma ComplexType.Rearranged.find?_eq {ts ts' : List ComplexType} (h : Rearranged ts ts')
    (n : String) : ts.find? (·.name == n) = ts'.find? (·.name == n) := by
  induction h with
  | reordered h => rw [← List.head?_filter, h n, List.head?_filter]
  | @dropped before after t h =>
    rw [List.find?_append, List.find?_append]
    by_cases ht : t.name = n
    · obtain ⟨u, hu, hun⟩ := List.mem_map.1 h
      have hs : (before.find? (·.name == n)).isSome := by
        rw [List.find?_isSome]
        exact ⟨u, hu, by simp [hun, ht]⟩
      rw [Option.or_of_isSome hs, Option.or_of_isSome hs]
    · rw [List.find?_cons_of_neg (by simpa using ht)]
  | trans _ _ ih ih' => rw [ih, ih']

/-- The second document is the first one with its types rearranged. -/
def Document.Rearranged (d d' : Document) : Prop :=
  ∃ ts, ComplexType.Rearranged d.types ts ∧ d' = { d with types := ts }

lemma Document.Rearranged.agrees (h : d.Rearranged d') : d.Agrees d' := by
  obtain ⟨ts, hts, rfl⟩ := h
  exact ⟨fun _ => Iff.rfl, fun _ => Iff.rfl, fun n => hts.find?_eq n⟩

/-- The imported documents are the same under the same labels, with their types rearranged. -/
def Imports.Rearranged (imports imports' : Imports) : Prop :=
  List.Forall₂ (fun p q => p.1 = q.1 ∧ p.2.Rearranged q.2) imports imports'

lemma Imports.Rearranged.agree (h : Imports.Rearranged imports imports') :
    Imports.Agree imports imports' := by
  intro label
  induction h with
  | nil => exact .none
  | @cons p q _ _ hpq _ ih =>
    obtain ⟨l, x⟩ := p
    obtain ⟨_, x'⟩ := q
    obtain ⟨rfl, hx⟩ : l = _ ∧ x.Rearranged x' := hpq
    rw [lookup_pair, lookup_pair]
    by_cases hl : label = l
    · rw [if_pos hl, if_pos hl]
      exact .some hx.agrees
    · rw [if_neg hl, if_neg hl]
      exact ih

/-- All types and all elements have the same schemas in both documents. -/
def SameSchemas (imports : Imports) (d : Document) (imports' : Imports) (d' : Document) : Prop :=
  ∀ chain defaultType,
    (∀ name, typeSchema imports d chain defaultType name =
      typeSchema imports' d' chain defaultType name) ∧
    ∀ e, elementSchema imports d chain defaultType e = elementSchema imports' d' chain defaultType e

/-- **Schemas depend on what is looked up.** Two documents whose imports stand under the same labels
have the same schemas if they agree, and their imports do, in the labels of their own and for XML
Schema and in the first type of each name. So it is if types with different names are put into another
order and types whose name comes earlier are left out, in the document and in all imported ones. -/
theorem sameSchemas_of_lookup (imports imports' : Imports) (d d' : Document) :
    (Imports.Agree imports imports' → d.Agrees d' → SameSchemas imports d imports' d') ∧
      (Imports.Rearranged imports imports' → d.Rearranged d' →
        SameSchemas imports d imports' d') := by
  have hagrees : Imports.Agree imports imports' → d.Agrees d' →
      SameSchemas imports d imports' d' := fun hm hd chain defaultType =>
    ⟨typeSchema_of_agrees hm hd chain defaultType, elementSchema_of_agrees hm hd chain defaultType⟩
  exact ⟨hagrees, fun hm hd => hagrees hm.agree hd.agrees⟩

/-- The type `t` with an element of an imported type, where another type comes first, a later `t` is
left out and so is a later `u` of the import. -/
theorem sameSchemas_of_lookup_turned :
    let imports := [("p", Document.ofTypes [sequenceOf "u" "y" none, ⟨"u", none⟩])]
    let imports' := [("p", Document.ofTypes [sequenceOf "u" "y" none])]
    let d := Document.ofTypes [sequenceOf "t" "x" "p:u", ⟨"v", none⟩, sequenceOf "t" "z" none]
    let d' := Document.ofTypes [⟨"v", none⟩, sequenceOf "t" "x" "p:u"]
    Imports.Rearranged imports imports' ∧ d.Rearranged d' ∧
      Imports.Agree imports imports' ∧ d.Agrees d' ∧
      typeSchema imports d [] "string" "t" = typeSchema imports' d' [] "string" "t" ∧
      elementSchema imports d [] "string" (.ofName "r") =
        elementSchema imports' d' [] "string" (.ofName "r") ∧
      (keys (typeSchema imports' d' [] "string" "t").properties) = ["x"] := by
  intro imports imports' d d'
  have hdropped : ComplexType.Rearranged
      ([sequenceOf "t" "x" "p:u", ⟨"v", none⟩] ++ sequenceOf "t" "z" none :: [])
      ([sequenceOf "t" "x" "p:u", ⟨"v", none⟩] ++ []) := .dropped (by decide)
  have hturned : ComplexType.Rearranged [sequenceOf "t" "x" "p:u", ⟨"v", none⟩]
      [⟨"v", none⟩, sequenceOf "t" "x" "p:u"] := .of_perm (.swap _ _ _) (by decide)
  have himport : ComplexType.Rearranged ([sequenceOf "u" "y" none] ++ ⟨"u", none⟩ :: [])
      ([sequenceOf "u" "y" none] ++ []) := .dropped (by decide)
  have hm : Imports.Rearranged imports imports' := .cons ⟨rfl, _, himport, rfl⟩ .nil
  have hd : d.Rearranged d' := ⟨_, .trans hdropped hturned, rfl⟩
  refine ⟨hm, hd, hm.agree, hd.agrees, ((sameSchemas_of_lookup _ _ _ _).2 hm hd [] "string").1 "t",
    ((sameSchemas_of_lookup _ _ _ _).1 hm.agree hd.agrees [] "string").2 _, ?_⟩
  rw [typeSchema_of_sequence (by decide) rfl]
  decide

end ApiContract.Schema
