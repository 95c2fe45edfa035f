import ApiContract.Proofs.Schema.Labels
import ApiContract.Proofs.Schema.Simulation
import Mathlib.Logic.Equiv.Basic

/-!
Labels by other names. Which labels a document uses for namespaces is of no account: if they are
renamed one to one, in the declarations of namespaces, in the references to types and among the
imported documents, all schemas stay the same (`schemas_rename`). A renaming keeps the labels that mean
something whether or not they are declared.
-/

namespace ApiContract.Schema

/-- A way to rename labels: no two of them become one, those with a meaning of their own stay, and a
label in which there is no colon gets none. -/
structure Renaming where
  label : String → String
  injective : Function.Injective label
  empty : label "" = ""
  tns : label "tns" = "tns"
  xs : label "xs" = "xs"
  xsd : label "xsd" = "xsd"
  colon : ∀ s, ':' ∉ s.toList → ':' ∉ (label s).toList

/-- The renaming that exchanges two labels which have no meaning of their own. -/
def Renaming.exchange (a b : String)
    (h : ∀ l ∈ [a, b], ':' ∉ l.toList ∧ l ∉ ["", "tns", "xs", "xsd"]) : Renaming :=
  have kept : ∀ s ∈ ["", "tns", "xs", "xsd"], Equiv.swap a b s = s := fun s hs =>
    Equiv.swap_apply_of_ne_of_ne (fun e => (h a (by simp)).2 (e ▸ hs))
      fun e => (h b (by simp)).2 (e ▸ hs)
  { label := Equiv.swap a b
    injective := (Equiv.swap a b).injective
    empty := kept "" (by decide)
    tns := kept "tns" (by decide)
    xs := kept "xs" (by decide)
    xsd := kept "xsd" (by decide)
    colon := fun s hs => by
      rw [Equiv.swap_apply_def]
      split
      · exact (h b (by simp)).1
      · split
        · exact (h a (by simp)).1
        · exact hs }

variable (r : Renaming) {imports : Imports} {d : Document} {label name text : String}

/-! ### Renaming in documents -/

/-- A reference with its label renamed, which is what comes before the first colon. -/
def Renaming.reference (text : String) : String :=
  match text.toList.span (· ≠ ':') with
  | (label, _ :: name) => r.label (String.ofList label) ++ ":" ++ String.ofList name
  | (_, []) => text

/-- The element with the label in its reference renamed. -/
def ElementDecl.rename (e : ElementDecl) : ElementDecl :=
  { e with typeRef := e.typeRef.map r.reference }

/-- The document with all its labels renamed. -/
def Document.rename (d : Document) : Document :=
  { d with
    namespaces := d.namespaces.map fun p => (r.label p.1, p.2)
    types := d.types.map (·.map (ElementDecl.rename r))
    elements := d.elements.map (ElementDecl.rename r) }

/-- The imported documents with all their labels renamed, those they stand under as well. -/
def Imports.rename (imports : Imports) : Imports :=
  imports.map fun p => (r.label p.1, p.2.rename r)

lemma Imports.lookup_rename (imports : Imports) (label : String) :
    (Imports.rename r imports).lookup (r.label label) =
      (imports.lookup label).map (Document.rename r) := by
  induction imports with
  | nil => rfl
  | cons p imports ih =>
    obtain ⟨l, d⟩ := p
    unfold rename at ih ⊢
    rw [List.map_cons, lookup_pair, lookup_pair, ih]
    by_cases h : label = l
    · rw [h, if_pos rfl, if_pos rfl]
      rfl
    · rw [if_neg h, if_neg fun he => h (r.injective he)]

lemma Document.findType?_rename (d : Document) (name : String) :
    (d.rename r).findType? name = (d.findType? name).map (·.map (ElementDecl.rename r)) := by
  unfold findType? rename
  rw [List.find?_map]
  rfl

/-! ### What labels stand for -/

lemma Renaming.label_eq_iff {kept : String} (h : r.label kept = kept) :
    r.label label = kept ↔ label = kept := by
  conv_lhs => rw [← h]
  exact r.injective.eq_iff

lemma Document.mem_labelsOf_rename {space : String} :
    r.label label ∈ (d.rename r).labelsOf space ↔ label ∈ d.labelsOf space := by
  rw [mem_labelsOf, mem_labelsOf, ne_eq, ne_eq, r.label_eq_iff r.empty]
  refine and_congr_left fun _ => ?_
  simp [rename, r.injective.eq_iff]

lemma Document.mem_ownLabels_rename : r.label label ∈ (d.rename r).ownLabels ↔ label ∈ d.ownLabels := by
  simp only [mem_ownLabels, mem_labelsOf_rename, r.label_eq_iff r.tns]
  rfl

lemma Renaming.mem_reservedLabels : r.label label ∈ reservedLabels ↔ label ∈ reservedLabels := by
  simp [reservedLabels, r.label_eq_iff r.xs, r.label_eq_iff r.xsd]

/-! ### References -/

lemma Renaming.reference_append (h : ':' ∉ label.toList) (name : String) :
    r.reference (label ++ ":" ++ name) = r.label label ++ ":" ++ name := by
  unfold reference
  rw [span_label h]
  simp

lemma Renaming.reference_of_bare (h : ':' ∉ text.toList) : r.reference text = text := by
  unfold reference
  rw [span_ne_of_not_mem h]

lemma Renaming.reference_eq_empty : r.reference text = "" ↔ text = "" := by
  rcases exists_label_or_bare text with h | ⟨label, name, h, rfl⟩
  · rw [r.reference_of_bare h]
  · rw [r.reference_append h, iff_false_intro (label_append_ne_empty _ _),
      iff_false_intro (label_append_ne_empty _ _)]

/-- The reference with its label renamed. -/
def TypeRef.rename : TypeRef → TypeRef
  | own name => own name
  | builtin name => builtin name
  | foreign label name => foreign (r.label label) name

lemma TypeRef.ofLabel_rename (d : Document) (label name : String) :
    ofLabel (d.rename r) (r.label label) name = (ofLabel d label name).rename r := by
  have hxsd : r.label label ∈ (d.rename r).xsdLabels ↔ label ∈ d.xsdLabels :=
    Document.mem_labelsOf_rename r
  simp only [ofLabel, Bool.or_eq_true, List.contains_iff_mem, Document.mem_ownLabels_rename,
    r.mem_reservedLabels, hxsd]
  split
  · rfl
  · split <;> rfl

lemma TypeRef.resolve_rename (d : Document) (ref : Option String) :
    resolve (d.rename r) (ref.map r.reference) = (resolve d ref).map (rename r) := by
  obtain _ | text := ref
  · rfl
  have hempty : (r.reference text).isEmpty = text.isEmpty := by
    rw [Bool.eq_iff_iff, String.isEmpty_iff, String.isEmpty_iff, r.reference_eq_empty]
  have htext : ofText (d.rename r) (r.reference text) = (ofText d text).rename r := by
    rcases exists_label_or_bare text with h | ⟨label, name, h, rfl⟩
    · rw [r.reference_of_bare h, ofText_of_bare h, ofText_of_bare h]
      rfl
    · rw [r.reference_append h, ofText_append (r.colon label h), ofText_append h, ofLabel_rename]
  simp only [Option.map_some, resolve, hempty, htext]
  split <;> rfl

/-- A renamed element leads where the element leads, into the renamed document. -/
theorem ElementDecl.target_rename (imports : Imports) (d : Document) (e : ElementDecl) :
    (e.target imports d).Related (fun d d' => d' = d.rename r)
      ((e.rename r).target (Imports.rename r imports) (d.rename r)) := by
  unfold target rename
  rw [TypeRef.resolve_rename]
  rcases TypeRef.resolve d e.typeRef with _ | name | name | ⟨label, name⟩
  · exact .missing none none
  · simp only [Option.map_some, TypeRef.rename, Target.ofRef]
    split
    · exact .primitive _
    · refine .type ?_ name
      rfl
  · simp only [Option.map_some, TypeRef.rename, Target.ofRef]
    split
    · exact .primitive _
    · exact .missing none none
  · simp only [Option.map_some, TypeRef.rename, Target.ofRef, Imports.lookup_rename]
    cases imports.lookup label with
    | none => exact .missing _ _
    | some d' =>
      refine .type ?_ name
      rfl

/-! ### Schemas -/

/-- Renamed documents simulate the documents. -/
def Renaming.simulation (imports : Imports) : Simulation imports (Imports.rename r imports) where
  element := ElementDecl.rename r
  Related d d' := d' = d.rename r
  withoutType_element _ := rfl
  findType? h name := by rw [h, Document.findType?_rename]
  target h _ _ _ e _ := by rw [h]; exact e.target_rename r _ _

/-- **The choice of labels is of no account.** If the labels are renamed in a document and in all its
imports, every type and every element has the same schema as before. -/
theorem schemas_rename (imports : Imports) (d : Document) (chain : List String)
    (defaultType : String) :
    (∀ name, typeSchema (Imports.rename r imports) (d.rename r) chain defaultType name =
      typeSchema imports d chain defaultType name) ∧
    ∀ e : ElementDecl,
      elementSchema (Imports.rename r imports) (d.rename r) chain defaultType (e.rename r) =
        elementSchema imports d chain defaultType e :=
  ⟨fun name => ((r.simulation imports).typeSchema_eq rfl chain defaultType name).symm,
    fun e => ((r.simulation imports).elementSchema_eq (e.target_rename r _ _) chain defaultType).symm⟩

/-- The exchange of the labels `b` and `c`. -/
def exchanged : Renaming := .exchange "b" "c" (by decide)

/-- A reference to a type. -/
def refer (label name : String) : String := label ++ ":" ++ name

/-- A document with a label for a namespace, and a type that refers with another one to the type `t`. -/
def labelled (label other : String) : Document :=
  { Document.ofTypes [sequenceOf "r" "x" (some (refer other "t"))] with namespaces := [(label, "urn:n")] }

/-- Documents with a type `t`, which refers to the other one, and a type `u`. -/
def labelledImports (label other : String) : Imports :=
  [(label, .ofTypes [sequenceOf "t" "y" (some (refer other "u"))]), (other, .ofTypes [sequenceOf "u" "z" none])]

lemma rename_labelled (label name : String) (h : ':' ∉ text.toList) :
    (labelled label text).rename r = labelled (r.label label) (r.label text) ∧
      Imports.rename r (labelledImports label text) = labelledImports (r.label label) (r.label text) ∧
      (elementOf name (refer text "t")).rename r = elementOf name (refer (r.label text) "t") := by
  have ht := r.reference_append h "t"
  have hu := r.reference_append h "u"
  refine ⟨?_, ?_, ?_⟩
  · rw [labelled, labelled, refer, refer, ← ht]
    rfl
  · rw [labelledImports, labelledImports, refer, refer, ← hu]
    rfl
  · rw [elementOf, elementOf, refer, refer, ← ht]
    rfl

/-- A document and its imports with the labels `b` and `c` exchanged have the same schemas. -/
theorem schemas_rename_exchanged :
    exchanged.label "b" = "c" ∧ exchanged.label "c" = "b" ∧
    typeSchema (labelledImports "b" "c") (labelled "c" "b") [] "string" "r" =
      typeSchema (labelledImports "c" "b") (labelled "b" "c") [] "string" "r" ∧
    elementSchema (labelledImports "b" "c") (labelled "c" "b") ["r"] "string" (elementOf "e" "b:t") =
      elementSchema (labelledImports "c" "b") (labelled "b" "c") ["r"] "string" (elementOf "e" "c:t") := by
  have hb : exchanged.label "b" = "c" := by decide
  have hc : exchanged.label "c" = "b" := by decide
  obtain ⟨hd, -, he⟩ := rename_labelled exchanged "b" "e" (show ':' ∉ "c".toList by decide)
  obtain ⟨-, hi, -⟩ := rename_labelled exchanged "c" "e" (show ':' ∉ "b".toList by decide)
  have htype := (schemas_rename exchanged (labelledImports "c" "b") (labelled "b" "c") [] "string").1 "r"
  have helement := (schemas_rename exchanged (labelledImports "c" "b") (labelled "b" "c") ["r"] "string").2
    (elementOf "e" (refer "c" "t"))
  rw [hi, hd, hb, hc] at htype helement
  rw [he, hc] at helement
  exact ⟨hb, hc, htype, helement⟩

end ApiContract.Schema
