import ApiContract.Proofs.Schema.Imports
import ApiContract.Proofs.Schema.Properties

/-!
Where references across documents lead. The labels under which imported documents stand are those of
the root, and every document's references are looked up under them, whatever the labels mean in the
document itself. So a reference is followed as its namespace asks if the root has the label for the
same namespace, or no document stands under it, and in no other case (`isFaithful_iff`).
-/

namespace ApiContract.Schema

open ApiContract.Files ApiContract.Text

variable {t : Tree} {r d : Document} {rootFile : Option String} {imports : Imports}
  {e : ElementDecl} {label name : String}

/-! ### Documents under labels -/

/-- The document is loaded for an import of the root. -/
structure Import.Loads (t : Tree) (r : Document) (rootFile : Option String) (i : Import)
    (d : Document) : Prop where
  mem : i ∈ r.imports
  followed : (i.label? r.importLabels).isSome
  document : ∃ root, rootFile = some root ∧ root ≠ "" ∧
    documentAt t (importPath i.location root) = .ok d

/-- A document that stands under a label is loaded for the last import with the label, and the root
has the label for the namespace of that import. -/
theorem exists_loads_of_lookup (hr : r.IsKeyed)
    (hi : resolveImports t r.imports rootFile r.importLabels = .ok imports)
    (hd : imports.lookup label = some d) :
    ∃ i, importOf? r.imports r.importLabels label = some i ∧ i.Loads t r rootFile d ∧
      r.namespaces.lookup label = some i.space := by
  obtain _ | root := rootFile
  · cases hi; cases hd
  by_cases hroot : root = ""
  · subst hroot; cases hi; cases hd
  rw [lookup_resolveImports hroot hi label] at hd
  obtain ⟨i, hf, hd⟩ := Option.bind_eq_some_iff.1 hd
  have hl : i.label? r.importLabels = some label := by simpa using List.find?_some hf
  have hm : i ∈ r.imports := List.mem_reverse.1 (List.mem_of_find?_eq_some hf)
  have hdoc : documentAt t (importPath i.location root) = .ok d := by
    cases h : documentAt t (importPath i.location root) with
    | error e => rw [h] at hd; cases hd
    | ok d' => rw [h] at hd; cases hd; rfl
  exact ⟨i, hf, ⟨hm, by rw [hl]; rfl, root, rfl, hroot, hdoc⟩, lookup_namespaces_of_label? hr hl⟩

/-! ### References -/

lemma target_of_foreign (imports : Imports)
    (he : TypeRef.resolve d e.typeRef = some (.foreign label name)) :
    e.target imports d = match imports.lookup label with
      | some d' => .type d' name
      | none => .missing (some label) := by
  rw [ElementDecl.target, he]
  rfl

/-- The reference of an element with a label is followed as the namespace asks that its document has
the label for: only to the document of an import of this namespace, and if no document is loaded for
one, the default type stands for it. -/
structure IsFaithful (t : Tree) (r : Document) (rootFile : Option String) (imports : Imports)
    (d : Document) (e : ElementDecl) (label : String) : Prop where
  followed : ∀ d' n, e.target imports d = .type d' n →
    ∃ i, importOf? r.imports r.importLabels label = some i ∧ i.Loads t r rootFile d' ∧
      d.namespaces.lookup label = some i.space
  unfollowed : (¬∃ i d', Import.Loads t r rootFile i d' ∧
      d.namespaces.lookup label = some i.space) →
    ∀ chain defaultType, elementSchema imports d chain defaultType e = .primitive defaultType .none

section Resolved

variable (hr : r.IsKeyed) (hi : resolveImports t r.imports rootFile r.importLabels = .ok imports)
  (he : TypeRef.resolve d e.typeRef = some (.foreign label name))

include hr hi he

/-- The root and the document have the label for the same namespace, or no document stands under it. -/
lemma IsFaithful.of_lookup
    (h : imports.lookup label = none ∨ r.namespaces.lookup label = d.namespaces.lookup label) :
    IsFaithful t r rootFile imports d e label := by
  have htarget := target_of_foreign imports he
  cases hl : imports.lookup label with
  | none =>
    rw [hl] at htarget
    refine ⟨fun d' n h => ?_, fun _ _ _ => elementSchema_of_missing htarget⟩
    rw [htarget] at h
    cases h
  | some d' =>
    rw [hl] at htarget
    obtain ⟨i, hf, hload, hspace⟩ := exists_loads_of_lookup hr hi hl
    have hspace' : d.namespaces.lookup label = some i.space := by
      rw [← h.resolve_left (by rw [hl]; nofun), hspace]
    refine ⟨fun d'' n ht => ?_, fun hno => absurd ⟨i, d', hload, hspace'⟩ hno⟩
    rw [htarget] at ht
    cases ht
    exact ⟨i, hf, hload, hspace'⟩

lemma IsFaithful.lookup (h : IsFaithful t r rootFile imports d e label) :
    imports.lookup label = none ∨ r.namespaces.lookup label = d.namespaces.lookup label := by
  have htarget := target_of_foreign imports he
  cases hl : imports.lookup label with
  | none => exact .inl rfl
  | some d' =>
    rw [hl] at htarget
    obtain ⟨i, hf, -, hspace⟩ := exists_loads_of_lookup hr hi hl
    obtain ⟨j, hj, -, hd⟩ := h.followed d' name htarget
    obtain rfl : i = j := Option.some.inj (hf.symm.trans hj)
    exact .inr (hspace.trans hd.symm)

end Resolved

/-- **What references across documents mean.** The imports of a root resolve, and an element of some
document, the root or another one, refers to a type with a label that is not its own. The reference is
followed as its namespace asks exactly if no document stands under the label, or the root and the
document have the label for the same namespace. -/
theorem isFaithful_iff (hr : r.IsKeyed)
    (hi : resolveImports t r.imports rootFile r.importLabels = .ok imports)
    (he : TypeRef.resolve d e.typeRef = some (.foreign label name)) :
    IsFaithful t r rootFile imports d e label ↔
      imports.lookup label = none ∨ r.namespaces.lookup label = d.namespaces.lookup label :=
  ⟨IsFaithful.lookup hr hi he, IsFaithful.of_lookup hr hi he⟩

/-- The references of a root that is read are all followed as their namespaces ask. -/
theorem isFaithful_of_read {c : Content} {source : Option String} (h : Document.read c source = .ok r)
    (hi : resolveImports t r.imports rootFile r.importLabels = .ok imports)
    (he : TypeRef.resolve r e.typeRef = some (.foreign label name)) :
    IsFaithful t r rootFile imports r e label :=
  .of_lookup (Document.isKeyed_of_read h) hi he (.inr rfl)

/-! ### A label with two meanings -/

/-- The start tag of a schema, with the label `b` for a namespace that nobody imports. -/
def sharedTag : List Char :=
  "<schema xmlns='http://www.w3.org/2001/XMLSchema' xmlns:b='urn:c'>\n".toList

/-- A type `t`, whose element `x` refers to a type `u` with this label. -/
def sharedUser : List Char :=
  "<complexType name='t'><sequence><element name='x' type='b:u'/></sequence></complexType>\n".toList

/-- A type `u`, and the end of the schema. -/
def sharedUsed : List Char :=
  "<complexType name='u'><sequence><element name='y'/></sequence></complexType></schema>".toList

/-- A document with the types `t` and `u`. The element `x` of `t` refers to a type with the label `b`,
which the document has for a namespace that nobody imports. -/
def sharedText : String := String.ofList (sharedTag ++ (sharedUser ++ sharedUsed))

/-- A tree where the document is in the file `b.xsd`. -/
def sharedTree : Tree := ⟨["w"], [(["w", "b.xsd"], .file (encode sharedText.toList))]⟩

/-- A root beside this file, which imports it under the label `b` for another namespace. -/
def sharedRoot : Document := ⟨none, [("b", "urn:v")], [], [], [⟨"urn:v", "b"⟩], none⟩

/-- The element `x` of the imported document. -/
def sharedElement : ElementDecl := { ElementDecl.ofName "x" with typeRef := some "b:u" }

/-- An element of the root that refers to the type `t`. -/
def rootElement : ElementDecl := { ElementDecl.ofName "Req" with typeRef := some "b:t" }

/-- The import of the root resolves, and in the document the schema of the type `u` is that of its
own declaration. -/
lemma exists_shared : ∃ d,
    resolveImports sharedTree sharedRoot.imports (some "m.xsd") sharedRoot.importLabels =
      .ok [("b", d)] ∧
    (d.findType? "t").map ComplexType.elements = some [sharedElement] ∧
    TypeRef.resolve d sharedElement.typeRef = some (.foreign "b" "u") ∧
    d.namespaces.lookup "b" = some "urn:c" ∧
    keys (typeSchema [("b", d)] d ["t"] "string" "u").properties = ["y"] := by
  have h : (documentAt sharedTree (importPath "b" "m.xsd")).toOption.any (fun d =>
      (d.findType? "t").map ComplexType.elements = some [sharedElement] ∧
      TypeRef.resolve d sharedElement.typeRef = some (.foreign "b" "u") ∧
      d.namespaces.lookup "b" = some "urn:c" ∧
      keys (typeSchema [("b", d)] d ["t"] "string" "u").properties = ["y"]) = true := by
    -- as a list of characters the text is read without decoding the literals again and again
    rw [sharedTree, sharedText, String.toList_ofList, show sharedTag = _ from String.toList_ofList,
      show sharedUser = _ from String.toList_ofList, show sharedUsed = _ from String.toList_ofList]
    decide +kernel
  cases hd : documentAt sharedTree (importPath "b" "m.xsd") with
  | error e => rw [hd] at h; cases h
  | ok d =>
    rw [hd] at h
    refine ⟨d, (resolveImports_eq_ok_iff (by decide)).2 ⟨[("b", d)], ?_, rfl⟩,
      of_decide_eq_true h⟩
    exact .cons ⟨rfl, hd⟩ .nil

/-- The root refers to the document as its own label asks, but the document does not: its label `b`
leads back to itself. -/
theorem isFaithful_iff_shared : ∃ imports d,
    sharedRoot.IsKeyed ∧
    resolveImports sharedTree sharedRoot.imports (some "m.xsd") sharedRoot.importLabels =
      .ok imports ∧
    TypeRef.resolve sharedRoot rootElement.typeRef = some (.foreign "b" "t") ∧
    TypeRef.resolve d sharedElement.typeRef = some (.foreign "b" "u") ∧
    IsFaithful sharedTree sharedRoot (some "m.xsd") imports sharedRoot rootElement "b" ∧
    ¬IsFaithful sharedTree sharedRoot (some "m.xsd") imports d sharedElement "b" := by
  obtain ⟨d, hi, -, hx, hb, -⟩ := exists_shared
  have hr : sharedRoot.IsKeyed := by unfold Document.IsKeyed; decide
  have hroot : TypeRef.resolve sharedRoot rootElement.typeRef = some (.foreign "b" "t") := by
    decide
  refine ⟨_, d, hr, hi, hroot, hx, (isFaithful_iff hr hi hroot).2 (.inr rfl), fun h => ?_⟩
  have hs : sharedRoot.namespaces.lookup "b" = some "urn:v" := rfl
  rcases (isFaithful_iff hr hi hx).1 h with h | h
  · cases h
  · rw [hs, hb] at h
    exact absurd h (by decide)

/-- No document is loaded for the namespace that the imported document has its label for, and yet a
type is put in the place of the reference. -/
theorem foreign_label_misread : ∃ imports d u,
    resolveImports sharedTree sharedRoot.imports (some "m.xsd") sharedRoot.importLabels =
      .ok imports ∧
    imports.lookup "b" = some d ∧
    d.findType? "t" = some u ∧ sharedElement ∈ u.elements ∧
    TypeRef.resolve d sharedElement.typeRef = some (.foreign "b" "u") ∧
    d.namespaces.lookup "b" = some "urn:c" ∧
    (∀ i ∈ sharedRoot.imports, i.space ≠ "urn:c") ∧
    elementSchema imports d ["t"] "string" sharedElement ≠ .primitive "string" .none := by
  obtain ⟨d, hi, ht, hx, hb, hy⟩ := exists_shared
  obtain ⟨u, hu, he⟩ := Option.map_eq_some_iff.1 ht
  refine ⟨_, d, u, hi, rfl, hu, he ▸ List.mem_singleton_self _, hx, hb, by decide, fun h => ?_⟩
  have htarget : sharedElement.target [("b", d)] d = .type d "u" := target_of_foreign _ hx
  have hschema : elementSchema [("b", d)] d ["t"] "string" sharedElement =
      typeSchema [("b", d)] d ["t"] "string" "u" := by
    rw [elementSchema, expandElement_of_type htarget, typeSchema]
  rw [← hschema, h] at hy
  exact absurd hy (by decide)

end ApiContract.Schema
