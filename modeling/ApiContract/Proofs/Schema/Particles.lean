import ApiContract.Proofs.Schema.Coverage
import ApiContract.Proofs.Text.Blank
import ApiContract.Schema.OfXml

/-!
Content models and the XML that they are read from. What is read is normal: groups alternate, and nothing is
there that is empty (`isNormal_ofNodes`). A normal content model is read back from the XML that it is
written as (`ofNodes_toNodes`). And what is no particle is passed over wherever it stands
(`Noisy.ofNodes_eq`), so the content model is read back with noise in it at every level
(`contentModel_exact`).
-/

namespace ApiContract.Schema

open ApiContract.Text
open ApiContract.Xml (Name)

variable {outer : GroupKind} {e : ElementDecl} {p : Particle} {ps : List Particle}
  {n : Xml.Node} {ns ns' cs cs' : List Xml.Node} {m : ContentModel}

/-! ### Normal content models -/

/-- The element has a name, its type and its documentation are not empty if they are there, and the
documentation has no blanks around it. -/
structure ElementDecl.IsNormal (e : ElementDecl) : Prop where
  name_ne : e.name ≠ ""
  typeRef_ne : e.typeRef ≠ some ""
  documentation : ∀ s ∈ e.documentation, s ≠ "" ∧ strip s = s

/-- The particle may stand in a group of a kind: it is a normal element, or a choice of what may stand in
choices if the group is a sequence, or a sequence of what may stand in sequences if it is a choice. -/
inductive Particle.IsNormal : GroupKind → Particle → Prop where
  | element {outer : GroupKind} {e : ElementDecl} (h : e.IsNormal) : IsNormal outer (.element e)
  | choice {max : Option String} {ps : List Particle} (h : ∀ p ∈ ps, IsNormal (.choice max) p) :
      IsNormal .sequence (.group (.choice max) ps)
  | sequence {max : Option String} {ps : List Particle} (h : ∀ p ∈ ps, IsNormal .sequence p) :
      IsNormal (.choice max) (.group .sequence ps)

/-- Every particle of the content model may stand in it. -/
def ContentModel.IsNormal (m : ContentModel) : Prop := ∀ p ∈ m.members, p.IsNormal m.kind

/-! ### As XML -/

/-- The attributes that have a value. -/
def attributesOf (pairs : List (String × Option String)) : List (Name × String) :=
  pairs.filterMap fun a => a.2.map fun v => (⟨none, a.1⟩, v)

/-- Documentation in an annotation. -/
def documentationNode (s : String) : Xml.Node :=
  .element (xsd "annotation") [] [.element (xsd "documentation") [] [.text s.toList]]

/-- The attributes of an element, with the values that they have. -/
def ElementDecl.attributes (e : ElementDecl) : List (String × Option String) :=
  [("name", some e.name), ("type", e.typeRef), ("minOccurs", e.minOccurs),
    ("maxOccurs", e.maxOccurs), ("default", e.defaultValue), ("fixed", e.fixedValue)]

/-- The element as a node. -/
def ElementDecl.toNode (e : ElementDecl) : Xml.Node :=
  .element (xsd "element") (attributesOf e.attributes) (e.documentation.map documentationNode).toList

/-- The attributes of a group. -/
def GroupKind.attributes : GroupKind → List (Name × String)
  | sequence => []
  | choice max => attributesOf [("maxOccurs", max)]

mutual

/-- The particle as a node. -/
def Particle.toNode : Particle → Xml.Node
  | .element e => e.toNode
  | .group kind ps => .element (xsd kind.word) kind.attributes (Particle.toNodes ps)

/-- Particles as nodes. -/
def Particle.toNodes : List Particle → List Xml.Node
  | [] => []
  | p :: ps => p.toNode :: Particle.toNodes ps

end

/-! ### Noise -/

/-- The name of the groups that may stand in a group of a kind. -/
def GroupKind.innerWord : GroupKind → String
  | sequence => "choice"
  | choice _ => "sequence"

/-- The kind of the groups that may stand in a group of a kind, if they have these attributes. -/
def GroupKind.inner (as : List (Name × String)) : GroupKind → GroupKind
  | sequence => .choice (as.lookup ⟨none, "maxOccurs"⟩)
  | choice _ => .sequence

/-- A node that is no particle of a group: text, an element that is not of XML Schema, a construct of XML
Schema that may not stand there (an annotation, or a sequence in a sequence), or an element without a
name. -/
inductive IsNoise (outer : GroupKind) : Xml.Node → Prop where
  | text (cs : List Char) : IsNoise outer (.text cs)
  | foreign {name : Name} (h : name.space ≠ some xsdSpace) (as : List (Name × String))
      (cs : List Xml.Node) : IsNoise outer (.element name as cs)
  | unsupported {base : String} (he : base ≠ "element") (hg : base ≠ outer.innerWord)
      (as : List (Name × String)) (cs : List Xml.Node) : IsNoise outer (.element (xsd base) as cs)
  | nameless {as : List (Name × String)} (h : ∀ name ∈ as.lookup ⟨none, "name"⟩, name = "")
      (cs : List Xml.Node) : IsNoise outer (.element (xsd "element") as cs)

/-- The second nodes are the first ones with noise put in: anywhere among them, and anywhere inside of the
groups that they are, on every level. -/
inductive Noisy : GroupKind → List Xml.Node → List Xml.Node → Prop where
  | nil {outer : GroupKind} : Noisy outer [] []
  | insert {outer : GroupKind} {n : Xml.Node} {ns ns' : List Xml.Node} (hn : IsNoise outer n)
      (h : Noisy outer ns ns') : Noisy outer ns (n :: ns')
  | keep {outer : GroupKind} {n : Xml.Node} {ns ns' : List Xml.Node} (h : Noisy outer ns ns') :
      Noisy outer (n :: ns) (n :: ns')
  | within {outer : GroupKind} {as : List (Name × String)} {cs cs' ns ns' : List Xml.Node}
      (hc : Noisy (outer.inner as) cs cs') (h : Noisy outer ns ns') :
      Noisy outer (.element (xsd outer.innerWord) as cs :: ns)
        (.element (xsd outer.innerWord) as cs' :: ns')

/-- The type is written as a node with this content model: the first group of its kind is that of the
content model, with noise in it, and there is no sequence beside a choice. -/
def ContentModel.IsWrittenIn (m : ContentModel) (n : Xml.Node) : Prop :=
  ∃ before cs after,
    n.children = before ++ .element (xsd m.kind.word) m.kind.attributes cs :: after ∧
    Noisy m.kind (Particle.toNodes m.members) cs ∧
    (∀ x ∈ before, x.isNamed (xsd m.kind.word) = false) ∧
    (m.kind ≠ .sequence → ∀ x ∈ before ++ after, x.isNamed (xsd "sequence") = false)

/-! ### One node -/

lemma ofNode?_text (outer : GroupKind) (cs : List Char) :
    Particle.ofNode? outer (.text cs) = none := by
  unfold Particle.ofNode?
  cases outer <;> rfl

lemma isNamed_element {name name' : Name} {as : List (Name × String)} :
    (Xml.Node.element name as cs).isNamed name' = true ↔ name = name' := by
  simp [Xml.Node.isNamed, Xml.Node.name?]

lemma ofMember?_element (outer : GroupKind) (name : Name) (as : List (Name × String)) (cs : List Xml.Node) :
    outer.ofMember? (.element name as cs) =
      if name = xsd outer.innerWord then some (outer.inner as) else none := by
  cases outer with
  | sequence =>
    by_cases h : name = xsd "choice"
    · exact (if_pos (isNamed_element.2 h)).trans (if_pos h).symm
    · exact (if_neg (mt isNamed_element.1 h)).trans (if_neg h).symm
  | choice max =>
    by_cases h : name = xsd "sequence"
    · exact (if_pos (isNamed_element.2 h)).trans (if_pos h).symm
    · exact (if_neg (mt isNamed_element.1 h)).trans (if_neg h).symm

/-- What an element is in a group is told by its name: an element, or a group that may stand there. -/
lemma ofNode?_element (outer : GroupKind) (name : Name) (as : List (Name × String)) (cs : List Xml.Node) :
    Particle.ofNode? outer (.element name as cs) =
      if name = xsd "element" then (ElementDecl.ofNode? (.element name as cs)).map .element
      else if name = xsd outer.innerWord then
        some (.group (outer.inner as) (Particle.ofNodes (outer.inner as) cs))
      else none := by
  unfold Particle.ofNode?
  rw [ofMember?_element]
  by_cases h : name = xsd "element"
  · rw [if_pos (isNamed_element.2 h), if_pos h]
  · rw [if_neg (mt isNamed_element.1 h), if_neg h]
    by_cases hg : name = xsd outer.innerWord
    · rw [if_pos hg, if_pos hg]
    · rw [if_neg hg, if_neg hg]

lemma xsd_inj {base base' : String} : xsd base = xsd base' ↔ base = base' := by
  simp [xsd]

lemma innerWord_ne (outer : GroupKind) : xsd outer.innerWord ≠ xsd "element" := by
  rw [Ne, xsd_inj]
  cases outer with
  | sequence => exact show "choice" ≠ "element" by decide
  | choice max => exact show "sequence" ≠ "element" by decide

/-- A group that may stand in another one is read with what is inside of it. -/
lemma ofNode?_group (outer : GroupKind) (as : List (Name × String)) (cs : List Xml.Node) :
    Particle.ofNode? outer (.element (xsd outer.innerWord) as cs) =
      some (.group (outer.inner as) (Particle.ofNodes (outer.inner as) cs)) := by
  rw [ofNode?_element, if_neg (innerWord_ne outer), if_pos rfl]

/-! ### What is read is normal -/

lemma isNormal_documentation? {s : String} (h : documentation? n = some s) : s ≠ "" ∧ strip s = s := by
  unfold documentation? at h
  simp only [Option.bind_eq_bind, Option.bind_eq_some_iff] at h
  obtain ⟨note, -, documentation, -, h⟩ := h
  split at h
  · cases h
  · rename_i htext
    cases h
    refine ⟨fun he => htext (List.isEmpty_iff.2 (String.ofList_eq_empty_iff.1 he)), ?_⟩
    rw [strip, String.toList_ofList, trim_trim]

lemma isNormal_ofNode? (h : ElementDecl.ofNode? n = some e) : e.IsNormal := by
  unfold ElementDecl.ofNode? at h
  split at h
  · cases h
  · split at h
    · cases h
    · rename_i hname
      cases h
      refine ⟨fun he => hname (String.isEmpty_iff.2 he), fun ht => ?_,
        fun s hs => isNormal_documentation? hs⟩
      have := (Option.filter_eq_some_iff.1 ht).2
      cases this

mutual

/-- The particle that a node is read as may stand where the node does. -/
theorem isNormal_particle : (n : Xml.Node) → (outer : GroupKind) → ∀ p ∈ Particle.ofNode? outer n,
    p.IsNormal outer
  | .text cs, outer => by
    rw [ofNode?_text]
    exact nofun
  | .element name as cs, outer => by
    intro p hp
    rw [ofNode?_element] at hp
    split at hp
    · obtain ⟨e, he, rfl⟩ := Option.map_eq_some_iff.1 hp
      exact .element (isNormal_ofNode? he)
    · split at hp
      · cases hp
        have hmembers := isNormal_ofNodes cs (outer.inner as)
        cases outer with
        | sequence => exact .choice hmembers
        | choice max => exact .sequence hmembers
      · cases hp

/-- **What is read is normal**, whatever the nodes are. -/
theorem isNormal_ofNodes : (ns : List Xml.Node) → (outer : GroupKind) →
    ∀ p ∈ Particle.ofNodes outer ns, p.IsNormal outer
  | [], _ => fun _ hp => absurd hp List.not_mem_nil
  | n :: ns, outer => by
    intro p hp
    rw [Particle.ofNodes, List.mem_append, Option.mem_toList] at hp
    rcases hp with hp | hp
    · exact isNormal_particle n outer p hp
    · exact isNormal_ofNodes ns outer p hp

end

/-! ### What is normal is read back -/

lemma lookup_attributesOf_of_not_mem {pairs : List (String × Option String)} {key : String}
    (h : key ∉ pairs.map Prod.fst) : (attributesOf pairs).lookup ⟨none, key⟩ = none := by
  rw [List.lookup_eq_none_iff]
  intro a ha
  obtain ⟨⟨k, v⟩, hk, hv⟩ := List.mem_filterMap.1 ha
  obtain ⟨s, -, rfl⟩ := Option.map_eq_some_iff.1 hv
  have hne : key ≠ k := fun heq => h (heq ▸ List.mem_map_of_mem hk)
  simp [hne]

/-- The value of an attribute is what it is written with, if it is written once. -/
lemma lookup_attributesOf {pairs : List (String × Option String)} {key : String} {v : Option String}
    (hn : (pairs.map Prod.fst).Nodup) (h : (key, v) ∈ pairs) :
    (attributesOf pairs).lookup ⟨none, key⟩ = v := by
  induction pairs with
  | nil => cases h
  | cons a pairs ih =>
    obtain ⟨k, w⟩ := a
    rw [List.map_cons, List.nodup_cons] at hn
    rcases List.mem_cons.1 h with heq | hmem
    · cases heq
      cases v with
      | none =>
        have hnone : (attributesOf pairs).lookup ⟨none, key⟩ = none := lookup_attributesOf_of_not_mem hn.1
        exact hnone
      | some s => simp [attributesOf]
    · have hkey : key ∈ pairs.map Prod.fst := List.mem_map_of_mem hmem
      have hne : key ≠ k := fun heq => hn.1 (heq ▸ hkey)
      cases w with
      | none => exact ih hn.2 hmem
      | some s =>
        have hs : attributesOf ((k, some s) :: pairs) = (⟨none, k⟩, s) :: attributesOf pairs := rfl
        rw [hs, List.lookup_cons, beq_false_of_ne (by simpa using hne)]
        exact ih hn.2 hmem

lemma documentation?_documentationNode {name : Name} {as : List (Name × String)} {s : String}
    (h : s ≠ "" ∧ strip s = s) : documentation? (.element name as [documentationNode s]) = some s := by
  have htrim : trim isBlank s.toList = s.toList := by
    have := congrArg String.toList h.2
    rwa [strip, String.toList_ofList] at this
  have hne : s.toList ≠ [] := fun hnil => h.1 (String.toList_eq_nil_iff.1 hnil)
  simp [documentation?, documentationNode, Xml.Node.children, Xml.Node.isNamed, Xml.Node.name?,
    Xml.Node.innerText, Xml.Node.innerTexts, htrim, hne]

/-- A normal element is read back. -/
lemma ofNode?_toNode (h : e.IsNormal) : ElementDecl.ofNode? e.toNode = some e := by
  have hkeys : (e.attributes.map Prod.fst).Nodup :=
    show ["name", "type", "minOccurs", "maxOccurs", "default", "fixed"].Nodup by decide
  have hattribute : ∀ key v, (key, v) ∈ e.attributes → e.toNode.attribute? key = v := fun _ _ =>
    lookup_attributesOf hkeys
  have hdocumentation : documentation? e.toNode = e.documentation := by
    cases hd : e.documentation with
    | none => simp [ElementDecl.toNode, hd, documentation?, Xml.Node.children]
    | some s =>
      rw [ElementDecl.toNode, hd]
      exact documentation?_documentationNode (h.documentation s hd)
  have htype : e.typeRef.filter (!·.isEmpty) = e.typeRef := by
    cases ht : e.typeRef with
    | none => rfl
    | some t =>
      have hne : t ≠ "" := fun he => h.typeRef_ne (by rw [ht, he])
      simp [Option.filter, hne]
  have hname : e.name.isEmpty = false := by
    rw [Bool.eq_false_iff, Ne, String.isEmpty_iff]
    exact h.name_ne
  unfold ElementDecl.ofNode?
  simp only [hattribute "name" (some e.name) (by simp [ElementDecl.attributes]),
    hattribute "type" e.typeRef (by simp [ElementDecl.attributes]),
    hattribute "minOccurs" e.minOccurs (by simp [ElementDecl.attributes]),
    hattribute "maxOccurs" e.maxOccurs (by simp [ElementDecl.attributes]),
    hattribute "default" e.defaultValue (by simp [ElementDecl.attributes]),
    hattribute "fixed" e.fixedValue (by simp [ElementDecl.attributes]), hname, htype, hdocumentation]
  rfl

/-- A group that may stand in another one is written with the name and the attributes that it is known
by. -/
lemma Particle.IsNormal.kind {kind : GroupKind} {ps : List Particle}
    (h : (Particle.group kind ps).IsNormal outer) :
    kind.word = outer.innerWord ∧ outer.inner kind.attributes = kind ∧ ∀ p ∈ ps, p.IsNormal kind := by
  cases h with
  | choice hps =>
    refine ⟨rfl, ?_, hps⟩
    exact congrArg GroupKind.choice (lookup_attributesOf (by simp) List.mem_cons_self)
  | sequence hps => exact ⟨rfl, rfl, hps⟩

mutual

/-- A normal particle is read back. -/
lemma particle_toNode : (p : Particle) → (outer : GroupKind) → p.IsNormal outer →
    Particle.ofNode? outer p.toNode = some p
  | .element e, outer, h => by
    cases h with
    | element he =>
      rw [Particle.toNode, ElementDecl.toNode, ofNode?_element, if_pos rfl, ← ElementDecl.toNode,
        ofNode?_toNode he]
      rfl
  | .group kind ps, outer, h => by
    obtain ⟨hword, hkind, hps⟩ := h.kind
    rw [Particle.toNode, hword, ofNode?_group, hkind, ofNodes_toNodes ps kind hps]

/-- **What is normal is read back** from what it is written as. -/
theorem ofNodes_toNodes : (ps : List Particle) → (outer : GroupKind) → (∀ p ∈ ps, p.IsNormal outer) →
    Particle.ofNodes outer (Particle.toNodes ps) = ps
  | [], _, _ => rfl
  | p :: ps, outer, h => by
    rw [Particle.toNodes, Particle.ofNodes, particle_toNode p outer (h p List.mem_cons_self),
      ofNodes_toNodes ps outer fun q hq => h q (List.mem_cons_of_mem _ hq)]
    rfl

end

/-! ### Noise is passed over -/

lemma IsNoise.ofNode?_eq (h : IsNoise outer n) : Particle.ofNode? outer n = none := by
  cases h with
  | text cs => exact ofNode?_text outer cs
  | foreign h as cs =>
    have hne : ∀ base, ‹Name› ≠ xsd base := fun base heq => h (congrArg Name.space heq)
    rw [ofNode?_element, if_neg (hne _), if_neg (hne _)]
  | unsupported he hg as cs =>
    rw [ofNode?_element, if_neg (mt xsd_inj.1 he), if_neg (mt xsd_inj.1 hg)]
  | @nameless as h cs =>
    have hname : ElementDecl.ofNode? (.element (xsd "element") as cs) = none := by
      have hlookup : (Xml.Node.element (xsd "element") as cs).attribute? "name" =
          as.lookup ⟨none, "name"⟩ := rfl
      rw [ElementDecl.ofNode?, hlookup]
      cases ha : as.lookup ⟨none, "name"⟩ with
      | none => rfl
      | some name => rw [h name ha]; rfl
    rw [ofNode?_element, if_pos rfl, hname]
    rfl

/-- **Noise is passed over**, on every level. -/
theorem Noisy.ofNodes_eq (h : Noisy outer ns ns') :
    Particle.ofNodes outer ns' = Particle.ofNodes outer ns := by
  induction h with
  | nil => rfl
  | insert hn _ ih => rw [Particle.ofNodes, hn.ofNode?_eq, ih]; rfl
  | keep _ ih => rw [Particle.ofNodes, Particle.ofNodes, ih]
  | within _ _ ihc ih =>
    rw [Particle.ofNodes, Particle.ofNodes, ofNode?_group, ofNode?_group, ihc, ih]

/-! ### Content models of types -/

/-- The content model of a type is normal. -/
lemma isNormal_ofType? (h : ContentModel.ofType? n = some m) : m.IsNormal := by
  unfold ContentModel.ofType? at h
  split at h
  · cases h
    exact isNormal_ofNodes _ _
  · split at h
    · cases h
      exact isNormal_ofNodes _ _
    · cases h

lemma find?_isNamed {before after : List Xml.Node} {as : List (Name × String)} {name : Name}
    (h : ∀ x ∈ before, x.isNamed name = false) :
    (before ++ .element name as cs :: after).find? (·.isNamed name) = some (.element name as cs) := by
  have hbefore : before.find? (·.isNamed name) = none :=
    List.find?_eq_none.2 fun x hx => Bool.eq_false_iff.1 (h x hx)
  rw [List.find?_append, hbefore, Option.none_or, List.find?_cons, isNamed_element.2 rfl]

/-- A type that is written with a normal content model is read with it. -/
lemma ofType?_of_isWrittenIn (hm : m.IsNormal) (h : m.IsWrittenIn n) :
    ContentModel.ofType? n = some m := by
  obtain ⟨before, cs, after, hn, hc, hbefore, hbeside⟩ := h
  have hread : Particle.ofNodes m.kind cs = m.members := by
    rw [hc.ofNodes_eq, ofNodes_toNodes m.members m.kind hm]
  obtain ⟨kind, ps⟩ := m
  unfold ContentModel.ofType?
  rw [hn]
  cases kind with
  | sequence =>
    have hfind : (before ++ .element (xsd "sequence") [] cs :: after).find?
        (·.isNamed (xsd "sequence")) = some (.element (xsd "sequence") [] cs) := find?_isNamed hbefore
    simp only [GroupKind.word, GroupKind.attributes, hfind]
    exact congrArg (fun ps => some (⟨.sequence, ps⟩ : ContentModel)) hread
  | choice max =>
    have hkind : (⟨.choice max, ps⟩ : ContentModel).kind ≠ .sequence := by
      rintro ⟨⟩
    have hfind : (before ++ .element (xsd "choice") (GroupKind.choice max).attributes cs :: after).find?
        (·.isNamed (xsd "choice")) =
          some (.element (xsd "choice") (GroupKind.choice max).attributes cs) := find?_isNamed hbefore
    have hnone : (before ++ .element (xsd "choice") (GroupKind.choice max).attributes cs :: after).find?
        (·.isNamed (xsd "sequence")) = none := by
      refine List.find?_eq_none.2 fun x hx => Bool.eq_false_iff.1 ?_
      rcases List.mem_append.1 hx with hx | hx
      · exact hbeside hkind x (List.mem_append_left _ hx)
      · rcases List.mem_cons.1 hx with rfl | hx
        · rw [Bool.eq_false_iff, Ne, isNamed_element, xsd_inj]
          decide
        · exact hbeside hkind x (List.mem_append_right _ hx)
    have hmax : (Xml.Node.element (xsd "choice") (GroupKind.choice max).attributes cs).attribute?
        "maxOccurs" = max :=
      lookup_attributesOf (by simp) List.mem_cons_self
    simp only [GroupKind.word, hnone, hfind, hmax]
    exact congrArg (fun ps => some (⟨.choice max, ps⟩ : ContentModel)) hread

/-- **Reading content models is exact up to noise.** Whatever the nodes in a group are, only what may stand
there is read. Whatever may stand in a group is read back from what it is written as, also with text,
annotations, elements that are not of XML Schema, constructs that may not stand there and elements without a
name put in anywhere on every level. And so it is for the content models of types. -/
theorem contentModel_exact :
    (∀ outer ns, ∀ p ∈ Particle.ofNodes outer ns, p.IsNormal outer) ∧
    (∀ outer ps, (∀ p ∈ ps, p.IsNormal outer) →
      Particle.ofNodes outer (Particle.toNodes ps) = ps ∧
      ∀ ns, Noisy outer (Particle.toNodes ps) ns → Particle.ofNodes outer ns = ps) ∧
    (∀ n m, ContentModel.ofType? n = some m → m.IsNormal) ∧
    ∀ n m, m.IsNormal → m.IsWrittenIn n → ContentModel.ofType? n = some m := by
  refine ⟨fun outer ns => isNormal_ofNodes ns outer, fun outer ps hps => ?_,
    fun n m hm => isNormal_ofType? hm, fun n m hm hn => ofType?_of_isWrittenIn hm hn⟩
  have hclean := ofNodes_toNodes ps outer hps
  exact ⟨hclean, fun ns hns => hns.ofNodes_eq.trans hclean⟩

/-! ### Noise on four levels -/

instance (e : ElementDecl) : Decidable e.IsNormal :=
  decidable_of_iff (e.name ≠ "" ∧ e.typeRef ≠ some "" ∧ ∀ s ∈ e.documentation, s ≠ "" ∧ strip s = s)
    ⟨fun h => ⟨h.1, h.2.1, h.2.2⟩, fun h => ⟨h.name_ne, h.typeRef_ne, h.documentation⟩⟩

/-- An element about which everything is said, some of it with empty texts. -/
def fullElement : ElementDecl where
  name := "a"
  typeRef := some "t"
  minOccurs := some ""
  maxOccurs := some "unbounded"
  defaultValue := some ""
  fixedValue := some " "
  documentation := some "An a."

/-- A sequence of this element and a choice of a sequence of a choice without members. -/
def nestedModel : ContentModel :=
  ⟨.sequence, [.element fullElement, .group (.choice (some "")) [.element (.ofName "b"),
    .group .sequence [.group (.choice none) [], .element (.ofName "c")]]]⟩

/-- A type with this content model between a choice and another sequence, and with noise in it: text, a
sequence in a sequence, an element without a name, a choice in a choice, an element that is not of XML
Schema, and an annotation. -/
def noisyType : Xml.Node :=
  xsdNode "complexType" [] [xsdNode "choice" [] [fullElement.toNode],
    xsdNode "sequence" [] [.text ['\n'], fullElement.toNode,
      xsdNode "sequence" [] [fullElement.toNode],
      xsdNode "choice" [("maxOccurs", "")] [
        xsdNode "element" [("type", "t")] [], (ElementDecl.ofName "b").toNode,
        xsdNode "choice" [] [fullElement.toNode],
        xsdNode "sequence" [] [
          xsdNode "choice" [] [xsdNode "annotation" [] []],
          .element ⟨none, "element"⟩ [(⟨none, "name"⟩, "x")] [], (ElementDecl.ofName "c").toNode]]],
    xsdNode "sequence" [] [fullElement.toNode]]

/-- The content model is read from the type. -/
theorem contentModel_exact_nested :
    nestedModel.IsNormal ∧ nestedModel.IsWrittenIn noisyType ∧
    ContentModel.ofType? noisyType = some nestedModel := by
  have hnormal : nestedModel.IsNormal := by
    have he : ∀ {outer}, ∀ e ∈ [fullElement, .ofName "b", .ofName "c"],
        (Particle.element e).IsNormal outer := fun e he => .element (by revert e; decide +kernel)
    refine List.forall_mem_cons.2 ⟨he _ (by simp), List.forall_mem_singleton.2 (.choice ?_)⟩
    refine List.forall_mem_cons.2 ⟨he _ (by simp), List.forall_mem_singleton.2 (.sequence ?_)⟩
    exact List.forall_mem_cons.2 ⟨.choice nofun, List.forall_mem_singleton.2 (he _ (by simp))⟩
  have hwritten : nestedModel.IsWrittenIn noisyType := by
    refine ⟨[_], _, [_], rfl, ?_, List.forall_mem_singleton.2 (by decide), fun h => absurd rfl h⟩
    have hinner : Noisy .sequence (Particle.toNodes [.group (.choice none) [], .element (.ofName "c")])
        [xsdNode "choice" [] [xsdNode "annotation" [] []],
          .element ⟨none, "element"⟩ [(⟨none, "name"⟩, "x")] [], (ElementDecl.ofName "c").toNode] :=
      .within (.insert (.unsupported (by decide) (by decide) _ _) .nil)
        (.insert (.foreign (by decide) _ _) (.keep .nil))
    refine .insert (.text _) (.keep (.insert (.unsupported (by decide) (by decide) _ _)
      (.within ?_ .nil)))
    exact .insert (.nameless (by decide) _) (.keep (.insert (.unsupported (by decide) (by decide) _ _)
      (.within hinner .nil)))
  exact ⟨hnormal, hwritten, contentModel_exact.2.2.2 _ _ hnormal hwritten⟩

end ApiContract.Schema
