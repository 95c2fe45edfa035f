import ApiContract.Proofs.Schema.Shape
import ApiContract.Proofs.Schema.Simulation
import Mathlib.Data.List.Forall2

/-!
How far the default type reaches. It comes into a schema only as the type of leaves, so replacing types of
leaves goes through all that a schema is made with (`mapTypes_ofFields`), and two schemas that are made
with two default types differ in nothing but the leaves that have these types
(`differsInDefault_ofExpansion`). A default type that is no primitive type can be told from all other types
of leaves, so the schema for one more default type is had from that one by replacing
(`schemas_of_defaultType`).
-/

namespace ApiContract.Schema

variable {s t t' defaultType : String} {f g : String → String}

namespace Node

/-! ### Types of leaves -/

mutual

/-- The schema with other types of leaves. -/
def mapTypes (f : String → String) : Node → Node
  | primitive t facets => primitive (f t) facets
  | object ps required facets => object (mapPropertyTypes f ps) required facets
  | array n facets => array (n.mapTypes f) facets
  | combinator kind ns facets => combinator kind (mapAllTypes f ns) facets

/-- The properties with other types of leaves. -/
def mapPropertyTypes (f : String → String) : List (String × Node) → List (String × Node)
  | [] => []
  | (k, n) :: ps => (k, n.mapTypes f) :: mapPropertyTypes f ps

/-- The schemas with other types of leaves. -/
def mapAllTypes (f : String → String) : List Node → List Node
  | [] => []
  | n :: ns => n.mapTypes f :: mapAllTypes f ns

end

mutual

/-- The types of all leaves, from left to right. -/
def leafTypes : Node → List String
  | primitive t _ => [t]
  | object ps _ _ => propertyLeafTypes ps
  | array n _ => n.leafTypes
  | combinator _ ns _ => allLeafTypes ns

/-- The types of all leaves of properties. -/
def propertyLeafTypes : List (String × Node) → List String
  | [] => []
  | (_, n) :: ps => n.leafTypes ++ propertyLeafTypes ps

/-- The types of all leaves of schemas. -/
def allLeafTypes : List Node → List String
  | [] => []
  | n :: ns => n.leafTypes ++ allLeafTypes ns

end

/-- The schema with a type of leaves replaced by another one. -/
def replaceType (t t' : String) (n : Node) : Node := n.mapTypes fun s => if s = t then t' else s

/-- What is left of a schema without the types of its leaves: the structure, the required names and the
facets. -/
def outline (n : Node) : Node := n.mapTypes fun _ => ""

/-- **The schemas differ in nothing but the default type.** They have the same outline, and each leaf has the
same primitive type in both or the default type in both. -/
structure DiffersInDefault (t t' : String) (n n' : Node) : Prop where
  outline_eq : n.outline = n'.outline
  leafTypes : List.Forall₂ (fun s s' => (∃ p : Primitive, s = p.text ∧ s' = p.text) ∨ s = t ∧ s' = t')
    n.leafTypes n'.leafTypes

mutual

/-- Of two replacements one after the other only the composite counts. -/
lemma mapTypes_mapTypes (f g : String → String) : (n : Node) →
    (n.mapTypes f).mapTypes g = n.mapTypes (g ∘ f)
  | primitive _ _ => rfl
  | object ps r facets => by
    simp only [mapTypes, mapPropertyTypes_mapPropertyTypes f g ps]
  | array n facets => by
    simp only [mapTypes, mapTypes_mapTypes f g n]
  | combinator kind ns facets => by
    simp only [mapTypes, mapAllTypes_mapAllTypes f g ns]

lemma mapPropertyTypes_mapPropertyTypes (f g : String → String) : (ps : List (String × Node)) →
    mapPropertyTypes g (mapPropertyTypes f ps) = mapPropertyTypes (g ∘ f) ps
  | [] => rfl
  | (_, n) :: ps => by
    simp only [mapPropertyTypes, mapTypes_mapTypes f g n, mapPropertyTypes_mapPropertyTypes f g ps]

lemma mapAllTypes_mapAllTypes (f g : String → String) : (ns : List Node) →
    mapAllTypes g (mapAllTypes f ns) = mapAllTypes (g ∘ f) ns
  | [] => rfl
  | n :: ns => by
    simp only [mapAllTypes, mapTypes_mapTypes f g n, mapAllTypes_mapAllTypes f g ns]

end

mutual

/-- Replacing types of leaves replaces each of them in its place. -/
lemma leafTypes_mapTypes (f : String → String) : (n : Node) →
    (n.mapTypes f).leafTypes = n.leafTypes.map f
  | primitive _ _ => rfl
  | object ps r facets => by
    simp only [mapTypes, leafTypes, propertyLeafTypes_mapPropertyTypes f ps]
  | array n facets => by
    simp only [mapTypes, leafTypes, leafTypes_mapTypes f n]
  | combinator kind ns facets => by
    simp only [mapTypes, leafTypes, allLeafTypes_mapAllTypes f ns]

lemma propertyLeafTypes_mapPropertyTypes (f : String → String) : (ps : List (String × Node)) →
    propertyLeafTypes (mapPropertyTypes f ps) = (propertyLeafTypes ps).map f
  | [] => rfl
  | (_, n) :: ps => by
    simp only [mapPropertyTypes, propertyLeafTypes, List.map_append, leafTypes_mapTypes f n,
      propertyLeafTypes_mapPropertyTypes f ps]

lemma allLeafTypes_mapAllTypes (f : String → String) : (ns : List Node) →
    allLeafTypes (mapAllTypes f ns) = (allLeafTypes ns).map f
  | [] => rfl
  | n :: ns => by
    simp only [mapAllTypes, allLeafTypes, List.map_append, leafTypes_mapTypes f n,
      allLeafTypes_mapAllTypes f ns]

end

lemma outline_mapTypes (n : Node) : (n.mapTypes f).outline = n.outline := by
  rw [outline, mapTypes_mapTypes]
  rfl

lemma propertyLeafTypes_eq_flatMap (ps : List (String × Node)) :
    propertyLeafTypes ps = ps.flatMap fun p => p.2.leafTypes := by
  induction ps with
  | nil => rfl
  | cons p ps ih => obtain ⟨k, n⟩ := p; rw [propertyLeafTypes, ih]; rfl

lemma allLeafTypes_eq_flatMap (ns : List Node) : allLeafTypes ns = ns.flatMap leafTypes := by
  induction ns with
  | nil => rfl
  | cons n ns ih => rw [allLeafTypes, ih]; rfl

/-- In a schema that keeps to the grammar every leaf has a primitive type or the default type. -/
lemma Fits.mem_primitiveNames {p : Position} {n : Node} (h : Fits defaultType p n) :
    ∀ s ∈ n.leafTypes, s ∈ primitiveNames defaultType := by
  induction h with
  | primitive _ _ ht =>
    intro s hs
    rwa [List.mem_singleton.1 hs]
  | object _ _ ih =>
    intro s hs
    rw [leafTypes, propertyLeafTypes_eq_flatMap] at hs
    obtain ⟨⟨k, m⟩, hm, hs⟩ := List.mem_flatMap.1 hs
    exact ih k m hm s hs
  | array _ ih => exact ih
  | combinator _ _ _ ih =>
    intro s hs
    rw [leafTypes, allLeafTypes_eq_flatMap] at hs
    obtain ⟨m, hm, hs⟩ := List.mem_flatMap.1 hs
    exact ih m hm s hs

/-! ### What schemas are made with -/

lemma mapTypes_withFacets (facets : Facets) (n : Node) :
    (n.withFacets facets).mapTypes f = (n.mapTypes f).withFacets facets := by
  cases n <;> rfl

lemma mapTypes_ofField (e : ElementDecl) (n : Node) :
    (ofField e n).mapTypes f = ofField e (n.mapTypes f) := by
  unfold ofField
  rw [mapTypes_withFacets]
  split <;> rfl

lemma isArray_mapTypes (n : Node) : (n.mapTypes f).isArray = n.isArray := by
  cases n <;> rfl

lemma mapPropertyTypes_putField (k : String) (n : Node) (ps : List (String × Node)) :
    mapPropertyTypes f (putField k n ps) = putField k (n.mapTypes f) (mapPropertyTypes f ps) := by
  induction ps with
  | nil => rfl
  | cons p ps ih =>
    obtain ⟨j, m⟩ := p
    simp only [putField, mapPropertyTypes]
    split
    · rfl
    · rw [mapPropertyTypes, ih]

/-- The object that is being put together, with other types of leaves. -/
def Shape.mapTypes (f : String → String) (s : Shape) : Shape :=
  ⟨mapPropertyTypes f s.properties, s.required⟩

/-- One more field comes to an object with other types of leaves as it came before. -/
lemma Shape.mapTypes_add (s : Shape) (field : ElementDecl × Node) :
    (s.add field).mapTypes f = (s.mapTypes f).add (field.1, field.2.mapTypes f) := by
  simp only [Shape.add, Shape.mapTypes, addRequired, mapPropertyTypes_putField, ← mapTypes_ofField,
    isArray_mapTypes]

lemma Shape.mapTypes_foldl_add (fields : List (ElementDecl × Node)) (s : Shape) :
    (fields.foldl Shape.add s).mapTypes f =
      (fields.map fun p => (p.1, p.2.mapTypes f)).foldl Shape.add (s.mapTypes f) := by
  induction fields generalizing s with
  | nil => rfl
  | cons field fields ih => rw [List.foldl_cons, ih, Shape.mapTypes_add]; rfl

/-- The object of fields, with other types of leaves, is the object of the fields with other types of
leaves. -/
theorem mapTypes_ofFields (fields : List (ElementDecl × Node)) :
    (ofFields fields).mapTypes f = ofFields (fields.map fun p => (p.1, p.2.mapTypes f)) := by
  have h := Shape.mapTypes_foldl_add (f := f) fields ⟨[], .none⟩
  simp only [Shape.mapTypes, mapPropertyTypes] at h
  simp only [ofFields, mapTypes, ← h]

mutual

/-- **Where the default type comes in.** A replacement that leaves the primitive types as they are and takes
one default type to another one takes the schema of an expansion for the one to that for the other. -/
theorem mapTypes_ofExpansion (hp : ∀ p : Primitive, f p.text = p.text) (ht : f t = t') :
    (x : Expansion) → (ofExpansion t x).mapTypes f = ofExpansion t' x
  | .primitive p => by simp only [ofExpansion, mapTypes, hp]
  | .fallback _ => by simp only [ofExpansion, mapTypes, ht]
  | .cut _ => rfl
  | .object fields => by
    simp only [ofExpansion, mapTypes_ofFields, map_ofExpandedFields hp ht fields]
  | .choice _ branches => by
    simp only [ofExpansion, mapTypes, mapAllTypes_ofBranches hp ht branches]

lemma map_ofExpandedFields (hp : ∀ p : Primitive, f p.text = p.text) (ht : f t = t') :
    (fields : List (ElementDecl × Expansion)) →
    (ofExpandedFields t fields).map (fun p => (p.1, p.2.mapTypes f)) = ofExpandedFields t' fields
  | [] => rfl
  | (_, x) :: fields => by
    simp only [ofExpandedFields, List.map_cons, mapTypes_ofExpansion hp ht x,
      map_ofExpandedFields hp ht fields]

lemma mapAllTypes_ofBranches (hp : ∀ p : Primitive, f p.text = p.text) (ht : f t = t') :
    (branches : List (List (ElementDecl × Expansion))) →
    mapAllTypes f (ofBranches t branches) = ofBranches t' branches
  | [] => rfl
  | b :: bs => by
    simp only [ofBranches, mapAllTypes, mapTypes_ofFields, map_ofExpandedFields hp ht b,
      mapAllTypes_ofBranches hp ht bs]

end

/-- A default type that is no primitive type is replaced by another default type. -/
theorem replaceType_ofExpansion (h : ∀ p : Primitive, p.text ≠ t) (t' : String) (x : Expansion) :
    (ofExpansion t x).replaceType t t' = ofExpansion t' x := by
  have hp : ∀ p : Primitive, (if p.text = t then t' else p.text) = p.text := fun p => if_neg (h p)
  exact mapTypes_ofExpansion (f := fun s => if s = t then t' else s) hp (if_pos rfl) x

/-- **The schemas of an expansion for two default types differ in nothing else.** -/
theorem differsInDefault_ofExpansion (t t' : String) (x : Expansion) :
    DiffersInDefault t t' (ofExpansion t x) (ofExpansion t' x) := by
  -- both come from the schema for a default type that cannot be mistaken for a primitive type
  have hne : ∀ p : Primitive, p.text ≠ "" := fun p => by cases p <;> decide
  have hleaf : ∀ s ∈ (ofExpansion "" x).leafTypes, (∃ p : Primitive, s = p.text) ∨ s = "" := by
    intro s hs
    have hs := (fits_ofExpansion (p := .root) (by decide) x).mem_primitiveNames s hs
    simp only [primitiveNames, List.mem_cons, List.not_mem_nil, or_false] at hs
    rcases hs with rfl | rfl | rfl | rfl | rfl
    · exact .inl ⟨.string, rfl⟩
    · exact .inl ⟨.number, rfl⟩
    · exact .inl ⟨.integer, rfl⟩
    · exact .inl ⟨.boolean, rfl⟩
    · exact .inr rfl
  rw [← replaceType_ofExpansion hne t x, ← replaceType_ofExpansion hne t' x]
  refine ⟨?_, ?_⟩
  · rw [replaceType, replaceType, outline_mapTypes, outline_mapTypes]
  · rw [replaceType, replaceType, leafTypes_mapTypes, leafTypes_mapTypes, List.forall₂_map_left_iff,
      List.forall₂_map_right_iff, List.forall₂_same]
    intro s hs
    rcases hleaf s hs with ⟨p, rfl⟩ | rfl
    · exact .inl ⟨p, if_neg (hne p), if_neg (hne p)⟩
    · exact .inr ⟨if_pos rfl, if_pos rfl⟩

end Node

/-! ### The schemas of types and elements -/

/-- **The default type reaches only leaves that stand for it.** The schema of a type for any default type is
the one for a default type that is no primitive type, with this type replaced in every leaf that has it, and
so is the schema of the type of an element. Whatever two default types are, the two schemas have the same
structure, required names and facets, and a leaf either has the same primitive type in both or the default
type in both. -/
theorem schemas_of_defaultType (imports : Imports) (d : Document) (chain : List String) (name : String)
    (e : ElementDecl) :
    (∀ t t', (∀ p : Primitive, p.text ≠ t) →
      typeSchema imports d chain t' name = (typeSchema imports d chain t name).replaceType t t' ∧
      elementSchema imports d chain t' e = (elementSchema imports d chain t e).replaceType t t') ∧
    ∀ t t',
      (typeSchema imports d chain t name).DiffersInDefault t t' (typeSchema imports d chain t' name) ∧
      (elementSchema imports d chain t e).DiffersInDefault t t' (elementSchema imports d chain t' e) :=
  ⟨fun _ t' h => ⟨(Node.replaceType_ofExpansion h t' _).symm, (Node.replaceType_ofExpansion h t' _).symm⟩,
    fun t t' => ⟨Node.differsInDefault_ofExpansion t t' _, Node.differsInDefault_ofExpansion t t' _⟩⟩

/-! ### The five ways to a default type -/

/-- A document with a choice of an element without a type and one of a type of XML Schema that stands for no
primitive type. -/
def fallbackBranches : Document :=
  .ofTypes [⟨"u", some ⟨.choice none, [.element (.ofName "a"),
    .element { ElementDecl.ofName "b" with typeRef := some "xs:token" }]⟩⟩]

/-- A document where the elements of `t` lead to the other one under the label `p`, to a label without a
document, to a type that is not declared, to a type without content, and to two primitive types. -/
def fallbackFields : Document :=
  .ofTypes [⟨"t", some ⟨.sequence, [
    .element { ElementDecl.ofName "c" with typeRef := some "p:u", maxOccurs := some "2" },
    .element { ElementDecl.ofName "d" with typeRef := some "q:v" },
    .element { ElementDecl.ofName "e" with typeRef := some "w", defaultValue := some "0" },
    .element { ElementDecl.ofName "f" with typeRef := some "s" },
    .element { ElementDecl.ofName "g" with typeRef := some "xs:integer" },
    .element { ElementDecl.ofName "h" with typeRef := some "xs:date" }]⟩⟩, ⟨"s", none⟩]

/-- Of the seven leaves five have the default type, and for `integer` these are not told from the sixth. -/
theorem schemas_of_defaultType_fallbacks :
    let schema := fun t => typeSchema [("p", fallbackBranches)] fallbackFields [] t "t"
    (∀ p : Primitive, p.text ≠ "any") ∧
    (schema "any").leafTypes = ["any", "any", "any", "any", "any", "integer", "string"] ∧
    schema "integer" = (schema "any").replaceType "any" "integer" ∧
    (schema "integer").leafTypes =
      ["integer", "integer", "integer", "integer", "integer", "integer", "string"] := by
  intro schema
  have hne : ∀ p : Primitive, p.text ≠ "any" := fun p => by cases p <;> decide
  have hreplace : schema "integer" = (schema "any").replaceType "any" "integer" :=
    ((schemas_of_defaultType _ _ _ _ (.ofName "x")).1 "any" "integer" hne).1
  have hleaf : (schema "any").leafTypes = ["any", "any", "any", "any", "any", "integer", "string"] := by
    show (typeSchema [("p", fallbackBranches)] fallbackFields [] "any" "t").leafTypes = _
    rw [typeSchema_of_sequence (by decide) rfl]
    decide +kernel
  refine ⟨hne, hleaf, hreplace, ?_⟩
  rw [hreplace, Node.replaceType, Node.leafTypes_mapTypes, hleaf]
  decide

end ApiContract.Schema
