import ApiContract.Proofs.Convert.Rendering
import ApiContract.Proofs.Schema.Properties
import ApiContract.Proofs.Value.JsonWriting

/-!
Interface descriptions in JSON. An interface description is a value of JSON without fractions if the schema of
the error response is one (`isJson_document`): no name comes up twice in a map of it, whatever the elements,
the texts and the options are. So a file in JSON stands for the interface description that is written to it,
with all names in their order (`decoded_of_describe`).
-/

namespace ApiContract.Schema

variable {p : ℤ → Bool} {shares : Bool} {defaultType : String}

namespace Node

/-! ### Schemas -/

mutual

/-- No name comes up twice among the properties of an object, here and within. -/
def isKeyed : Node → Bool
  | primitive _ _ => true
  | object ps _ _ => decide (keys ps).Nodup && propertiesAreKeyed ps
  | array n _ => n.isKeyed
  | combinator _ ns _ => areKeyed ns

/-- No name comes up twice within properties. -/
def propertiesAreKeyed : List (String × Node) → Bool
  | [] => true
  | (_, n) :: ps => n.isKeyed && propertiesAreKeyed ps

/-- No name comes up twice within schemas. -/
def areKeyed : List Node → Bool
  | [] => true
  | n :: ns => n.isKeyed && areKeyed ns

end

lemma propertiesAreKeyed_iff {ps : List (String × Node)} :
    propertiesAreKeyed ps = true ↔ ∀ q ∈ ps, q.2.isKeyed = true := by
  induction ps with
  | nil => exact iff_of_true rfl nofun
  | cons q ps ih => rw [propertiesAreKeyed, Bool.and_eq_true, ih, List.forall_mem_cons]

lemma isKeyed_ofField {e : ElementDecl} {n : Node} (h : n.isKeyed = true) :
    (ofField e n).isKeyed = true := by
  have hfacets : ∀ m : Node, (m.withFacets (.ofElement e)).isKeyed = m.isKeyed := by
    intro m
    cases m <;> rfl
  rw [ofField, hfacets]
  split
  · exact h
  · exact h

lemma isKeyed_ofFields {fields : List (ElementDecl × Node)} (h : ∀ f ∈ fields, f.2.isKeyed = true) :
    (ofFields fields).isKeyed = true := by
  have hps := properties_ofFields fields
  have hobject : ofFields fields =
      object (ofFields fields).properties (ofFields fields).required .none := rfl
  rw [hobject, isKeyed, Bool.and_eq_true, decide_eq_true_iff, hps]
  refine ⟨nodup_keys_fieldsOf _, propertiesAreKeyed_iff.2 fun q hq => ?_⟩
  obtain ⟨f, hf, rfl⟩ := List.mem_map.1 (mem_of_mem_fieldsOf hq)
  exact isKeyed_ofField (h f hf)

mutual

/-- **No name comes up twice in an object of the schema of an expansion.** -/
theorem isKeyed_ofExpansion : (x : Expansion) → (ofExpansion defaultType x).isKeyed = true
  | .primitive _ | .fallback _ | .cut _ => rfl
  | .object fields => by
    rw [ofExpansion]
    exact isKeyed_ofFields (isKeyed_ofExpandedFields fields)
  | .choice unbounded branches => by
    rw [ofExpansion, isKeyed]
    exact areKeyed_ofBranches branches

theorem isKeyed_ofExpandedFields : (fields : List (ElementDecl × Expansion)) →
    ∀ f ∈ ofExpandedFields defaultType fields, f.2.isKeyed = true
  | [] => nofun
  | (_, x) :: fields => List.forall_mem_cons.2
    ⟨isKeyed_ofExpansion x, isKeyed_ofExpandedFields fields⟩

theorem areKeyed_ofBranches : (bs : List (List (ElementDecl × Expansion))) →
    areKeyed (ofBranches defaultType bs) = true
  | [] => rfl
  | b :: bs => Bool.and_eq_true_iff.2
    ⟨isKeyed_ofFields (isKeyed_ofExpandedFields b), areKeyed_ofBranches bs⟩

end

/-! ### Schemas as values -/

lemma keys_facetFields_sublist (f : Facets) :
    (keys (facetFields f)).Sublist ["default", "fixed", "description"] := by
  rw [facetFields, keys_append, keys_append]
  exact ((keys_toList_map_sublist "default" _ _).append (keys_toList_map_sublist "fixed" _ _)).append
    (keys_toList_map_sublist "description" _ _)

lemma isJson_facetFields (f : Facets) : ∀ q ∈ facetFields f, q.2.isJson p shares = true := by
  unfold facetFields
  simp only [List.forall_mem_append]
  exact ⟨⟨forall_mem_toList_map fun _ _ => rfl, forall_mem_toList_map fun _ _ => rfl⟩,
    forall_mem_toList_map fun _ _ => rfl⟩

lemma keys_propertyValues (ps : List (String × Node)) : keys (propertyValues ps) = keys ps := by
  induction ps with
  | nil => rfl
  | cons q ps ih => rw [propertyValues, keys_cons, keys_cons, ih]

mutual

/-- **A schema in which no name comes up twice is a value of JSON.** -/
theorem isJson_toValue : (n : Node) → n.isKeyed = true → n.toValue.isJson p shares = true
  | primitive t f, _ => by
    simp only [toValue]
    refine Value.isJson_map ?_ (List.forall_mem_cons.2 ⟨rfl, isJson_facetFields f⟩)
    exact ((keys_facetFields_sublist f).cons_cons "type").nodup (by decide)
  | object ps r f, h => by
    obtain ⟨hkeys, hps⟩ := Bool.and_eq_true_iff.1 h
    have hrequired : ∀ q ∈ (r.map fun names => ("required", Value.list (names.map .str))).toList,
        q.2.isJson p shares = true := by
      refine forall_mem_toList_map fun names _ => Value.isJson_list fun v hv => ?_
      obtain ⟨s, -, rfl⟩ := List.mem_map.1 hv
      rfl
    have hproperties : (Value.map (propertyValues ps)).isJson p shares = true :=
      Value.isJson_map (keys_propertyValues ps ▸ of_decide_eq_true hkeys) (isJson_propertyValues ps hps)
    simp only [toValue]
    refine Value.isJson_map ?_ (List.forall_mem_cons.2 ⟨rfl, List.forall_mem_cons.2 ⟨hproperties,
      List.forall_mem_append.2 ⟨hrequired, isJson_facetFields f⟩⟩⟩)
    rw [keys_cons, keys_cons, keys_append]
    exact ((((keys_toList_map_sublist "required" _ r).append (keys_facetFields_sublist f)).cons_cons
      "properties").cons_cons "type").nodup (by decide)
  | array n f, h => by
    simp only [toValue]
    refine Value.isJson_map ?_ (List.forall_mem_cons.2 ⟨rfl, List.forall_mem_cons.2
      ⟨isJson_toValue n h, isJson_facetFields f⟩⟩)
    exact (((keys_facetFields_sublist f).cons_cons "items").cons_cons "type").nodup (by decide)
  | combinator k ns f, h => by
    simp only [toValue]
    refine Value.isJson_map ?_ (List.forall_mem_cons.2
      ⟨Value.isJson_list (isJson_toValues ns h), isJson_facetFields f⟩)
    have hnames : (k.text :: ["default", "fixed", "description"]).Nodup := by cases k <;> decide
    exact ((keys_facetFields_sublist f).cons_cons k.text).nodup hnames

theorem isJson_propertyValues : (ps : List (String × Node)) → propertiesAreKeyed ps = true →
    ∀ q ∈ propertyValues ps, q.2.isJson p shares = true
  | [], _ => nofun
  | (_, n) :: ps, h => by
    obtain ⟨hn, hps⟩ := Bool.and_eq_true_iff.1 h
    exact List.forall_mem_cons.2 ⟨isJson_toValue n hn, isJson_propertyValues ps hps⟩

theorem isJson_toValues : (ns : List Node) → areKeyed ns = true →
    ∀ v ∈ toValues ns, v.isJson p shares = true
  | [], _ => nofun
  | n :: ns, h => by
    obtain ⟨hn, hns⟩ := Bool.and_eq_true_iff.1 h
    exact List.forall_mem_cons.2 ⟨isJson_toValue n hn, isJson_toValues ns hns⟩

end

end Node

end ApiContract.Schema

namespace ApiContract.Contract

open ApiContract.Schema

variable {p : ℤ → Bool} {shares : Bool} {imports : Imports} {d : Document} {o : Options}
  {errorSchema : Option Value} {v : Value}

/-! ### Operations -/

lemma isJson_singleton {k : String} (h : v.isJson p shares = true) :
    (Value.map [(k, v)]).isJson p shares = true :=
  Value.isJson_map (List.nodup_singleton k) (List.forall_mem_singleton.2 h)

lemma isJson_body (contentType : String) (h : v.isJson p shares = true) :
    (body contentType v).isJson p shares = true :=
  isJson_singleton (isJson_singleton h)

lemma isJson_elementValue (e : ElementDecl) : (elementValue imports d o e).isJson p shares = true :=
  Node.isJson_toValue _ (Node.isKeyed_ofExpansion _)

lemma isJson_requestBody (e : ElementDecl) : (requestBody imports d o e).isJson p shares = true := by
  unfold requestBody
  exact Value.isJson_map (show ["required", "content"].Nodup by decide) (List.forall_mem_cons.2 ⟨rfl,
    List.forall_mem_singleton.2 (isJson_body _ (isJson_elementValue e))⟩)

lemma isJson_response (description : String) (h : v.isJson p shares = true) :
    (Value.map [("description", .str description), ("content", body o.contentType v)]).isJson p shares =
      true :=
  Value.isJson_map (show ["description", "content"].Nodup by decide)
    (List.forall_mem_cons.2 ⟨rfl, List.forall_mem_singleton.2 (isJson_body _ h)⟩)

lemma isJson_responses (g : Group ElementDecl) (h : ∀ v ∈ errorSchema, v.isJson p shares = true) :
    (Value.map (responses imports d o g errorSchema)).isJson p shares = true := by
  have hok : ∀ q ∈ (g.response.map fun e => (successStatus, successResponse imports d o e)).toList,
      q.2.isJson p shares = true :=
    forall_mem_toList_map fun e _ => isJson_response "OK" (isJson_elementValue e)
  have hkeys : (keys (g.response.map fun e => (successStatus, successResponse imports d o e)).toList).Nodup :=
    (keys_toList_map_sublist successStatus _ _).nodup (List.nodup_singleton _)
  unfold responses
  split
  · rename_i s e _
    refine Value.isJson_map (nodup_keys_putField hkeys) fun q hq => ?_
    rcases mem_putField hq with rfl | hq
    · exact isJson_response e.description (h s rfl)
    · exact hok q hq
  · exact Value.isJson_map hkeys hok

lemma isJson_operation (path : String) (g : Group ElementDecl)
    (h : ∀ v ∈ errorSchema, v.isJson p shares = true) :
    (operation imports d o path g errorSchema).isJson p shares = true := by
  refine Value.isJson_map ?_ ?_
  · simp only [keys_append]
    have hkeys := (((List.Sublist.refl ["operationId", "summary"]).append
      (keys_toList_map_sublist "description" Value.str (description? g))).append
      (keys_toList_map_sublist "requestBody" (requestBody imports d o) g.request)).append
      (List.Sublist.refl ["responses"])
    exact hkeys.nodup (by decide)
  · simp only [List.forall_mem_append]
    exact ⟨⟨⟨List.forall_mem_cons.2 ⟨rfl, List.forall_mem_singleton.2 rfl⟩,
      forall_mem_toList_map fun _ _ => rfl⟩, forall_mem_toList_map fun e _ => isJson_requestBody e⟩,
      List.forall_mem_singleton.2 (isJson_responses g h)⟩

/-- **An interface description is a value of JSON if the schema of the error response is one.** -/
theorem isJson_document (imports : Imports) (d : Document) (schemaName : String) (o : Options)
    (h : ∀ v ∈ errorSchema, v.isJson p shares = true) :
    (document imports d schemaName o errorSchema).isJson p shares = true := by
  have hpaths : (Value.map (paths imports d schemaName o errorSchema)).isJson p shares = true := by
    refine Value.isJson_map (nodup_keys_fieldsOf _) fun q hq => ?_
    obtain ⟨⟨g, i⟩, -, rfl⟩ := List.mem_map.1 (mem_of_mem_fieldsOf hq)
    refine isJson_singleton (isJson_operation _ g fun v hv => ?_)
    obtain ⟨v', hv', rfl⟩ := Option.map_eq_some_iff.1 hv
    rw [Value.isJson_copied]
    exact h v' hv'
  exact Value.isJson_map (show ["openapi", "info", "paths"].Nodup by decide) (List.forall_mem_cons.2 ⟨rfl,
    List.forall_mem_cons.2 ⟨rfl, List.forall_mem_singleton.2 hpaths⟩⟩)

end ApiContract.Contract

namespace ApiContract.Convert

open ApiContract.Contract ApiContract.Files ApiContract.Json ApiContract.Number ApiContract.Schema

variable {t : Tree} {d : Schema.Document} {schemaName : String} {rootFile : Option String} {o : Options}
  {errorSchema : Option Value} {document : Value} {path : Path}

/-! ### Files -/

lemma isJson_of_describe {p : ℤ → Bool} {shares : Bool}
    (hd : (describe t d schemaName rootFile o errorSchema).result = .ok document)
    (h : ∀ v ∈ errorSchema, v.isJson p shares = true) : document.isJson p shares = true := by
  rw [describe_result] at hd
  obtain ⟨imports, -, rfl⟩ := map_eq_ok_iff.1 hd
  exact isJson_document imports d schemaName o h

/-- What a value of JSON is rendered to in JSON stands for the value, and is read as it. -/
lemma isText_of_render {p : ℤ → Bool} {shares : Bool} {text : String}
    (h : document.isJson p shares = true) (hpath : isYaml path = false)
    (ht : render path document = .ok text) : IsText document.erased text := by
  rw [render, hpath, if_neg Bool.false_ne_true] at ht
  obtain ⟨cs, hcs, rfl⟩ := map_eq_ok_iff.1 ht
  have htext : IsText document.erased (String.ofList ([] ++ (cs ++ []))) :=
    .mk rfl (spells_write (some 0) document h cs hcs) rfl
  rwa [List.nil_append, List.append_nil] at htext

/-- Only a number that is too long keeps a value of JSON from being rendered in JSON. -/
lemma isTooLong_of_render {p : ℤ → Bool} {shares : Bool} {e : Json.Obstacle}
    (h : document.isJson p shares = true) (hpath : isYaml path = false)
    (he : render path document = .error e) : IsTooLong p e := by
  rw [render, hpath, if_neg Bool.false_ne_true] at he
  exact (failsOnly_of_isJson document h).whole _ e (map_eq_error_iff.1 he)

/-- **A file in JSON stands for the interface description that is written to it.** The schema of the error
response, if there is one, is a value of JSON without fractions. Then a file whose name is not one of a file in
YAML gets a text, unless the schema of the error response has a whole number that is too long; by the grammar
of JSON this text stands for the interface description, with all names in their order, and for no other value;
and it is read as this value. Only which parts of it were the same thing is lost, if there are any. -/
theorem decoded_of_describe
    (hd : (describe t d schemaName rootFile o errorSchema).result = .ok document)
    (herror : ∀ v ∈ errorSchema, v.isJson (fun _ => true) true = true) (hpath : isYaml path = false) :
    ((∃ text, render path document = .ok text) ∨
      render path document = .error .longInt ∧
        ∃ v ∈ errorSchema, v.isJson (fun n => !isLong n) true = false) ∧
    (∀ text, render path document = .ok text →
      (∀ v, IsText v text ↔ v = document.erased) ∧ Json.parse? text = some document.erased) ∧
    ((∀ v ∈ errorSchema, v.isJson (fun _ => true) false = true) → document.erased = document) := by
  have hjson := isJson_of_describe hd herror
  refine ⟨?_, fun text ht => ?_, fun h => Value.erased_of_isJson document (isJson_of_describe hd h)⟩
  · cases ht : render path document with
    | ok text => exact .inl ⟨text, rfl⟩
    | error e =>
      refine .inr ⟨by rw [(isTooLong_of_render hjson hpath ht).1], ?_⟩
      by_contra hshort
      have hall : ∀ v ∈ errorSchema, v.isJson (fun n => !isLong n) true = true := fun v hv =>
        Bool.not_eq_false _ ▸ fun h => hshort ⟨v, hv, h⟩
      obtain ⟨-, n, hn, hlong⟩ := isTooLong_of_render (isJson_of_describe hd hall) hpath ht
      have hn : (!isLong n) = true := hn
      rw [hlong] at hn
      cases hn
  · have htext := isText_of_render hjson hpath ht
    exact ⟨fun v => ⟨fun h => h.unique htext, fun h => h ▸ htext⟩, parse?_of_isText htext⟩

/-- A schema with a quote, a control and a character beyond sixteen bits in a name, with a list and a map that
are empty, and with a part that is in two places. -/
def escapedSchema : Value :=
  .map [("\x07\"\\😀", .shared ⟨1, 0, 0⟩ (.list [.int (-12), .null, .list [], .map []])),
    ("é/\u2028", .shared ⟨1, 0, 0⟩ (.list [.int (-12), .null, .list [], .map []]))]

/-- Its whole numbers are not too long. -/
lemma isJson_escapedSchema : ∀ v ∈ some escapedSchema, v.isJson (fun n => !isLong n) true = true := by
  rintro _ ⟨⟩
  decide +kernel

/-- A document with a request whose name has a quote and a line break. -/
def escapedDocument : Schema.Document := ⟨none, [], [], [.ofName "\"\nReq"], [], none⟩

/-- Options with an error response, whose status is the one of a response without errors. -/
def escapedOptions : Options :=
  ⟨"Req", "Res", true, .get, "a\\b", "string", some ⟨.schema escapedSchema, none, "200", "no\t"⟩⟩

/-- The description of this document has a text, which is read as the description. -/
theorem decoded_of_describe_escaped : ∃ document text,
    (describe ⟨["w"], []⟩ escapedDocument "n" none escapedOptions (some escapedSchema)).result =
      .ok document ∧
    (∀ v ∈ some escapedSchema, v.isJson (fun _ => true) true = true) ∧
    isYaml (Path.ofText "d.json") = false ∧ render (Path.ofText "d.json") document = .ok text ∧
    (∀ v, IsText v text ↔ v = document.erased) ∧ Json.parse? text = some document.erased := by
  have hi : resolveImports ⟨["w"], []⟩ escapedDocument.imports none escapedDocument.importLabels =
      .ok [] := rfl
  have hd : (describe ⟨["w"], []⟩ escapedDocument "n" none escapedOptions (some escapedSchema)).result =
      .ok _ :=
    describe_result_of_ok hi (some escapedSchema)
  have hjson : ∀ v ∈ some escapedSchema, v.isJson (fun _ => true) true = true := by
    rintro _ ⟨⟩
    decide
  have hpath : isYaml (Path.ofText "d.json") = false := by decide +kernel
  obtain ⟨⟨text, ht⟩ | ⟨-, v, hv, hlong⟩, hread, -⟩ := decoded_of_describe hd hjson hpath
  · exact ⟨_, text, hd, hjson, hpath, ht, hread text ht⟩
  · rw [isJson_escapedSchema v hv] at hlong
    cases hlong

end ApiContract.Convert
