import ApiContract.Proofs.Convert.Decoding
import ApiContract.Proofs.Yaml.RoundTrip

/-!
Interface descriptions in YAML. A file in YAML is read as the interface description that is written to it just
if all texts in it are read back, where they stand and in the way in which they are written
(`decoded_of_describe_yaml`).
-/

namespace ApiContract.Contract

open ApiContract.Schema

variable {f : Identity → Value} {imports : Imports} {d : Document} {o : Options} {errorSchema : Option Value}
  {v : Value}

/-! ### Things in an interface description -/

lemma follows_map {fs : List (String × Value)} (h : ∀ q ∈ fs, q.2.Follows f) : (Value.map fs).Follows f :=
  Value.fieldsFollow_iff.2 h

lemma follows_singleton {k : String} (h : v.Follows f) : (Value.map [(k, v)]).Follows f :=
  follows_map (List.forall_mem_singleton.2 h)

lemma follows_response (description : String) (h : v.Follows f) :
    (Value.map [("description", .str description), ("content", body o.contentType v)]).Follows f :=
  follows_map (List.forall_mem_cons.2
    ⟨trivial, List.forall_mem_singleton.2 (follows_singleton (follows_singleton h))⟩)

lemma follows_elementValue (e : ElementDecl) : (elementValue imports d o e).Follows f :=
  Value.follows_of_isJson _ (isJson_elementValue (p := fun _ => true) e)

lemma follows_responses (g : Group ElementDecl) (h : ∀ v ∈ errorSchema, v.Follows f) :
    (Value.map (responses imports d o g errorSchema)).Follows f := by
  have hok : ∀ q ∈ (g.response.map fun e => (successStatus, successResponse imports d o e)).toList,
      q.2.Follows f :=
    forall_mem_toList_map fun e _ => follows_response "OK" (follows_elementValue e)
  unfold responses
  split
  · rename_i s e _
    refine follows_map fun q hq => ?_
    rcases mem_putField hq with rfl | hq
    · exact follows_response e.description (h s rfl)
    · exact hok q hq
  · exact follows_map hok

lemma follows_operation (path : String) (g : Group ElementDecl) (h : ∀ v ∈ errorSchema, v.Follows f) :
    (operation imports d o path g errorSchema).Follows f := by
  refine follows_map ?_
  simp only [List.forall_mem_append]
  exact ⟨⟨⟨List.forall_mem_cons.2 ⟨trivial, List.forall_mem_singleton.2 trivial⟩,
    forall_mem_toList_map fun _ _ => trivial⟩,
    forall_mem_toList_map fun e _ => Value.follows_of_isJson _ (isJson_requestBody (p := fun _ => true) e)⟩,
    List.forall_mem_singleton.2 (follows_responses g h)⟩

/-- **The things in an interface description are copies of those in the schema of the error response.** -/
theorem follows_document (imports : Imports) (d : Document) (schemaName : String) (o : Options)
    {g : ℕ → ℕ → Value}
    (h : ∀ v ∈ errorSchema, v.Follows fun id => g id.node id.part) :
    (document imports d schemaName o errorSchema).Follows fun id => (g id.node id.part).copied id.copy := by
  have hinfo : ∀ q ∈ [("title", Value.str schemaName),
      ("description", .str ("OpenAPI specification generated from XSD schema " ++ schemaName)),
      ("version", .str "1.0.0")],
      q.2.Follows fun id => (g id.node id.part).copied id.copy := by
    simp [Value.Follows]
  refine follows_map (List.forall_mem_cons.2 ⟨trivial, List.forall_mem_cons.2 ⟨follows_map hinfo,
    List.forall_mem_singleton.2 (follows_map fun q hq => ?_)⟩⟩)
  obtain ⟨⟨group, i⟩, -, rfl⟩ := List.mem_map.1 (mem_of_mem_fieldsOf hq)
  refine follows_singleton (follows_operation _ group fun v hv => ?_)
  obtain ⟨v', hv', rfl⟩ := Option.map_eq_some_iff.1 hv
  exact Value.follows_copied i v' (h v' hv')

end ApiContract.Contract

namespace ApiContract.Convert

open ApiContract.Contract ApiContract.Files ApiContract.Json ApiContract.Number ApiContract.Schema

variable {t : Tree} {d : Schema.Document} {schemaName : String} {rootFile : Option String} {o : Options}
  {errorSchema : Option Value} {document : Value} {path : Path}

/-! ### Files -/

lemma render_yaml (hpath : isYaml path = true) (document : Value) :
    render path document = if document.hasLongInt then .error .longInt else .ok (Yaml.text document) := by
  rw [render, if_pos hpath]
  rfl

/-- **A file in YAML is read as the interface description just if all texts are kept.** The schema of the
error response, if there is one, is a value of JSON without fractions, and its things are those that their
identities tell. Then a file whose name is one of a file in YAML gets a text, unless the schema of the error
response has a whole number that is too long; and from this text, in whatever portions it comes, the interface
description is read, with all names in their order, just if all texts in it are ones that are read back where
they stand. -/
theorem decoded_of_describe_yaml {g : ℕ → ℕ → Value}
    (hd : (describe t d schemaName rootFile o errorSchema).result = .ok document)
    (herror : ∀ v ∈ errorSchema, v.isJson (fun _ => true) true = true)
    (hfollows : ∀ v ∈ errorSchema, v.Follows fun id => g id.node id.part) (hpath : isYaml path = true) :
    ((∃ text, render path document = .ok text) ∨
      render path document = .error .longInt ∧
        ∃ v ∈ errorSchema, v.isJson (fun n => !isLong n) true = false) ∧
    ∀ text ps, render path document = .ok text → ps.fault = none → ps.list.flatten = text.toList →
      ((∃ v, Yaml.read ps = .ok v ∧ v.erased = document.erased) ↔ document.isKept = true) := by
  have hlong := Value.hasLongInt_eq document (isJson_of_describe hd herror)
  rw [render_yaml hpath]
  refine ⟨?_, fun text ps ht hfault hps => ?_⟩
  · by_cases hall : ∀ v ∈ errorSchema, v.isJson (fun n => !isLong n) true = true
    · rw [hlong, isJson_of_describe hd hall]
      exact .inl ⟨_, rfl⟩
    · simp only [not_forall, Bool.not_eq_true] at hall
      obtain ⟨v, hv, hlongInt⟩ := hall
      cases document.hasLongInt with
      | false => exact .inl ⟨_, rfl⟩
      | true => exact .inr ⟨rfl, v, hv, hlongInt⟩
  · rw [hlong] at ht
    cases hjson : document.isJson (fun n => !isLong n) true with
    | false =>
      rw [hjson] at ht
      cases ht
    | true =>
      rw [hjson] at ht
      cases ht
      rw [describe_result] at hd
      obtain ⟨imports, -, rfl⟩ := map_eq_ok_iff.1 hd
      exact Yaml.read_text_iff (List.cons_ne_nil _ _) hjson
        (follows_document imports d schemaName o hfollows) hfault hps

/-- The description of a document with a schema of the error response that has a part in two places is read
back. -/
theorem decoded_of_describe_yaml_escaped : ∃ document text,
    (describe ⟨["w"], []⟩ escapedDocument "n" none escapedOptions (some escapedSchema)).result = .ok document ∧
    (∀ v ∈ some escapedSchema, v.isJson (fun _ => true) true = true) ∧
    (∀ v ∈ some escapedSchema, v.Follows fun _ => .list [.int (-12), .null, .list [], .map []]) ∧
    isYaml (Path.ofText "d.yaml") = true ∧ render (Path.ofText "d.yaml") document = .ok text ∧
      document.isKept = true ∧
    ∃ v, Yaml.read ⟨[text.toList], none⟩ = .ok v ∧ v.erased = document.erased := by
  have hi : resolveImports ⟨["w"], []⟩ escapedDocument.imports none escapedDocument.importLabels = .ok [] := rfl
  have hd : (describe ⟨["w"], []⟩ escapedDocument "n" none escapedOptions (some escapedSchema)).result =
      .ok _ :=
    describe_result_of_ok hi (some escapedSchema)
  have hjson : ∀ v ∈ some escapedSchema, v.isJson (fun _ => true) true = true := by
    rintro _ ⟨⟩
    decide
  have hfollows : ∀ v ∈ some escapedSchema,
      v.Follows fun _ => .list [.int (-12), .null, .list [], .map []] := by
    rintro _ ⟨⟩
    simp [escapedSchema, Value.Follows, Value.FieldsFollow, Value.AllFollow, Value.isCollection]
  have hpath : isYaml (Path.ofText "d.yaml") = true := by decide +kernel
  have hkept :
      (Contract.document [] escapedDocument "n" escapedOptions (some escapedSchema)).isKept = true := by
    exact Value.isKept_of_hasTexts (by decide +kernel)
  obtain ⟨⟨text, ht⟩ | ⟨-, v, hv, hlong⟩, hread⟩ :=
    decoded_of_describe_yaml
      (g := fun _ _ => .list [.int (-12), .null, .list [], .map []]) hd hjson hfollows hpath
  · exact ⟨_, text, hd, hjson, hfollows, hpath, ht, hkept, (hread text _ ht rfl (by simp)).2 hkept⟩
  · rw [isJson_escapedSchema v hv] at hlong
    cases hlong

/-- A document with a request in whose description a next line is. -/
def nextLineDocument : Schema.Document :=
  ⟨none, [], [], [{ ElementDecl.ofName "PingReq" with documentation := some "a\x85b" }], [], none⟩

/-- Options without an error response. -/
def plainOptions : Options := ⟨"Req", "Res", false, .post, "application/json", "string", none⟩

/-- The description of this document has a text from which no such description is read. -/
theorem nextLine_lost : ∃ document text,
    (describe ⟨["w"], []⟩ nextLineDocument "schema" none plainOptions none).result = .ok document ∧
    render (Path.ofText "o.yaml") document = .ok text ∧
    ¬ ∃ v, Yaml.read ⟨[text.toList], none⟩ = .ok v ∧ v.erased = document.erased := by
  have hi : resolveImports ⟨["w"], []⟩ nextLineDocument.imports none nextLineDocument.importLabels = .ok [] :=
    rfl
  have hd : (describe ⟨["w"], []⟩ nextLineDocument "schema" none plainOptions none).result = .ok _ :=
    describe_result_of_ok hi none
  have hpath : isYaml (Path.ofText "o.yaml") = true := by decide +kernel
  have hjson : (Contract.document [] nextLineDocument "schema" plainOptions none).isJson
      (fun n => !isLong n) true = true :=
    isJson_of_describe hd nofun
  have hfollows : (Contract.document [] nextLineDocument "schema" plainOptions none).Follows fun id =>
      Value.null.copied id.copy :=
    follows_document (g := fun _ _ => .null) [] nextLineDocument "schema" plainOptions fun _ => nofun
  have hlong : (Contract.document [] nextLineDocument "schema" plainOptions none).hasLongInt = false := by
    decide +kernel
  refine ⟨_, _, hd, by rw [render_yaml hpath, hlong]; rfl, fun h => ?_⟩
  have hkept : (Contract.document [] nextLineDocument "schema" plainOptions none).isKept = true :=
    (Yaml.read_text_iff (List.cons_ne_nil _ _) hjson hfollows rfl (List.append_nil _)).1 h
  obtain ⟨a, b, c, e, x, y, z, rest, hlinked⟩ : ∃ a b c e x y z rest,
      (Contract.document [] nextLineDocument "schema" plainOptions none).linked =
        .map [a, b, (c, .map [(e, .map [(x, .map (y :: z :: ("description", .str "a\x85b") :: rest))])])] :=
    ⟨_, _, _, _, _, _, _, _, rfl⟩
  rw [Value.isKept, hlinked] at hkept
  simp only [Value.fieldsKeep, Value.keeps, Bool.and_eq_true] at hkept
  obtain ⟨-, -, ⟨-, ⟨-, ⟨-, -, -, ⟨-, hdescription⟩, -⟩, -⟩, -⟩, -⟩ := hkept
  have hlost : Yaml.keepsText false 8 "a\x85b" = false := by decide +kernel
  rw [hlost] at hdescription
  cases hdescription

end ApiContract.Convert
