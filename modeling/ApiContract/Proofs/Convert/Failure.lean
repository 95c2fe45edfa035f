import ApiContract.Proofs.Convert.Describe
import ApiContract.Proofs.Except
import ApiContract.Proofs.Schema.Content
import ApiContract.Proofs.Schema.Imports

/-!
Why a conversion fails. Every failure of a job is one of those in `MayFail` (`mayFail_of_convert`): the
schema says something wrong, the error response has no schema, a file that the job reads names an
encoding that it cannot be read in, a file is not there, or there is no room for something that the job
follows (`Follows`). Of a job without files only the first two and the last one are left.
-/

namespace ApiContract.Convert

open ApiContract.Files ApiContract.Schema ApiContract.Text ApiContract.Xml

variable {s : Stack} {t : Tree} {j : Job} {f : Failure} {x : Descent}

/-- The content of a schema file that a job reads: of its input, of the schema of its error response, or
of a document that the input imports. -/
inductive Reads (t : Tree) (j : Job) : List UInt8 → Prop
  | input {file : String} {bs : List UInt8} (hs : j.source = .file file)
      (hbs : t.file? (Path.ofText file) = .ok (some bs)) : Reads t j bs
  | error {e : ErrorResponse} {file : String} {bs : List UInt8} (he : j.options.error = some e)
      (hs : e.source = .file file) (hbs : t.file? (Path.ofText file) = .ok (some bs)) : Reads t j bs
  | imported {file : String} {root : List UInt8} {d : Schema.Document} {p : PendingImport}
      {bs : List UInt8} (hs : j.source = .file file) (hroot : t.file? (Path.ofText file) = .ok (some root))
      (hd : Document.read (.bytes root) (some (Path.ofText file).text) = .ok d)
      (hp : p ∈ pendingImports d.imports file d.importLabels)
      (hbs : t.file? p.path = .ok (some bs)) : Reads t j bs

/-- A job with a schema in a file. -/
def UsesFiles (j : Job) : Prop :=
  (∃ file, j.source = .file file) ∨ ∃ e ∈ j.options.error, ∃ file, e.source = .file file

/-- The content that a job converts or reads the schema of its error response from, in a text or in a file. -/
inductive Takes (t : Tree) (j : Job) : Content → Prop
  | input {text : String} (hs : j.source = .text text) : Takes t j (.text text)
  | error {e : ErrorResponse} {text : String} (he : j.options.error = some e) (hs : e.source = .text text) :
      Takes t j (.text text)
  | file {bs : List UInt8} (h : Reads t j bs) : Takes t j (.bytes bs)

/-- The nested data that a job follows: the declarations in content, the type of its error response, the types
of the elements of its operations, and the schema of its error response. -/
inductive Follows (s : Stack) (t : Tree) (j : Job) : Descent → Prop
  | reading {c : Content} {root : Xml.Node} (hc : Takes t j c) (hr : readRoot c none = .ok root) :
      Follows s t j (.reading root)
  | errorType {c : Content} {source : Option String} {e : ErrorResponse} {d : Schema.Document}
      {type : ComplexType} (hc : Takes t j c) (hd : Document.read c source = .ok d)
      (he : j.options.error = some e) (ht : errorType d e.typeName = .ok type) :
      Follows s t j (.expanding (expand [] d [] type.name))
  | element {c : Content} {source : Option String} {d : Schema.Document} {imports : Imports}
      {g : Contract.Group ElementDecl} {e : ElementDecl} (hc : Takes t j c)
      (hd : Document.read c source = .ok d)
      (hi : resolveImports t d.imports (sourceFile j.source) d.importLabels = .ok imports)
      (hg : g ∈ Contract.groups d j.options) (he : e ∈ g.request.toList ++ g.response.toList) :
      Follows s t j (.expanding (expandElement imports d [] e))
  | errorSchema {v : Value} (hv : (optionalErrorSchema s t j.options).result = .ok (some v)) :
      Follows s t j (.copying v)

/-- The failures that a job can come to where there is so much room for calls. -/
inductive MayFail (s : Stack) (t : Tree) (j : Job) : Failure → Prop
  | schema {e : ReadError} (h : isSchemaError e = true) : MayFail s t j (.unreadable e)
  | encoding {source : Option String} {bs : List UInt8} {e : Encoding} {name : String}
      {g : EncodingFault} (hbs : Reads t j bs)
      (hd : Source.declared? (trim isBlankByte bs) = some (e, name))
      (hg : e.goOn name = .error (.fault g)) : MayFail s t j (.unreadable (.xml source (.encoding g)))
  | errorSchema (e : ErrorSchemaFailure) : MayFail s t j (.errorSchema e)
  | missingInput (path : String) (h : UsesFiles j) : MayFail s t j (.missingInput path)
  | missingImport (path : String) (h : UsesFiles j) : MayFail s t j (.missingImport path)
  | file (e : FileError) (h : UsesFiles j) : MayFail s t j (.file e)
  | exhausted {x : Descent} (hx : Follows s t j x) (h : s.fits x = false) : MayFail s t j .exhausted

/-- A document that cannot be read says something wrong, or it is in bytes whose encoding is at fault. -/
lemma mayFail_of_read {c : Content} {source : Option String} {e : ReadError}
    (h : Document.read c source = .error e) (hc : ∀ bs, c = .bytes bs → Reads t j bs) :
    MayFail s t j (.unreadable e) := by
  cases he : isSchemaError e with
  | true => exact .schema he
  | false =>
    match e with
    | .otherRoot _ _ | .xml _ (.malformed _ _) | .xml _ (.forbidden _) => cases he
    | .xml source' (.encoding g) =>
      obtain ⟨bs, e, name, rfl, hd, hg⟩ := exists_bytes_of_read h
      exact .encoding (hc bs rfl) hd hg

/-! ### Room for calls -/

lemma follow_eq_error {xs : List Descent} (h : (follow s xs).result = .error f) :
    f = .exhausted ∧ ∃ x ∈ xs, s.fits x = false := by
  unfold follow at h
  split at h
  · cases h
  · rename_i hall
    cases h
    exact ⟨rfl, by simpa using hall⟩

lemma mayFail_of_follow {xs : List Descent} (h : (follow s xs).result = .error f)
    (hxs : ∀ x ∈ xs, Follows s t j x) : MayFail s t j f := by
  obtain ⟨rfl, x, hx, hfits⟩ := follow_eq_error h
  exact .exhausted (hxs x hx) hfits

lemma follows_of_mem_readings {c : Content} (hc : Takes t j c) : ∀ x ∈ readings c, Follows s t j x := by
  intro x hx
  obtain ⟨root, hroot, rfl⟩ := List.mem_map.1 hx
  cases hr : readRoot c none with
  | error e => rw [hr] at hroot; cases hroot
  | ok root' =>
    rw [hr] at hroot
    cases List.mem_singleton.1 hroot
    exact .reading hc hr

lemma readDocument_eq_error {c : Content} {source : Option String}
    (h : (readDocument s c source).result = .error f) :
    (follow s (readings c)).result = .error f ∨
      ∃ e, Document.read c source = .error e ∧ f = .unreadable e := by
  unfold readDocument at h
  rw [Logged.result_bind] at h
  rcases bind_eq_error_iff.1 h with h | ⟨_, -, h⟩
  · exact .inl h
  · obtain ⟨e, he, rfl⟩ := mapError_eq_error_iff.1 h
    exact .inr ⟨e, he, rfl⟩

lemma readDocument_eq_ok {c : Content} {source : Option String} {d : Schema.Document}
    (h : (readDocument s c source).result = .ok d) : Document.read c source = .ok d := by
  unfold readDocument at h
  rw [Logged.result_bind] at h
  obtain ⟨_, -, h⟩ := bind_eq_ok_iff.1 h
  exact mapError_eq_ok_iff.1 h

/-- Reading content that a job takes fails for what the content says, or for want of room. -/
lemma mayFail_of_readDocument {c : Content} {source : Option String} (hc : Takes t j c)
    (h : (readDocument s c source).result = .error f) : MayFail s t j f := by
  rcases readDocument_eq_error h with h | ⟨e, he, rfl⟩
  · exact mayFail_of_follow h (follows_of_mem_readings hc)
  · refine mayFail_of_read he ?_
    rintro bs rfl
    cases hc with
    | file hbs => exact hbs

/-! ### The input -/

lemma fileContent_eq_error {p : Path} {missing : String → Failure}
    (h : (fileContent t p missing).result = .error f) :
    f = missing p.text ∨ ∃ e, f = .file e := by
  unfold fileContent at h
  split at h
  · cases h
  · cases h; exact .inl rfl
  · cases h; exact .inr ⟨_, rfl⟩

lemma fileContent_eq_ok {p : Path} {missing : String → Failure} {c : Content}
    (h : (fileContent t p missing).result = .ok c) :
    ∃ bs, c = .bytes bs ∧ t.file? p = .ok (some bs) := by
  unfold fileContent at h
  split at h
  · rename_i bs hbs
    cases h; exact ⟨bs, rfl, hbs⟩
  · cases h
  · cases h

lemma mayFail_of_readInput (h : (readInput s t j.source).result = .error f) : MayFail s t j f := by
  cases hs : j.source with
  | text text =>
    rw [hs] at h
    simp only [readInput, inform, Logged.result_bind, Logged.result_write] at h
    exact mayFail_of_readDocument (.input hs) h
  | file file =>
    rw [hs] at h
    simp only [readInput, inform, Logged.result_bind, Logged.result_write] at h
    rcases bind_eq_error_iff.1 h with h | ⟨c, hc, h⟩
    · rcases fileContent_eq_error h with rfl | ⟨e, rfl⟩
      · exact .missingInput _ (.inl ⟨file, hs⟩)
      · exact .file e (.inl ⟨file, hs⟩)
    · obtain ⟨bs, rfl, hbs⟩ := fileContent_eq_ok hc
      exact mayFail_of_readDocument (.file (.input hs hbs)) h

/-- A document that is read from the input is the one of content that the job takes. -/
lemma exists_of_readInput {d : Schema.Document} (h : (readInput s t j.source).result = .ok d) :
    ∃ c source, Takes t j c ∧ Document.read c source = .ok d ∧
      ∀ file, j.source = .file file → ∃ root, t.file? (Path.ofText file) = .ok (some root) ∧
        c = .bytes root ∧ source = some (Path.ofText file).text := by
  cases hs : j.source with
  | text text =>
    rw [hs] at h
    simp only [readInput, inform, Logged.result_bind, Logged.result_write] at h
    exact ⟨_, _, .input hs, readDocument_eq_ok h, by rintro _ ⟨⟩⟩
  | file file =>
    rw [hs] at h
    simp only [readInput, inform, Logged.result_bind, Logged.result_write] at h
    obtain ⟨c, hc, h⟩ := bind_eq_ok_iff.1 h
    obtain ⟨bs, rfl, hbs⟩ := fileContent_eq_ok hc
    refine ⟨_, _, .file (.input hs hbs), readDocument_eq_ok h, ?_⟩
    rintro _ ⟨⟩
    exact ⟨bs, hbs, rfl, rfl⟩

/-! ### The error response -/

/-- What the document of an error response says wrong is told as a failure of the error response. -/
lemma MayFail.errorReadFailure (h : MayFail s t j f) : MayFail s t j (errorReadFailure f) := by
  unfold Convert.errorReadFailure
  split
  · split
    · exact .errorSchema _
    · exact h
  · exact h

lemma mayFail_of_readErrorDocument {c : Step Content} {source : Option String}
    (hc : ∀ content, c.result = .ok content → Takes t j content)
    (hf : ∀ f, c.result = .error f → MayFail s t j f)
    (h : (readErrorDocument s c source).result = .error f) : MayFail s t j f := by
  unfold readErrorDocument at h
  simp only [Logged.result_bind] at h
  obtain ⟨f', hf', rfl⟩ := mapError_eq_error_iff.1 h
  rcases bind_eq_error_iff.1 hf' with hfail | ⟨content, hcontent, hread⟩
  · exact (hf f' hfail).errorReadFailure
  · exact (mayFail_of_readDocument (hc content hcontent) hread).errorReadFailure

lemma readErrorDocument_eq_ok {c : Step Content} {source : Option String} {d : Schema.Document}
    (h : (readErrorDocument s c source).result = .ok d) :
    ∃ content, c.result = .ok content ∧ Document.read content source = .ok d := by
  unfold readErrorDocument at h
  simp only [Logged.result_bind] at h
  obtain ⟨content, hcontent, hread⟩ := bind_eq_ok_iff.1 (mapError_eq_ok_iff.1 h)
  exact ⟨content, hcontent, readDocument_eq_ok hread⟩

lemma mayFail_of_declaredErrorSchema {c : Content} {source : Option String} {e : ErrorResponse}
    {d : Schema.Document} {defaultType : String} (hc : Takes t j c) (hd : Document.read c source = .ok d)
    (he : j.options.error = some e)
    (h : (declaredErrorSchema s d e.typeName defaultType).result = .error f) : MayFail s t j f := by
  unfold declaredErrorSchema at h
  simp only [explain, Logged.result_bind, Logged.result_write, Logged.result_ofExcept] at h
  rcases bind_eq_error_iff.1 h with h | ⟨type, ht, h⟩
  · unfold errorType at h
    split at h <;> split at h <;> cases h <;> exact .errorSchema _
  · rcases bind_eq_error_iff.1 h with h | ⟨_, -, h⟩
    · cases h
    · rcases bind_eq_error_iff.1 h with h | ⟨_, -, h⟩
      · exact mayFail_of_follow h (List.forall_mem_singleton.2 (.errorType hc hd he ht))
      · cases h

/-- The error response is declared in content that the job takes, if that is there. -/
lemma mayFail_of_errorContent {c : Step Content} {source : Option String} {e : ErrorResponse}
    {defaultType : String} (he : j.options.error = some e)
    (hc : ∀ content, c.result = .ok content → Takes t j content)
    (hf : ∀ f, c.result = .error f → MayFail s t j f)
    (h : (do
      let d ← readErrorDocument s c source
      declaredErrorSchema s d e.typeName defaultType).result = .error f) : MayFail s t j f := by
  rw [Logged.result_bind] at h
  rcases bind_eq_error_iff.1 h with h | ⟨d, hd, h⟩
  · exact mayFail_of_readErrorDocument hc hf h
  · obtain ⟨content, hcontent, hread⟩ := readErrorDocument_eq_ok hd
    exact mayFail_of_declaredErrorSchema (hc content hcontent) hread he h

lemma mayFail_of_errorSchema {e : ErrorResponse} {defaultType : String} (he : j.options.error = some e)
    (h : (errorSchema s t e defaultType).result = .error f) : MayFail s t j f := by
  unfold errorSchema at h
  split at h
  · cases h
  · rename_i text hs
    refine mayFail_of_errorContent he (fun content hcontent => ?_) (fun f hf => ?_) h
    · cases hcontent
      exact .error he hs
    · cases hf
  · rename_i file hs
    refine mayFail_of_errorContent he (fun content hcontent => ?_) (fun f hf => ?_) h
    · obtain ⟨bs, rfl, hbs⟩ := fileContent_eq_ok hcontent
      exact .file (.error he hs hbs)
    · rcases fileContent_eq_error hf with rfl | ⟨e', rfl⟩
      · exact .errorSchema _
      · exact .file e' (.inr ⟨e, he, file, hs⟩)

lemma mayFail_of_optionalErrorSchema (h : (optionalErrorSchema s t j.options).result = .error f) :
    MayFail s t j f := by
  unfold optionalErrorSchema at h
  split at h
  · rename_i e he
    rw [Logged.result_bind] at h
    rcases bind_eq_error_iff.1 h with h | ⟨v, -, h⟩
    · exact mayFail_of_errorSchema he h
    · cases h
  · cases h

/-! ### Imports -/

lemma mayFail_of_resolveImports {d : Schema.Document} {e : ImportError}
    (hd : (readInput s t j.source).result = .ok d)
    (h : resolveImports t d.imports (sourceFile j.source) d.importLabels = .error e) :
    MayFail s t j (.ofImports e) := by
  cases hs : j.source with
  | text text =>
    rw [hs] at h
    cases h
  | file file =>
    rw [hs] at h
    have hfiles : UsesFiles j := .inl ⟨file, hs⟩
    obtain ⟨c, source, -, hread, hfile⟩ := exists_of_readInput hd
    obtain ⟨root, hroot, rfl, rfl⟩ := hfile file hs
    obtain ⟨p, hp, hdocument⟩ := exists_documentAt_eq_error h
    unfold documentAt at hdocument
    split at hdocument
    · rename_i bs hbs
      obtain ⟨e', hread', rfl⟩ := mapError_eq_error_iff.1 hdocument
      exact mayFail_of_read hread' (by rintro _ ⟨⟩; exact .imported hs hroot hread hp hbs)
    · cases hdocument
      exact .missingImport _ hfiles
    · cases hdocument
      exact .file _ hfiles

/-- The documents that are imported are in files that the job reads. -/
lemma takes_of_mem_importContents {d : Schema.Document} {file : String}
    {contents : List (PendingImport × List UInt8)} (hs : j.source = .file file)
    (hd : (readInput s t j.source).result = .ok d)
    (hcontents : importContents t (pendingImports d.imports file d.importLabels) = .ok contents) :
    ∀ c ∈ contents, Takes t j (.bytes c.2) := by
  obtain ⟨_, _, -, hread, hfile⟩ := exists_of_readInput hd
  obtain ⟨root, hroot, rfl, rfl⟩ := hfile file hs
  rintro ⟨p, bs⟩ hc
  obtain ⟨hp, hbs⟩ := file?_of_mem_importContents hcontents hc
  exact .file (.imported hs hroot hread hp hbs)

lemma follows_of_mem_importReadings {d : Schema.Document} (hd : (readInput s t j.source).result = .ok d) :
    ∀ x ∈ importReadings t d (sourceFile j.source), Follows s t j x := by
  intro x hx
  unfold importReadings at hx
  split at hx
  · cases hx
  · rename_i file hfile
    split at hx
    · rename_i contents hcontents
      obtain ⟨c, hc, hx⟩ := List.mem_flatMap.1 hx
      have hs : j.source = .file file := by
        cases hs : j.source with
        | text text => rw [hs] at hfile; cases hfile
        | file file' =>
          rw [hs] at hfile
          cases (Option.filter_eq_some_iff.1 hfile).1
          rfl
      exact follows_of_mem_readings (takes_of_mem_importContents hs hd hcontents c hc) x hx
    · cases hx

/-- What is followed for the interface description is among what the job follows. -/
lemma follows_of_mem_descriptionDescents {d : Schema.Document} {e : Option Value}
    (hd : (readInput s t j.source).result = .ok d)
    (he : (optionalErrorSchema s t j.options).result = .ok e) :
    ∀ x ∈ descriptionDescents t d (sourceFile j.source) j.options e, Follows s t j x := by
  intro x hx
  unfold descriptionDescents at hx
  split at hx
  · rename_i imports hi
    rcases List.mem_append.1 hx with hx | hx
    · exact follows_of_mem_importReadings hd x hx
    · obtain ⟨g, hg, hx⟩ := List.mem_flatMap.1 hx
      obtain ⟨c, source, hc, hread, -⟩ := exists_of_readInput hd
      rcases List.mem_append.1 hx with hx | hx
      · obtain ⟨element, helement, rfl⟩ := List.mem_map.1 hx
        exact .element hc hread hi hg helement
      · obtain ⟨v, hv, rfl⟩ := List.mem_map.1 hx
        cases Option.mem_toList.1 hv
        exact .errorSchema he
  · cases hx

/-! ### Jobs -/

/-- **Why a conversion fails.** -/
theorem mayFail_of_convert (h : (convert s t j).result = .error f) : MayFail s t j f := by
  unfold convert at h
  simp only [Logged.result_bind] at h
  rcases bind_eq_error_iff.1 h with h | ⟨d, hd, h⟩
  · exact mayFail_of_readInput h
  rcases bind_eq_error_iff.1 h with h | ⟨e, he, h⟩
  · exact mayFail_of_optionalErrorSchema h
  rcases bind_eq_error_iff.1 h with h | ⟨_, -, h⟩
  · exact mayFail_of_follow h (follows_of_mem_descriptionDescents hd he)
  rw [describe_result] at h
  cases hi : resolveImports t d.imports (sourceFile j.source) d.importLabels with
  | error e =>
    rw [hi] at h
    cases h
    exact mayFail_of_resolveImports hd hi
  | ok imports => rw [hi] at h; cases h

/-- A conversion that fails has not opened any file. -/
lemma isLate_of_convert (h : (convert s t j).result = .error f) : f.isLate = false := by
  cases mayFail_of_convert h <;> rfl

end ApiContract.Convert
