import ApiContract.Options.Reader
import ApiContract.Proofs.Except

/-!
What is known of options and jobs that are read from values: options have of each field what it says by
itself (`Options.ofValue_eq_ok_iff`), an error response has it too, if its fields name one source
(`ErrorResponse.ofValue_eq_ok_iff`), and a job has the output and the options that are asked for
(`Job.exists_isRead`).
-/

namespace ApiContract

variable {α β : Type} {d : Defaults} {place : List Step} {fs : List (String × Value)} {v : Value}

lemma Checked.ap_eq_ok_iff {f : Checked (α → β)} {x : Checked α} {b : β} :
    Checked.ap f x = .ok b ↔ ∃ g a, f = .ok g ∧ x = .ok a ∧ g a = b := by
  constructor
  · intro h
    unfold Checked.ap at h
    split at h <;> cases h
    exact ⟨_, _, rfl, rfl, rfl⟩
  · rintro ⟨g, a, rfl, rfl, rfl⟩
    rfl

/-- A field that is left out has its default. -/
lemma checkField_of_none {name : String} {default : α} {check : List Step → Value → Checked α}
    (h : fs.lookup name = none) : checkField place fs name default check = .ok default := by
  rw [checkField, h]

/-! ### Options -/

/-- Options have of each field what it says, or else its default, but for the error response. -/
structure Options.IsReadButError (d : Defaults) (place : List Step) (fs : List (String × Value))
    (o : Options) : Prop where
  requestSuffix : checkField place fs "request_suffix" d.requestSuffix checkSuffix =
    .ok o.requestSuffix
  responseSuffix : checkField place fs "response_suffix" d.responseSuffix checkSuffix =
    .ok o.responseSuffix
  nameInPath : checkField place fs "use_schema_name_in_path" d.nameInPath checkBool =
    .ok o.nameInPath
  method : checkField place fs "http_method" d.method checkMethod = .ok o.method
  contentType : checkField place fs "content_type" d.contentType checkText = .ok o.contentType
  defaultType : checkField place fs "default_type" d.defaultType checkText = .ok o.defaultType

/-- Options have of each field what it says, or else its default. -/
structure Options.IsRead (d : Defaults) (place : List Step) (fs : List (String × Value))
    (o : Options) : Prop extends o.IsReadButError d place fs where
  error : checkField place fs "error" none (checkError d) = .ok o.error

/-- Where all other fields are right, the error response decides. -/
lemma Options.IsReadButError.ofValue_eq {o : Options} (hv : fieldsOf? v = some fs)
    (h : o.IsReadButError d place fs) :
    Options.ofValue d place v =
      (checkField place fs "error" none (checkError d)).map fun e => { o with error := e } := by
  unfold Options.ofValue
  simp only [hv, h.requestSuffix, h.responseSuffix, h.nameInPath, h.method, h.contentType,
    h.defaultType]
  cases checkField place fs "error" none (checkError d) <;> rfl

/-- **Options are read field by field.** -/
theorem Options.ofValue_eq_ok_iff {o : Options} (hv : fieldsOf? v = some fs) :
    Options.ofValue d place v = .ok o ↔ o.IsRead d place fs := by
  constructor
  · intro h
    unfold Options.ofValue at h
    simp only [hv] at h
    obtain ⟨_, _, h₆, herror, rfl⟩ := Checked.ap_eq_ok_iff.1 h
    obtain ⟨_, _, h₅, hdefault, rfl⟩ := Checked.ap_eq_ok_iff.1 h₆
    obtain ⟨_, _, h₄, hcontent, rfl⟩ := Checked.ap_eq_ok_iff.1 h₅
    obtain ⟨_, _, h₃, hmethod, rfl⟩ := Checked.ap_eq_ok_iff.1 h₄
    obtain ⟨_, _, h₂, hname, rfl⟩ := Checked.ap_eq_ok_iff.1 h₃
    obtain ⟨_, _, h₁, hresponse, rfl⟩ := Checked.ap_eq_ok_iff.1 h₂
    obtain ⟨_, hrequest, rfl⟩ := map_eq_ok_iff.1 h₁
    exact ⟨⟨hrequest, hresponse, hname, hmethod, hcontent, hdefault⟩, herror⟩
  · intro h
    rw [h.toIsReadButError.ofValue_eq hv, h.error]
    rfl

lemma Options.exists_isRead {o : Options} (h : Options.ofValue d place v = .ok o) :
    ∃ fs, fieldsOf? v = some fs ∧ o.IsRead d place fs := by
  cases hv : fieldsOf? v with
  | none => simp only [Options.ofValue, hv, violation, reduceCtorEq] at h
  | some fs => exact ⟨fs, rfl, (ofValue_eq_ok_iff hv).1 h⟩

/-! ### Error responses -/

/-- What the fields of an error response say, each by itself. -/
structure ErrorParts where
  schema : Option Value
  text : Option String
  file : Option String
  typeName : Option String
  status : String
  description : String

/-- The error response of what its fields say, if they name one source. -/
def ErrorParts.response? (p : ErrorParts) : Option ErrorResponse :=
  (ErrorSource.ofFields? p.schema p.text p.file).map fun source =>
    ⟨source, p.typeName, p.status, p.description⟩

/-- What is said of an error response where nothing is said. -/
def ErrorParts.initial (d : Defaults) : ErrorParts := ⟨none, none, none, none, d.status, d.description⟩

/-- The parts as a value, whether they name one source or not. -/
def ErrorParts.toValue (p : ErrorParts) : Value :=
  .map [("error_schema", p.schema.getD .null), ("error_xsd_content", .ofText? p.text),
    ("error_xsd_file_path", .ofText? p.file), ("error_type_name", .ofText? p.typeName),
    ("error_status_code", .str p.status), ("error_description", .str p.description)]

/-- The parts are what the fields of an error response say, or else their defaults. -/
structure ErrorParts.IsRead (d : Defaults) (place : List Step) (fs : List (String × Value))
    (p : ErrorParts) : Prop where
  schema : checkField place fs "error_schema" none checkOptionalMap = .ok p.schema
  text : checkField place fs "error_xsd_content" none checkOptionalText = .ok p.text
  file : checkField place fs "error_xsd_file_path" none checkOptionalText = .ok p.file
  typeName : checkField place fs "error_type_name" none checkOptionalText = .ok p.typeName
  status : checkField place fs "error_status_code" d.status checkStatus = .ok p.status
  description : checkField place fs "error_description" d.description checkText =
    .ok p.description

/-- One of the three sources is named, and no other. -/
lemma ErrorSource.ofFields?_eq_some_iff {schema : Option Value} {text file : Option String}
    {s : ErrorSource} :
    ErrorSource.ofFields? schema text file = some s ↔
      (∃ v, s = .schema v ∧ schema = some v ∧ text = none ∧ file = none) ∨
      (∃ c, s = .text c ∧ schema = none ∧ text = some c ∧ file = none) ∨
      (∃ path, s = .file path ∧ schema = none ∧ text = none ∧ file = some path) := by
  cases schema <;> cases text <;> cases file <;> simp [ErrorSource.ofFields?, eq_comm]

lemma ErrorParts.toValue_response {p : ErrorParts} {e : ErrorResponse} (h : p.response? = some e) :
    e.toValue = p.toValue := by
  obtain ⟨source, hsource, rfl⟩ := Option.map_eq_some_iff.1 h
  rcases ErrorSource.ofFields?_eq_some_iff.1 hsource with
    ⟨v, rfl, hs, ht, hf⟩ | ⟨c, rfl, hs, ht, hf⟩ | ⟨path, rfl, hs, ht, hf⟩ <;>
  simp only [ErrorResponse.toValue, ErrorParts.toValue, hs, ht, hf, Option.getD, Value.ofText?]

lemma ErrorParts.response?_of_file {p : ErrorParts} {path : String} (hschema : p.schema = none)
    (htext : p.text = none) (hfile : p.file = some path) :
    p.response? = some ⟨.file path, p.typeName, p.status, p.description⟩ := by
  rw [response?, hschema, htext, hfile]
  rfl

/-- A file beside another source is one source too many. -/
lemma ErrorParts.response?_eq_none_of_file {p : ErrorParts} {path : String}
    (hfile : p.file = some path) (h : ¬ (p.schema = none ∧ p.text = none)) : p.response? = none := by
  rw [response?, hfile]
  cases hs : p.schema with
  | some v => cases p.text <;> rfl
  | none =>
    cases ht : p.text with
    | some c => rfl
    | none => exact absurd ⟨hs, ht⟩ h

/-- Where all fields are right by themselves, the number of sources decides. -/
lemma ErrorParts.IsRead.ofValue_eq {p : ErrorParts} (hv : fieldsOf? v = some fs)
    (h : p.IsRead d place fs) :
    ErrorResponse.ofValue d place v = match p.response? with
      | some e => .ok e
      | none => violation place (.invalid oneSource) v := by
  unfold ErrorResponse.ofValue ErrorParts.response?
  simp only [hv, h.schema, h.text, h.file, h.typeName, h.status, h.description]
  cases hsource : ErrorSource.ofFields? p.schema p.text p.file <;>
    simp only [Checked.ap, Except.map, hsource, Option.map]

/-- **Error responses are read field by field**, and name one source. -/
theorem ErrorResponse.ofValue_eq_ok_iff {e : ErrorResponse} (hv : fieldsOf? v = some fs) :
    ErrorResponse.ofValue d place v = .ok e ↔
      ∃ p : ErrorParts, p.IsRead d place fs ∧ p.response? = some e := by
  constructor
  · intro h
    unfold ErrorResponse.ofValue at h
    simp only [hv] at h
    split at h
    · cases h
    · rename_i hparts
      cases h
      obtain ⟨_, description, h₅, hdescription, hresult⟩ := Checked.ap_eq_ok_iff.1 hparts
      obtain ⟨_, status, h₄, hstatus, rfl⟩ := Checked.ap_eq_ok_iff.1 h₅
      obtain ⟨_, typeName, h₃, htype, rfl⟩ := Checked.ap_eq_ok_iff.1 h₄
      obtain ⟨_, file, h₂, hfile, rfl⟩ := Checked.ap_eq_ok_iff.1 h₃
      obtain ⟨_, text, h₁, htext, rfl⟩ := Checked.ap_eq_ok_iff.1 h₂
      obtain ⟨schema, hschema, rfl⟩ := map_eq_ok_iff.1 h₁
      obtain ⟨hsource, rfl, rfl, rfl⟩ : _ ∧ _ ∧ _ ∧ _ := by simpa only [Prod.mk.injEq] using hresult
      exact ⟨⟨schema, text, file, typeName, status, description⟩,
        ⟨hschema, htext, hfile, htype, hstatus, hdescription⟩, congrArg (Option.map _) hsource⟩
    · cases h
  · rintro ⟨p, hp, he⟩
    rw [hp.ofValue_eq hv, he]

lemma ErrorResponse.exists_fieldsOf? {e : ErrorResponse} (h : ErrorResponse.ofValue d place v = .ok e) :
    ∃ fs, fieldsOf? v = some fs := by
  cases hv : fieldsOf? v with
  | none => simp only [ErrorResponse.ofValue, hv, violation, reduceCtorEq] at h
  | some fs => exact ⟨fs, rfl⟩

/-- Where nothing is said there is no source. -/
lemma ErrorParts.IsRead.response?_of_nil {p : ErrorParts} (h : p.IsRead d place []) :
    p.response? = none := by
  rw [ErrorParts.response?, ← Except.ok.inj h.schema, ← Except.ok.inj h.text, ← Except.ok.inj h.file]
  rfl

/-! ### Jobs -/

/-- A job has of the fields that are not about its source what they say, or else their defaults. -/
structure Job.IsRead (d : Defaults) (fs : List (String × Value)) (j : Job) : Prop where
  output : checkField [] fs "output_file_path" none checkOptionalText = .ok j.output
  schemaName : checkField [] fs "schema_name" none checkOptionalText = .ok j.schemaName
  options : checkField [] fs "options" d.options (Options.ofValue d) = .ok j.options

lemma Job.exists_isRead {j : Job} (h : Job.ofValue d v = .ok j) :
    ∃ fs, fieldsOf? v = some fs ∧ j.IsRead d fs := by
  unfold Job.ofValue at h
  split at h
  · cases h
  · rename_i fs hv
    simp only at h
    split at h
    · cases h
    · rename_i hparts
      cases h
      obtain ⟨_, _, h₄, hoptions, hresult⟩ := Checked.ap_eq_ok_iff.1 hparts
      obtain ⟨_, _, h₃, hname, rfl⟩ := Checked.ap_eq_ok_iff.1 h₄
      obtain ⟨_, _, h₂, houtput, rfl⟩ := Checked.ap_eq_ok_iff.1 h₃
      obtain ⟨_, _, h₁, -, rfl⟩ := Checked.ap_eq_ok_iff.1 h₂
      obtain ⟨_, -, rfl⟩ := map_eq_ok_iff.1 h₁
      obtain ⟨-, rfl, rfl, rfl⟩ : _ ∧ _ ∧ _ ∧ _ := by simpa only [Prod.mk.injEq] using hresult
      exact ⟨fs, hv, houtput, hname, hoptions⟩
    · cases h

end ApiContract
