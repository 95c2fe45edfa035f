import ApiContract.CommandLine.Options
import ApiContract.Contract.Document
import ApiContract.Environment
import ApiContract.Proofs.Options.Reader
import ApiContract.Proofs.Text.Blank
import ApiContract.Service.Form

/-!
Defaults and the conditions on options. Defaults are not checked where they are used, and a suffix from
the environment may be nothing but blanks. So the defaults are right, and with them all options that are
made, for just those environments whose suffixes are more than blanks (`areAccepted_defaults_iff`).
-/

namespace ApiContract

open ApiContract.Text

variable {d : Defaults} {o : Options} {place : List Step} {fs : List (String × Value)} {v : Value}
  {env : Environment} {key name default s : String}

/-- The defaults would be right if they were given as what they are, whatever the defaults are then. -/
structure Defaults.AreAccepted (d : Defaults) : Prop where
  options : ∀ (d' : Defaults) (place : List Step),
    Options.ofValue d' place d.options.toValue = .ok d.options
  error : ∀ (d' : Defaults) (place : List Step) (path : String),
    ErrorResponse.ofValue d' place (ErrorResponse.mk (.file path) none d.status d.description).toValue =
      .ok ⟨.file path, none, d.status, d.description⟩

/-- The options that are made where these are the defaults: from a value, for a job, from arguments, and
from a form. -/
inductive Options.IsMade (d : Defaults) : Options → Prop where
  | value {place : List Step} {v : Value} {o : Options} (h : Options.ofValue d place v = .ok o) :
    IsMade d o
  | job {v : Value} {j : Job} (h : Job.ofValue d v = .ok j) : IsMade d j.options
  | arguments {t : Files.Tree} {a : CommandLine.Arguments} {o : Options}
    (h : a.options t d = .ok o) : IsMade d o
  | form {f : Service.Form} {o : Options} (h : f.options d = .ok o) : IsMade d o

/-- Options that are as they should be: no suffix is empty, neither there nor where elements are paired,
and the method is one of the five. -/
structure Options.IsSound (o : Options) : Prop where
  requestSuffix : o.requestSuffix ≠ ""
  responseSuffix : o.responseSuffix ≠ ""
  method : o.method.text ∈ ["get", "post", "put", "delete", "patch"]
  pairing : ∀ document : Schema.Document, ∃ request response, request ≠ "" ∧ response ≠ "" ∧
    Contract.groups document o =
      Contract.group request response Schema.ElementDecl.name document.elements

/-- The variables of the two suffixes. -/
def Environment.suffixVariables : List String :=
  ["XSD_OPENAPI_REQUEST_SUFFIX", "XSD_OPENAPI_RESPONSE_SUFFIX"]

/-- The suffixes that the environment sets are more than blanks. -/
def Environment.HasSuffixes (env : Environment) : Prop :=
  ∀ key ∈ suffixVariables, ∀ raw ∈ env.lookup key, ∃ c ∈ raw.toList, isBlank c = false

/-! ### Texts of the environment -/

lemma trim_eq_nil_iff {α : Type} {p : α → Bool} {l : List α} :
    trim p l = [] ↔ ∀ x ∈ l, p x = true := by
  rw [trim_eq, List.rdropWhile_eq_nil_iff]
  refine ⟨fun h => ?_, fun h x hx => h x (List.dropWhile_subset p hx)⟩
  -- the first element that is left would have to satisfy `p`
  cases hl : l.dropWhile p with
  | nil => exact List.dropWhile_eq_nil_iff.1 hl
  | cons a m =>
    have ha : p a = true := h a (hl ▸ List.mem_cons_self)
    have hn := List.head_dropWhile_not p (l := l) (by simp [hl])
    simp only [hl, List.head_cons, ha, Bool.true_eq_false] at hn

lemma strip_eq_empty_iff : strip s = "" ↔ ∀ c ∈ s.toList, isBlank c = true := by
  rw [← trim_eq_nil_iff, strip]
  exact ⟨fun h => by simpa using congrArg String.toList h, fun h => by rw [h]⟩

lemma Environment.value_text : (env.text key default).value = strip ((env.lookup key).getD default) := by
  unfold text clean?
  cases env.lookup key <;> rfl

/-- A text that is read is empty only where a variable holds nothing but blanks. -/
lemma Environment.value_text_ne_empty_iff (key default : String) (hdefault : strip default ≠ "") :
    (env.text key default).value ≠ "" ↔
      ∀ raw ∈ env.lookup key, ∃ c ∈ raw.toList, isBlank c = false := by
  rw [value_text]
  cases env.lookup key with
  | none => simpa using hdefault
  | some raw =>
    simp only [Option.getD_some, ne_eq, strip_eq_empty_iff, not_forall, exists_prop,
      Bool.not_eq_true, Option.mem_def, Option.some.injEq, forall_eq']

lemma Environment.hasSuffixes_iff : env.HasSuffixes ↔
    env.defaults.value.requestSuffix ≠ "" ∧ env.defaults.value.responseSuffix ≠ "" := by
  have hrequest : env.defaults.value.requestSuffix ≠ "" ↔ _ :=
    value_text_ne_empty_iff "XSD_OPENAPI_REQUEST_SUFFIX" "Req" (by decide +kernel)
  have hresponse : env.defaults.value.responseSuffix ≠ "" ↔ _ :=
    value_text_ne_empty_iff "XSD_OPENAPI_RESPONSE_SUFFIX" "Res" (by decide +kernel)
  rw [hrequest, hresponse, HasSuffixes, suffixVariables, List.forall_mem_cons,
    List.forall_mem_singleton]

/-! ### Options that are given as what they are -/

lemma checkSuffix_str_eq_ok_iff : checkSuffix place (.str s) = .ok s ↔ s ≠ "" := by
  unfold checkSuffix checkText
  simp only [String.isEmpty_iff, ne_eq]
  split <;> simp [*, violation]

lemma checkMethod_text (m : Method) : checkMethod place (.str m.text) = .ok m := by
  cases m <;> rfl

/-- Options without an error response are right as they are if their suffixes are not empty. -/
lemma Options.ofValue_toValue_iff (ho : o.error = none) :
    Options.ofValue d place o.toValue = .ok o ↔ o.requestSuffix ≠ "" ∧ o.responseSuffix ≠ "" := by
  rw [Options.ofValue_eq_ok_iff rfl]
  constructor
  · intro h
    exact ⟨checkSuffix_str_eq_ok_iff.1 h.requestSuffix, checkSuffix_str_eq_ok_iff.1 h.responseSuffix⟩
  · rintro ⟨hrequest, hresponse⟩
    exact {
      requestSuffix := checkSuffix_str_eq_ok_iff.2 hrequest
      responseSuffix := checkSuffix_str_eq_ok_iff.2 hresponse
      nameInPath := rfl
      method := checkMethod_text o.method
      contentType := rfl
      defaultType := rfl
      error := by rw [ho]; rfl }

lemma Defaults.areAccepted_iff :
    d.AreAccepted ↔ d.requestSuffix ≠ "" ∧ d.responseSuffix ≠ "" := by
  constructor
  · intro h
    exact (Options.ofValue_toValue_iff rfl).1 (h.options d [])
  · intro h
    exact ⟨fun d' place => (Options.ofValue_toValue_iff rfl).2 h, fun d' place path => rfl⟩

/-! ### Options that are made -/

lemma suffix_of_checkField (h : checkField place fs name default checkSuffix = .ok s) :
    s = default ∨ s ≠ "" := by
  unfold checkField at h
  split at h
  · cases h
    exact .inl rfl
  · unfold checkSuffix at h
    split at h
    · split at h
      · cases h
      · rename_i hfull
        cases h
        exact .inr fun hs => hfull (String.isEmpty_iff.2 hs)
    · cases h

/-- A suffix of options that are made is that of the defaults, or else it is checked. -/
lemma Options.IsMade.suffixes (h : Options.IsMade d o) :
    (o.requestSuffix = d.requestSuffix ∨ o.requestSuffix ≠ "") ∧
      (o.responseSuffix = d.responseSuffix ∨ o.responseSuffix ≠ "") := by
  have hvalue {place v o} (h : Options.ofValue d place v = .ok o) :
      (o.requestSuffix = d.requestSuffix ∨ o.requestSuffix ≠ "") ∧
        (o.responseSuffix = d.responseSuffix ∨ o.responseSuffix ≠ "") := by
    obtain ⟨fs, -, hread⟩ := Options.exists_isRead h
    exact ⟨suffix_of_checkField hread.requestSuffix, suffix_of_checkField hread.responseSuffix⟩
  cases h with
  | value h => exact hvalue h
  | @job v j h =>
    obtain ⟨fs, -, hread⟩ := Job.exists_isRead h
    have hoptions := hread.options
    unfold checkField at hoptions
    split at hoptions
    · rw [← Except.ok.inj hoptions]
      exact ⟨.inl rfl, .inl rfl⟩
    · exact hvalue hoptions
  | arguments h =>
    unfold CommandLine.Arguments.options at h
    obtain ⟨es, -, h⟩ := bind_eq_ok_iff.1 h
    obtain ⟨merged, -, h⟩ := bind_eq_ok_iff.1 h
    unfold CommandLine.optionsOf at h
    split at h
    · cases h
    · exact hvalue (mapError_eq_ok_iff.1 h)
  | form h =>
    unfold Service.Form.options at h
    obtain ⟨e, -, h⟩ := bind_eq_ok_iff.1 h
    obtain ⟨o', ho', h⟩ := bind_eq_ok_iff.1 h
    cases h
    exact hvalue (o := o') (mapError_eq_ok_iff.1 ho')

lemma Options.isSound_iff : o.IsSound ↔ o.requestSuffix ≠ "" ∧ o.responseSuffix ≠ "" := by
  constructor
  · intro h
    exact ⟨h.requestSuffix, h.responseSuffix⟩
  · rintro ⟨hrequest, hresponse⟩
    exact {
      requestSuffix := hrequest
      responseSuffix := hresponse
      method := by cases o.method <;> decide
      pairing := fun document => ⟨_, _, hrequest, hresponse, rfl⟩ }

lemma Defaults.isMade_options : Options.IsMade d d.options := by
  have h : Options.ofValue d [] (.map []) = .ok d.options := rfl
  exact .value h

lemma Defaults.forall_isSound_iff :
    (∀ o, Options.IsMade d o → o.IsSound) ↔ d.requestSuffix ≠ "" ∧ d.responseSuffix ≠ "" := by
  constructor
  · intro h
    exact Options.isSound_iff.1 (h d.options isMade_options)
  · rintro ⟨hrequest, hresponse⟩ o ho
    obtain ⟨hreq, hres⟩ := ho.suffixes
    exact Options.isSound_iff.2
      ⟨hreq.elim (fun h => h ▸ hrequest) id, hres.elim (fun h => h ▸ hresponse) id⟩

/-- **Defaults are right** for just those environments whose suffixes are more than blanks: then they
would be accepted if they were given, and all options that are made are as they should be. -/
theorem areAccepted_defaults_iff (env : Environment) :
    (env.defaults.value.AreAccepted ↔ env.HasSuffixes) ∧
      ((∀ o, Options.IsMade env.defaults.value o → o.IsSound) ↔ env.HasSuffixes) := by
  rw [Environment.hasSuffixes_iff]
  exact ⟨Defaults.areAccepted_iff, Defaults.forall_isSound_iff⟩

/-- An environment whose request suffix is blank. -/
def blankEnvironment : Environment := [("XSD_OPENAPI_REQUEST_SUFFIX", "  ")]

/-- A blank request suffix is the empty one. It would not be accepted, options are made with it, and all
elements are requests of one operation without a name. -/
theorem not_areAccepted_blankEnvironment :
    blankEnvironment.defaults.value.requestSuffix = "" ∧
    Options.ofValue .standard [] (.map [("request_suffix", .str "")]) =
      .error [⟨[.field "request_suffix"], .tooShort, .str ""⟩] ∧
    ¬ blankEnvironment.defaults.value.AreAccepted ∧
    (∃ o, Options.IsMade blankEnvironment.defaults.value o ∧ o.requestSuffix = "" ∧ ¬ o.IsSound) ∧
    (Contract.group blankEnvironment.defaults.value.requestSuffix
        blankEnvironment.defaults.value.responseSuffix id ["PlaceOrderReq", "CancelOrderReq"]).map
      (fun g => (g.name, g.request, g.response)) = [("", some "CancelOrderReq", none)] := by
  have hsuffix : blankEnvironment.defaults.value.requestSuffix = "" := by decide +kernel
  have hempty : ¬ (blankEnvironment.defaults.value.requestSuffix ≠ "" ∧
      blankEnvironment.defaults.value.responseSuffix ≠ "") := fun h => h.1 hsuffix
  refine ⟨hsuffix, rfl, fun h => hempty (Defaults.areAccepted_iff.1 h),
    ⟨blankEnvironment.defaults.value.options, Defaults.isMade_options, hsuffix,
      fun h => hempty (Options.isSound_iff.1 h)⟩, ?_⟩
  decide +kernel

end ApiContract
