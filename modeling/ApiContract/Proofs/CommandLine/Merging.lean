import ApiContract.Proofs.CommandLine.Options

/-!
Options from a file and from flags together. Where the file is right by itself and the flags are, the
options that both make have the values of the flags and else those of the file (`options_of_accepted`).
There is one exception: the flag that names a file for the error response adds a source to one of another
kind that the options file names, and two sources are refused.
-/

namespace ApiContract.CommandLine

open ApiContract.Files ApiContract.Yaml

variable {t : Tree} {d : Defaults} {a : Arguments} {es ees : List (Value × Value)}
  {fs : List (String × Value)} {flags : List (Flag × String)} {f : Flag} {v : Value}

/-- The arguments without an options file. -/
def Arguments.withoutFile (a : Arguments) : Arguments :=
  { a with values := a.values.filter (·.1 ≠ .config) }

/-- What is said of the error response by options, and else by the defaults. -/
def errorBase (d : Defaults) (o : Options) : Value :=
  (o.error.map ErrorResponse.toValue).getD (ErrorParts.initial d).toValue

/-- Options have the values of flags, and else those of the options of a file. The error response has
them too, if a flag is about it. -/
structure Arguments.Overrides (a : Arguments) (d : Defaults) (file o : Options) : Prop where
  fields : ∀ p ∈ optionFlags, o.toValue.field? p.2 = (a.value? p.1).or (file.toValue.field? p.2)
  error : (∀ p ∈ errorFlags, a.value? p.1 = none) → o.error = file.error
  errorFields : (∃ p ∈ errorFlags, a.value? p.1 ≠ none) → ∃ e, o.error = some e ∧
    (∃ path, a.value? .errorFile = some (.str path) ∧ e.source = .file path) ∧
    ∀ p ∈ errorFlags, e.toValue.field? p.2 = (a.value? p.1).or ((errorBase d file).field? p.2)

/-- A flag names a file for the error response, and the options of a file name another kind of source. -/
def Arguments.AddsSource (a : Arguments) (file : Options) : Prop :=
  a.value? .errorFile ≠ none ∧ ∃ e, file.error = some e ∧ ∀ path, e.source ≠ .file path

/-! ### Without a file -/

lemma value?_withoutFile (h : f ≠ .config) : a.withoutFile.value? f = a.value? f := by
  have hfilter : (fun p : Flag × Value => decide (p.1 ≠ .config)) = (·.1 != .config) := by
    funext p
    exact Bool.eq_iff_iff.2 (decide_eq_true_iff.trans bne_iff_ne.symm)
  unfold Arguments.withoutFile Arguments.value?
  rw [hfilter, lookup_filter_bne, if_neg (by simpa using h)]

lemma lookup_overrideFields_withoutFile {p : Flag × String} (hnodup : (flags.map Prod.snd).Nodup)
    (hconfig : ∀ p ∈ flags, p.1 ≠ .config) (hp : p ∈ flags) :
    (overrideFields a.withoutFile flags []).lookup p.2 = a.value? p.1 := by
  rw [lookup_overrideFields hnodup hp, value?_withoutFile (hconfig p hp)]
  exact Option.or_none

lemma configEntries_withoutFile : configEntries t a.withoutFile = .ok (fieldEntries []) := by
  have hnone : a.withoutFile.value? .config = none := by
    unfold Arguments.withoutFile Arguments.value?
    rw [List.lookup_eq_none_iff]
    intro p hp
    have hne : p.1 ≠ .config := by simpa only [decide_eq_true_eq] using (List.mem_filter.1 hp).2
    exact bne_iff_ne.2 hne.symm
  rw [configEntries, hnone]
  rfl

/-! ### What the file says -/

lemma exists_entriesOf? (h : fieldsOf? v = some fs) : ∃ es, entriesOf? v = some es := by
  unfold fieldsOf? at h
  unfold entriesOf?
  generalize v.inside = w at h ⊢
  cases w with
  | map fs => exact ⟨_, rfl⟩
  | table es => exact ⟨_, rfl⟩
  | _ => cases h

lemma isProper_of_entriesOf? (h : v.IsProper) (hes : entriesOf? v = some es) :
    (∀ e ∈ es, e.1.IsProper ∧ e.2.IsProper) ∧ (keys (textEntries es)).Nodup ∧
      fieldsOf? v = some (textEntries es) := by
  have hinside := h.inside
  unfold entriesOf? at hes
  unfold fieldsOf?
  generalize v.inside = w at hinside hes ⊢
  cases hinside with
  | @map fs hkeys h =>
    cases hes
    change (∀ e ∈ fieldEntries fs, _) ∧ (keys (textEntries (fieldEntries fs))).Nodup ∧
      some fs = some (textEntries (fieldEntries fs))
    rw [textEntries_fieldEntries]
    exact ⟨List.forall_mem_map.2 fun p hp => ⟨.atom rfl, h p hp⟩, hkeys, rfl⟩
  | table hkeys h h' =>
    cases hes
    exact ⟨fun e he => ⟨h e he, h' e he⟩, hkeys, rfl⟩
  | atom hatom => cases w <;> first | (cases hes; done) | cases hatom
  | _ => cases hes

lemma isProper_of_configEntries (h : configEntries t a = .ok es) :
    ∀ e ∈ es, e.1.IsProper ∧ e.2.IsProper := by
  unfold configEntries at h
  split at h
  · split at h
    · cases h
      exact nofun
    · unfold readEntries at h
      obtain ⟨bs, -, h⟩ := bind_eq_ok_iff.1 h
      obtain ⟨v, hv, h⟩ := bind_eq_ok_iff.1 h
      have hv : v.IsProper := isProper_of_read (mapError_eq_ok_iff.1 hv)
      split at h
      · cases h
        exact nofun
      · split at h
        · rename_i hes
          split at h <;> cases h
          exact fun e he => (isProper_of_entriesOf? hv hes).1 e (List.mem_filter.1 he).1
        · cases h
  · cases h
    exact nofun

lemma isProper_of_lookup {key : String} (h : configEntries t a = .ok (fieldEntries fs))
    (hv : fs.lookup key = some v) : v.IsProper :=
  have hmem : (.str key, v) ∈ fieldEntries fs := List.mem_map_of_mem (mem_of_lookup_eq_some hv)
  (isProper_of_configEntries h _ hmem).2

lemma eq_nil_of_isFalsy (h : isFalsy v = true) (hes : entriesOf? v = some es) : es = [] := by
  cases v with
  | map fs => cases fs <;> first | cases hes; rfl | cases h
  | table es' => cases es' <;> first | cases hes; rfl | cases h
  | shared id w =>
    cases w with
    | map fs => cases fs <;> first | cases hes; rfl | cases h
    | table es' => cases es' <;> first | cases hes; rfl | cases h
    | again i l => cases h
    | _ => cases hes
  | _ => cases hes

lemma isRead_of_optionsOf {o : Options} (h : optionsOf d (fieldEntries fs) = .ok o) :
    o.IsRead d [] fs := by
  rw [optionsOf_fieldEntries] at h
  exact (Options.ofValue_eq_ok_iff rfl).1 (mapError_eq_ok_iff.1 h)

lemma exists_fieldEntries_of_optionsOf {o : Options} (h : optionsOf d es = .ok o) :
    ∃ fs, es = fieldEntries fs := by
  unfold optionsOf at h
  split at h
  · cases h
  · rename_i fs hfs
    exact ⟨fs, mapM_textKey?_eq_some_iff.1 hfs⟩

/-- What a file whose options are right says of the error response: nothing, or the entries of a
mapping that names one source. -/
structure SaysOfError (d : Defaults) (fs : List (String × Value)) (r : Option ErrorResponse)
    (ees : List (Value × Value)) (p : ErrorParts) : Prop where
  entries : errorEntries (fs.lookup "error") = .ok ees
  isProper : ∀ e ∈ ees, e.1.IsProper
  nodup : (keys (textEntries ees)).Nodup
  isRead : p.IsRead d [.field "error"] (textEntries ees)
  response : (r = none ∧ ees = [] ∧ p = .initial d) ∨
    ∃ e, r = some e ∧ ees ≠ [] ∧ p.response? = some e

lemma exists_saysOfError {r : Option ErrorResponse}
    (hproper : ∀ v, fs.lookup "error" = some v → v.IsProper)
    (h : checkField [] fs "error" none (checkError d) = .ok r) :
    ∃ ees p, SaysOfError d fs r ees p := by
  have hnothing (hentries : errorEntries (fs.lookup "error") = .ok []) (hr : r = none) :
      SaysOfError d fs r [] (.initial d) :=
    ⟨hentries, nofun, List.nodup_nil, ⟨rfl, rfl, rfl, rfl, rfl, rfl⟩, .inl ⟨hr, rfl, rfl⟩⟩
  unfold checkField at h
  split at h
  · rename_i hnone
    cases h
    exact ⟨[], _, hnothing (by rw [hnone]; rfl) rfl⟩
  · rename_i v hv
    unfold checkError at h
    split at h
    · cases h
      exact ⟨[], _, hnothing (by rw [hv]; rfl) rfl⟩
    · obtain ⟨e, he, rfl⟩ := map_eq_ok_iff.1 h
      obtain ⟨efs, hefs⟩ := ErrorResponse.exists_fieldsOf? he
      obtain ⟨ees, hees⟩ := exists_entriesOf? hefs
      obtain ⟨hkeys, hnodup, hfields⟩ := isProper_of_entriesOf? (hproper v hv) hees
      obtain ⟨p, hp, hresponse⟩ := (ErrorResponse.ofValue_eq_ok_iff hfields).1 he
      have hne : ees ≠ [] := by
        rintro rfl
        exact absurd (hp.response?_of_nil.symm.trans hresponse) nofun
      have hfull : isFalsy v = false := Bool.eq_false_iff.2 fun h => hne (eq_nil_of_isFalsy h hees)
      refine ⟨ees, p, ?_, fun e he => (hkeys e he).1, hnodup, hp, .inr ⟨e, rfl, hne, hresponse⟩⟩
      rw [hv, errorEntries, Option.filter_some, hfull]
      simp only [Bool.not_false, if_true, hees]

/-! ### Options that are merged -/

lemma lookup_mergedFields_withoutFile {p : Flag × String} (hp : p ∈ optionFlags) :
    (mergedFields a.withoutFile [] []).lookup p.2 = a.value? p.1 := by
  rw [lookup_mergedFields hp, value?_withoutFile (by revert p; decide)]
  exact Option.or_none

lemma fieldsOf?_mapOf_override (a : Arguments) (hproper : ∀ e ∈ ees, e.1.IsProper)
    (hnodup : (keys (textEntries ees)).Nodup) :
    fieldsOf? (mapOf (override a errorFlags ees)) =
      some (overrideFields a errorFlags (textEntries ees)) := by
  obtain ⟨htexts, hkeys⟩ := textEntries_override a errorFlags hproper
  rw [fieldsOf?_mapOf hkeys, htexts, fieldsOf_of_nodup (nodup_keys_overrideFields hnodup)]

/-- Flags that are accepted by themselves and say something of the error response name a file for it. -/
lemma exists_source_of_flags {o : Options} (ha : a.IsTyped)
    (hread : o.IsRead d [] (mergedFields a.withoutFile [] []))
    (hsome : ∃ p ∈ errorFlags, a.value? p.1 ≠ none) :
    ∃ p path, ErrorParts.IsRead d [.field "error"] (overrideFields a.withoutFile errorFlags []) p ∧
      a.value? .errorFile = some (.str path) := by
  have hne : override a.withoutFile errorFlags [] ≠ [] := by
    refine override_ne_nil (hsome.imp fun p hp => ⟨hp.1, ?_⟩)
    rw [value?_withoutFile (by obtain ⟨hmem, -⟩ := hp; revert p; decide)]
    exact hp.2
  have herror := hread.error
  rw [checkField_error_mergedFields, if_neg (by rwa [List.isEmpty_iff])] at herror
  obtain ⟨e, he, -⟩ := map_eq_ok_iff.1 herror
  have hfields := fieldsOf?_mapOf_override a.withoutFile (List.forall_mem_nil _) List.nodup_nil
  obtain ⟨p, hp, hresponse⟩ := (ErrorResponse.ofValue_eq_ok_iff hfields).1 he
  obtain ⟨source, hsource, -⟩ := Option.map_eq_some_iff.1 hresponse
  -- no flag names a source of another kind
  have hschema : none = p.schema := by
    have h := hp.schema
    rw [checkField_of_none (lookup_overrideFields_of_ne (by decide))] at h
    exact Except.ok.inj h
  have htext : none = p.text := by
    have h := hp.text
    rw [checkField_of_none (lookup_overrideFields_of_ne (by decide))] at h
    exact Except.ok.inj h
  obtain ⟨v, -, hv, -⟩ | ⟨c, -, -, hc, -⟩ | ⟨path, -, -, -, hpath⟩ :=
    ErrorSource.ofFields?_eq_some_iff.1 hsource
  · rw [← hschema] at hv
    cases hv
  · rw [← htext] at hc
    cases hc
  · refine ⟨p, path, hp, ?_⟩
    have hfile := hp.file
    have hlookup : (overrideFields a.withoutFile errorFlags (textEntries [])).lookup
        "error_xsd_file_path" = a.value? .errorFile :=
      lookup_overrideFields_withoutFile (p := (.errorFile, "error_xsd_file_path")) (by decide)
        (by decide) (by decide)
    rw [checkField, hlookup, hpath] at hfile
    cases hv : a.value? .errorFile with
    | none => rw [hv] at hfile; cases hfile
    | some v =>
      rw [hv] at hfile
      exact congrArg some (eq_ofText_of_checkOptionalText rfl (ha.hasValue hv) hfile)

/-- The error response of the file stays where no flag is about it. -/
lemma checkField_error_of_none {r : Option ErrorResponse} {p : ErrorParts}
    (hnone : ∀ q ∈ errorFlags, a.value? q.1 = none) (hsaid : SaysOfError d fs r ees p)
    (hfile : checkField [] fs "error" none (checkError d) = .ok r) :
    checkField [] (mergedFields a fs ees) "error" none (checkError d) = .ok r := by
  rw [checkField_error_mergedFields, override_of_none hnone]
  rcases hsaid.response with ⟨-, rfl, -⟩ | ⟨e, rfl, hne, hresponse⟩
  · exact hfile
  · have hfields := fieldsOf?_mapOf_override a hsaid.isProper hsaid.nodup
    rw [override_of_none hnone, overrideFields_of_none hnone] at hfields
    rw [if_neg (by rwa [List.isEmpty_iff]),
      (ErrorResponse.ofValue_eq_ok_iff hfields).2 ⟨p, hsaid.isRead, hresponse⟩]
    rfl

/-- Where a flag is about the error response, the flags and what the file says of it make its parts, and
these have the file that the flags name. -/
lemma exists_merged_errorParts {r : Option ErrorResponse} {p₀ : ErrorParts} {o : Options}
    (ha : a.IsTyped) (hread : o.IsRead d [] (mergedFields a.withoutFile [] []))
    (hsome : ∃ q ∈ errorFlags, a.value? q.1 ≠ none) (hsaid : SaysOfError d fs r ees p₀) :
    ∃ (p : ErrorParts) (path : String), a.value? .errorFile = some (.str path) ∧
      p.file = some path ∧ p.schema = p₀.schema ∧ p.text = p₀.text ∧
      (∀ q ∈ errorFlags, p.toValue.field? q.2 = (a.value? q.1).or (p₀.toValue.field? q.2)) ∧
      checkField [] (mergedFields a fs ees) "error" none (checkError d) = match p.response? with
        | some e => .ok (some e)
        | none =>
          violation [.field "error"] (.invalid oneSource) (mapOf (override a errorFlags ees)) := by
  obtain ⟨p₁, path, hp₁, hpath⟩ := exists_source_of_flags ha hread hsome
  obtain ⟨p, hp, hschema, htext, hvalues⟩ := exists_isRead_errorParts ha
    (fun q hq => lookup_overrideFields (by decide) hq) (lookup_overrideFields_of_ne (by decide))
    (lookup_overrideFields_of_ne (by decide))
    (fun q hq => lookup_overrideFields_withoutFile (by decide) (by decide) hq) hsaid.isRead hp₁
  have hfile : p.file = some path := by
    have h : some (Value.ofText? p.file) = (a.value? .errorFile).or _ :=
      hvalues (.errorFile, "error_xsd_file_path") (by decide)
    rw [hpath] at h
    cases hf : p.file with
    | none => rw [hf] at h; cases h
    | some path' => rw [hf] at h; cases h; rfl
  refine ⟨p, path, hpath, hfile, hschema, htext, hvalues, ?_⟩
  have hne : override a errorFlags ees ≠ [] := override_ne_nil hsome
  rw [checkField_error_mergedFields, if_neg (by rwa [List.isEmpty_iff]),
    hp.ofValue_eq (fieldsOf?_mapOf_override a hsaid.isProper hsaid.nodup)]
  cases p.response? <;> rfl

lemma SaysOfError.errorBase_eq {o : Options} {p : ErrorParts} (h : SaysOfError d fs o.error ees p) :
    errorBase d o = p.toValue := by
  rw [errorBase]
  rcases h.response with ⟨hnone, -, rfl⟩ | ⟨e, he, -, hresponse⟩
  · rw [hnone]
    rfl
  · rw [he]
    exact ErrorParts.toValue_response hresponse

/-- The file names a source of another kind than a file just if its entries give one. -/
lemma SaysOfError.exists_source_ne_iff {r : Option ErrorResponse} {p : ErrorParts}
    (h : SaysOfError d fs r ees p) :
    (∃ e, r = some e ∧ ∀ path, e.source ≠ .file path) ↔ ¬ (p.schema = none ∧ p.text = none) := by
  rcases h.response with ⟨rfl, -, rfl⟩ | ⟨e, rfl, -, hresponse⟩
  · exact iff_of_false nofun fun h => h ⟨rfl, rfl⟩
  · obtain ⟨source, hsource, rfl⟩ := Option.map_eq_some_iff.1 hresponse
    rcases ErrorSource.ofFields?_eq_some_iff.1 hsource with
      ⟨v, rfl, hs, ht, hf⟩ | ⟨c, rfl, hs, ht, hf⟩ | ⟨path, rfl, hs, ht, hf⟩
    · exact iff_of_true ⟨_, rfl, nofun⟩ fun h => nomatch hs.symm.trans h.1
    · exact iff_of_true ⟨_, rfl, nofun⟩ fun h => nomatch ht.symm.trans h.2
    · refine iff_of_false ?_ fun h => h ⟨hs, ht⟩
      rintro ⟨e, ⟨⟩, he⟩
      exact he path rfl

/-- **Options from a file and from flags.** If both are accepted by themselves, both together are, and
what flags say counts, unless the flags add a source of the error response to one of another kind. Then
there are two sources. -/
theorem options_of_accepted {args : List String} {file flags : Options}
    (hargs : Arguments.ofList args = .ok a) (hes : configEntries t a = .ok es)
    (hfile : optionsOf d es = .ok file) (hflags : a.withoutFile.options t d = .ok flags) :
    (¬ a.AddsSource file → ∃ o, a.options t d = .ok o ∧ a.Overrides d file o) ∧
    (a.AddsSource file → ∃ v, a.options t d = .error (.invalid ⟨"GenerationOptions",
      [⟨[.field "error"], .invalid oneSource, v⟩]⟩)) := by
  have ha := isTyped_of_ofList hargs
  obtain ⟨fs, rfl⟩ := exists_fieldEntries_of_optionsOf hfile
  have hread := isRead_of_optionsOf hfile
  rw [options_eq_bind configEntries_withoutFile] at hflags
  have hflags := isRead_of_optionsOf hflags
  obtain ⟨ees, p₀, hsaid⟩ :=
    exists_saysOfError (fun v hv => isProper_of_lookup hes hv) hread.error
  obtain ⟨o, ho, hvalues⟩ := exists_isReadButError (mergedFields a fs ees) ha
    (fun p hp => lookup_mergedFields hp) (fun p hp => lookup_mergedFields_withoutFile hp)
    hread.toIsReadButError hflags.toIsReadButError
  rw [options_eq_bind hes, hsaid.entries, Except.bind, optionsOf_fieldEntries, ho.ofValue_eq rfl]
  by_cases hsome : ∃ q ∈ errorFlags, a.value? q.1 ≠ none
  · obtain ⟨p, path, hpath, hp, hschema, htext, hparts, herror⟩ :=
      exists_merged_errorParts ha hflags hsome hsaid
    have hadds : a.AddsSource file ↔ ¬ (p.schema = none ∧ p.text = none) := by
      rw [hschema, htext, ← hsaid.exists_source_ne_iff]
      exact and_iff_right (by rw [hpath]; exact Option.some_ne_none _)
    rw [herror, hadds, not_not]
    constructor
    · rintro ⟨hs, ht⟩
      have hresponse := ErrorParts.response?_of_file hs ht hp
      rw [hresponse]
      refine ⟨_, rfl, hvalues _, fun hnone => ?_, fun _ => ⟨_, rfl, ⟨path, hpath, rfl⟩, ?_⟩⟩
      · obtain ⟨q, hq, hv⟩ := hsome
        exact absurd (hnone q hq) hv
      · rw [hsaid.errorBase_eq, ErrorParts.toValue_response hresponse]
        exact hparts
    · intro hother
      rw [ErrorParts.response?_eq_none_of_file hp hother]
      exact ⟨_, rfl⟩
  · have hnone : ∀ q ∈ errorFlags, a.value? q.1 = none := fun q hq =>
      Classical.byContradiction fun h => hsome ⟨q, hq, h⟩
    have hadds : ¬ a.AddsSource file := fun h =>
      h.1 (hnone (.errorFile, "error_xsd_file_path") (by decide))
    rw [checkField_error_of_none hnone hsaid hread.error]
    exact ⟨fun _ => ⟨_, rfl, hvalues _, fun _ => rfl, fun h => absurd h hsome⟩,
      fun h => absurd h hadds⟩

/-! ### A file and flags that each name a source -/

/-- Arguments with an options file and a file for the error response. -/
def sourceArguments : List String := ["-i", "a.xsd", "--config", "o.yaml", "--error-xsd", "e.xsd"]

/-- The values in these arguments. -/
def sourceValues : Arguments :=
  ⟨[(.errorFile, .str "e.xsd"), (.config, .str "o.yaml"), (.input, .str "a.xsd")], []⟩

/-- An options file that names a file for the error response and a type in it. -/
def otherFileText : List Char :=
  ['e', 'r', 'r', 'o', 'r', ':', '\n', ' ', ' ',
    'e', 'r', 'r', 'o', 'r', '_', 'x', 's', 'd', '_', 'f', 'i', 'l', 'e', '_', 'p', 'a', 't', 'h', ':',
    ' ', 'x', '\n', ' ', ' ',
    'e', 'r', 'r', 'o', 'r', '_', 't', 'y', 'p', 'e', '_', 'n', 'a', 'm', 'e', ':', ' ', 't', '\n']

/-- An options file that gives the text of a schema for the error response. -/
def schemaText : List Char :=
  ['e', 'r', 'r', 'o', 'r', ':', '\n', ' ', ' ',
    'e', 'r', 'r', 'o', 'r', '_', 'x', 's', 'd', '_', 'c', 'o', 'n', 't', 'e', 'n', 't', ':',
    ' ', 'x', '\n']

lemma ofList_sourceArguments : Arguments.ofList sourceArguments = .ok sourceValues := rfl

lemma configEntries_otherFileText : configEntries (optionsTree otherFileText) sourceValues =
    .ok [(.str "error", .shared ⟨3, 0, 0⟩ (.map [("error_xsd_file_path", .str "x"),
      ("error_type_name", .str "t")]))] := by
  have htokens : Tokens.ofText otherFileText none = ⟨[.blockMapping, .key, .scalar "error" true, .value,
      .blockMapping, .key, .scalar "error_xsd_file_path" true, .value, .scalar "x" true, .key,
      .scalar "error_type_name" true, .value, .scalar "t" true, .blockEnd, .blockEnd, .streamEnd],
      none⟩ := by
    decide +kernel
  have hv : fileValue (Text.encode otherFileText) = .ok (.shared ⟨1, 0, 0⟩ (.map [("error",
      .shared ⟨3, 0, 0⟩ (.map [("error_xsd_file_path", .str "x"), ("error_type_name", .str "t")]))])) :=
    fileValue_encode (by decide +kernel) htokens rfl rfl
  exact configEntries_optionsTree rfl hv rfl rfl rfl rfl

lemma configEntries_schemaText : configEntries (optionsTree schemaText) sourceValues =
    .ok [(.str "error", .shared ⟨3, 0, 0⟩ (.map [("error_xsd_content", .str "x")]))] := by
  have htokens : Tokens.ofText schemaText none = ⟨[.blockMapping, .key, .scalar "error" true, .value,
      .blockMapping, .key, .scalar "error_xsd_content" true, .value, .scalar "x" true, .blockEnd,
      .blockEnd, .streamEnd], none⟩ := by
    decide +kernel
  have hv : fileValue (Text.encode schemaText) = .ok (.shared ⟨1, 0, 0⟩ (.map [("error",
      .shared ⟨3, 0, 0⟩ (.map [("error_xsd_content", .str "x")]))])) :=
    fileValue_encode (by decide +kernel) htokens rfl rfl
  exact configEntries_optionsTree rfl hv rfl rfl rfl rfl

/-- The error response of the flags alone. -/
def flagsResponse : ErrorResponse := ⟨.file "e.xsd", none, "500", "Internal server error"⟩

/-- The options of the flags alone. -/
def flagsOptions : Options := { Defaults.standard.options with error := some flagsResponse }

lemma options_withoutFile_sourceValues {text : List Char} :
    sourceValues.withoutFile.options (optionsTree text) .standard = .ok flagsOptions := rfl

/-- Flags that name another file than the options file does: theirs counts, and the type that the
options file names stays. -/
theorem options_of_accepted_otherFile :
    ∃ es file, Arguments.ofList sourceArguments = .ok sourceValues ∧
      configEntries (optionsTree otherFileText) sourceValues = .ok es ∧
      optionsOf .standard es = .ok file ∧
      sourceValues.withoutFile.options (optionsTree otherFileText) .standard = .ok flagsOptions ∧
      ¬ sourceValues.AddsSource file ∧
      ∃ o, sourceValues.options (optionsTree otherFileText) .standard = .ok o ∧
        sourceValues.Overrides .standard file o := by
  have hsource : ¬ sourceValues.AddsSource { Defaults.standard.options with
      error := some ⟨.file "x", some "t", "500", "Internal server error"⟩ } := by
    rintro ⟨-, e, ⟨⟩, he⟩
    exact he "x" rfl
  exact ⟨_, _, ofList_sourceArguments, configEntries_otherFileText, rfl,
    options_withoutFile_sourceValues, hsource,
    (options_of_accepted ofList_sourceArguments configEntries_otherFileText rfl
      options_withoutFile_sourceValues).1 hsource⟩

/-- Flags that name a file where the options file gives a text: both are accepted by themselves, and
together they are refused. -/
theorem options_of_schemaText :
    Arguments.ofList sourceArguments = .ok sourceValues ∧
    (∃ es file, configEntries (optionsTree schemaText) sourceValues = .ok es ∧
      optionsOf .standard es = .ok file) ∧
    sourceValues.withoutFile.options (optionsTree schemaText) .standard = .ok flagsOptions ∧
    sourceValues.options (optionsTree schemaText) .standard = .error (.invalid ⟨"GenerationOptions",
      [⟨[.field "error"], .invalid oneSource,
        .map [("error_xsd_content", .str "x"), ("error_xsd_file_path", .str "e.xsd")]⟩]⟩) := by
  refine ⟨ofList_sourceArguments, ⟨_, _, configEntries_schemaText, rfl⟩,
    options_withoutFile_sourceValues, ?_⟩
  rw [Arguments.options, configEntries_schemaText]
  rfl

end ApiContract.CommandLine
