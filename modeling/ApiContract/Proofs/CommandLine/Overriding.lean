import ApiContract.CommandLine.Options
import ApiContract.Proofs.CommandLine.Arguments
import ApiContract.Proofs.Options.Reader
import ApiContract.Proofs.Yaml.Meaning

/-!
Flags in the place of what a file says. A flag sets a field and leaves the other ones
(`lookup_overrideFields`), among entries as among fields (`textEntries_override`). Where the file's own
value of a field is accepted and the flag's value is, the field that both make is accepted, with the
value of the flag if there is one (`exists_checkField`).
-/

namespace ApiContract.CommandLine

open ApiContract.Files ApiContract.Yaml

variable {t : Tree} {d : Defaults} {a : Arguments} {es ees : List (Value × Value)}
  {fs efs : List (String × Value)} {flags : List (Flag × String)} {place : List Step} {f : Flag}
  {name key : String} {v : Value}

/-! ### Flags in the place of fields -/

/-- Fields with the values of flags in the place of their own. -/
def overrideFields (a : Arguments) (flags : List (Flag × String)) (fs : List (String × Value)) :
    List (String × Value) :=
  flags.foldl (fun fs p => match a.value? p.1 with
    | some v => putField p.2 v fs
    | none => fs) fs

lemma overrideFields_cons_of_none {p : Flag × String} (h : a.value? p.1 = none) :
    overrideFields a (p :: flags) fs = overrideFields a flags fs := by
  simp only [overrideFields, List.foldl_cons, h]

lemma overrideFields_cons_of_some {p : Flag × String} (h : a.value? p.1 = some v) :
    overrideFields a (p :: flags) fs = overrideFields a flags (putField p.2 v fs) := by
  simp only [overrideFields, List.foldl_cons, h]

lemma lookup_overrideFields_of_ne (h : ∀ p ∈ flags, p.2 ≠ key) :
    (overrideFields a flags fs).lookup key = fs.lookup key := by
  induction flags generalizing fs with
  | nil => rfl
  | cons p flags ih =>
    obtain ⟨hp, h⟩ := List.forall_mem_cons.1 h
    cases hv : a.value? p.1 with
    | none => rw [overrideFields_cons_of_none hv, ih h]
    | some v => rw [overrideFields_cons_of_some hv, ih h, lookup_putField, if_neg hp.symm]

/-- The value of a flag counts, and else that of the field. -/
lemma lookup_overrideFields {p : Flag × String} (hnodup : (flags.map Prod.snd).Nodup)
    (hp : p ∈ flags) :
    (overrideFields a flags fs).lookup p.2 = (a.value? p.1).or (fs.lookup p.2) := by
  induction flags generalizing fs with
  | nil => cases hp
  | cons q flags ih =>
    obtain ⟨hq, hnodup⟩ := List.nodup_cons.1 hnodup
    rcases List.mem_cons.1 hp with rfl | hp
    · have hne : ∀ q ∈ flags, q.2 ≠ p.2 := fun q hmem h => hq (h ▸ List.mem_map_of_mem hmem)
      cases hv : a.value? p.1 with
      | none => rw [overrideFields_cons_of_none hv, lookup_overrideFields_of_ne hne, Option.none_or]
      | some v =>
        rw [overrideFields_cons_of_some hv, lookup_overrideFields_of_ne hne, lookup_putField,
          if_pos rfl, Option.some_or]
    · have hne : p.2 ≠ q.2 := fun h => hq (h ▸ List.mem_map_of_mem hp)
      cases hv : a.value? q.1 with
      | none => rw [overrideFields_cons_of_none hv, ih hnodup hp]
      | some v => rw [overrideFields_cons_of_some hv, ih hnodup hp, lookup_putField, if_neg hne]

lemma nodup_keys_overrideFields (h : (keys fs).Nodup) :
    (keys (overrideFields a flags fs)).Nodup := by
  induction flags generalizing fs with
  | nil => exact h
  | cons p flags ih =>
    cases hv : a.value? p.1 with
    | none => rw [overrideFields_cons_of_none hv]; exact ih h
    | some v => rw [overrideFields_cons_of_some hv]; exact ih (nodup_keys_putField h)

lemma overrideFields_of_none (h : ∀ p ∈ flags, a.value? p.1 = none) :
    overrideFields a flags fs = fs := by
  induction flags with
  | nil => rfl
  | cons p flags ih =>
    obtain ⟨hp, h⟩ := List.forall_mem_cons.1 h
    rw [overrideFields_cons_of_none hp, ih h]

/-! ### Flags in the place of entries -/

lemma override_cons_of_none {p : Flag × String} (h : a.value? p.1 = none) :
    override a (p :: flags) es = override a flags es := by
  simp only [override, List.foldl_cons, h]

lemma override_cons_of_some {p : Flag × String} (h : a.value? p.1 = some v) :
    override a (p :: flags) es = override a flags (putEntry (.str p.2) v es) := by
  simp only [override, List.foldl_cons, h]

lemma putEntry_ne_nil (key v : Value) (es : List (Value × Value)) : putEntry key v es ≠ [] := by
  cases es with
  | nil => exact List.cons_ne_nil _ _
  | cons e es => unfold putEntry; split <;> exact List.cons_ne_nil _ _

lemma override_fieldEntries (fs : List (String × Value)) :
    override a flags (fieldEntries fs) = fieldEntries (overrideFields a flags fs) := by
  induction flags generalizing fs with
  | nil => rfl
  | cons p flags ih =>
    cases hv : a.value? p.1 with
    | none => rw [override_cons_of_none hv, overrideFields_cons_of_none hv, ih]
    | some v =>
      rw [override_cons_of_some hv, overrideFields_cons_of_some hv, putEntry_fieldEntries, ih]

lemma lookupEntry_fieldEntries (k : String) (fs : List (String × Value)) :
    lookupEntry k (fieldEntries fs) = fs.lookup k := by
  induction fs with
  | nil => rfl
  | cons p fs ih =>
    obtain ⟨j, w⟩ := p
    rw [lookup_pair, fieldEntries, List.map_cons, lookupEntry, List.find?_cons, sameKey_str]
    by_cases hj : k = j
    · subst hj
      rw [beq_self_eq_true, if_pos rfl]
      rfl
    · rw [beq_false_of_ne (Ne.symm hj), if_neg hj]
      exact ih

/-- Flags do to the texts among the keys what they do to fields, and leave the keys well made. -/
lemma textEntries_override (a : Arguments) (flags : List (Flag × String))
    (hes : ∀ e ∈ es, e.1.IsProper) :
    textEntries (override a flags es) = overrideFields a flags (textEntries es) ∧
      ∀ e ∈ override a flags es, e.1.IsProper := by
  induction flags generalizing es with
  | nil => exact ⟨rfl, hes⟩
  | cons p flags ih =>
    cases hv : a.value? p.1 with
    | none =>
      rw [override_cons_of_none hv, overrideFields_cons_of_none hv]
      exact ih hes
    | some v =>
      have hput : ∀ e ∈ putEntry (.str p.2) v es, e.1.IsProper := fun e he =>
        (forall_mem_putEntry (Q := fun _ => True) (fun e he => ⟨hes e he, trivial⟩) (.atom rfl) trivial
          e he).1
      rw [override_cons_of_some hv, overrideFields_cons_of_some hv, ← textEntries_putEntry_str hes]
      exact ih hput

lemma override_ne_nil_of_ne_nil (h : es ≠ []) : override a flags es ≠ [] := by
  induction flags generalizing es with
  | nil => exact h
  | cons p flags ih =>
    cases hv : a.value? p.1 with
    | none => rw [override_cons_of_none hv]; exact ih h
    | some v => rw [override_cons_of_some hv]; exact ih (putEntry_ne_nil _ _ _)

lemma override_ne_nil (h : ∃ p ∈ flags, a.value? p.1 ≠ none) : override a flags es ≠ [] := by
  induction flags generalizing es with
  | nil => obtain ⟨p, hp, -⟩ := h; cases hp
  | cons q flags ih =>
    cases hv : a.value? q.1 with
    | some v =>
      rw [override_cons_of_some hv]
      exact override_ne_nil_of_ne_nil (putEntry_ne_nil _ _ _)
    | none =>
      obtain ⟨p, hp, hpv⟩ := h
      rw [override_cons_of_none hv]
      refine ih ⟨p, (List.mem_cons.1 hp).resolve_left ?_, hpv⟩
      rintro rfl
      exact hpv hv

lemma override_of_none (h : ∀ p ∈ flags, a.value? p.1 = none) : override a flags es = es := by
  induction flags with
  | nil => rfl
  | cons p flags ih =>
    obtain ⟨hp, h⟩ := List.forall_mem_cons.1 h
    rw [override_cons_of_none hp, ih h]

/-! ### What a file and flags make -/

lemma optionsOf_fieldEntries (fs : List (String × Value)) :
    optionsOf d (fieldEntries fs) =
      (Options.ofValue d [] (.map fs)).mapError fun vs => .invalid ⟨"GenerationOptions", vs⟩ := by
  rw [optionsOf, mapM_textKey?_eq_some_iff.2 rfl]

/-- The fields of a file with the values of flags, where the file has the given entries for the error
response. -/
def mergedFields (a : Arguments) (fs : List (String × Value)) (ees : List (Value × Value)) :
    List (String × Value) :=
  if (override a errorFlags ees).isEmpty then overrideFields a optionFlags fs
  else putField "error" (mapOf (override a errorFlags ees)) (overrideFields a optionFlags fs)

/-- Once its fields are known, what a file says of the error response decides what is read. -/
lemma options_eq_bind (hes : configEntries t a = .ok (fieldEntries fs)) :
    a.options t d = (errorEntries (fs.lookup "error")).bind fun ees =>
      optionsOf d (fieldEntries (mergedFields a fs ees)) := by
  have hmerge : mergeEntries a (fieldEntries fs) =
      (errorEntries (fs.lookup "error")).bind fun ees => .ok (fieldEntries (mergedFields a fs ees)) := by
    have hlookup : (overrideFields a optionFlags fs).lookup "error" = fs.lookup "error" :=
      lookup_overrideFields_of_ne (by decide)
    unfold mergeEntries
    simp only [override_fieldEntries, lookupEntry_fieldEntries, hlookup]
    refine bind_congr_of_ok fun ees _ => ?_
    unfold mergedFields
    split
    · rfl
    · exact congrArg Except.ok (putEntry_fieldEntries _ _ _)
  rw [Arguments.options, hes]
  change (mergeEntries a (fieldEntries fs)).bind (optionsOf d) = _
  rw [hmerge]
  cases errorEntries (fs.lookup "error") <;> rfl

lemma lookup_mergedFields {p : Flag × String} (hp : p ∈ optionFlags) :
    (mergedFields a fs ees).lookup p.2 = (a.value? p.1).or (fs.lookup p.2) := by
  have hne : p.2 ≠ "error" := by revert p; decide
  unfold mergedFields
  split
  · exact lookup_overrideFields (by decide) hp
  · rw [lookup_putField, if_neg hne, lookup_overrideFields (by decide) hp]

/-- The error response is that of the file where neither has entries for it, and else it is read from
the merged entries. -/
lemma checkField_error_mergedFields :
    checkField [] (mergedFields a fs ees) "error" none (checkError d) =
      if (override a errorFlags ees).isEmpty then checkField [] fs "error" none (checkError d)
      else (ErrorResponse.ofValue d [.field "error"] (mapOf (override a errorFlags ees))).map some := by
  unfold mergedFields
  split
  · rw [checkField, lookup_overrideFields_of_ne (by decide), ← checkField]
  · rw [checkField, lookup_putField, if_pos rfl]
    rcases mapOf_eq (override a errorFlags ees) with ⟨fs, hmap, -⟩ | htable
    · rw [hmap]
      rfl
    · rw [htable]
      rfl

/-! ### Values of flags that are accepted -/

section FlagValues

variable {s : String} {m : Method} {r : Option String} (hf : f.takesValue = true)
  (hv : f.HasValue v)

include hf hv

lemma eq_str_of_checkText (h : checkText place v = .ok s) : v = .str s := by
  rw [Flag.HasValue, hf, if_pos rfl] at hv
  rcases hv with ⟨s', rfl⟩ | rfl <;> cases h
  rfl

lemma eq_str_of_checkSuffix (h : checkSuffix place v = .ok s) : v = .str s := by
  unfold checkSuffix at h
  split at h
  · rename_i s' hs
    split at h <;> cases h
    exact eq_str_of_checkText hf hv hs
  · cases h

lemma eq_str_of_checkMethod (h : checkMethod place v = .ok m) : v = .str m.text := by
  rw [Flag.HasValue, hf, if_pos rfl] at hv
  rcases hv with ⟨s, rfl⟩ | rfl
  · unfold checkMethod at h
    simp only at h
    split at h <;> cases h
    rename_i hm
    have hname : (m.text == s) = true := List.find?_some (p := fun m : Method => m.text == s) hm
    exact congrArg Value.str (eq_of_beq hname).symm
  · cases h

lemma eq_ofText_of_checkOptionalText (h : checkOptionalText place v = .ok r) : v = .ofText? r := by
  rw [Flag.HasValue, hf, if_pos rfl] at hv
  rcases hv with ⟨s, rfl⟩ | rfl <;> cases h
  rfl

lemma eq_str_of_checkStatus (h : checkStatus place v = .ok s) : v = .str s := by
  rw [Flag.HasValue, hf, if_pos rfl] at hv
  rcases hv with ⟨s', rfl⟩ | rfl <;> cases h
  rfl

end FlagValues

lemma eq_bool_of_checkBool {b : Bool} (hv : Flag.nameInPath.HasValue v)
    (h : checkBool place v = .ok b) : v = .bool b := by
  have hv : v = .bool true := hv
  rw [hv] at h ⊢
  cases h
  rfl

/-! ### Fields that are merged -/

variable {gs fs' : List (String × Value)}

/-- A field that a flag sets has its value, and else that of the file; both are accepted already. -/
lemma exists_checkField {α : Type} {check : List Step → Value → Checked α} (value : α → Value)
    {default x y : α} (ha : a.IsTyped)
    (hvalue : ∀ {place v z}, f.HasValue v → check place v = .ok z → v = value z)
    (hgs : gs.lookup name = (a.value? f).or (fs.lookup name)) (hfs' : fs'.lookup name = a.value? f)
    (hfile : checkField place fs name default check = .ok x)
    (hflags : checkField place fs' name default check = .ok y) :
    ∃ z, checkField place gs name default check = .ok z ∧
      some (value z) = (a.value? f).or (some (value x)) := by
  unfold checkField at hfile hflags ⊢
  rw [hgs]
  rw [hfs'] at hflags
  cases hv : a.value? f with
  | none => exact ⟨x, hfile, rfl⟩
  | some v =>
    rw [hv] at hflags
    exact ⟨y, hflags, congrArg some (hvalue (ha.hasValue hv) hflags).symm⟩

lemma exists_isReadButError {file flags : Options} (gs : List (String × Value)) (ha : a.IsTyped)
    (hgs : ∀ p ∈ optionFlags, gs.lookup p.2 = (a.value? p.1).or (fs.lookup p.2))
    (hfs' : ∀ p ∈ optionFlags, fs'.lookup p.2 = a.value? p.1)
    (hfile : file.IsReadButError d place fs) (hflags : flags.IsReadButError d place fs') :
    ∃ o : Options, o.IsReadButError d place gs ∧ ∀ error, ∀ p ∈ optionFlags,
      ({ o with error := error } : Options).toValue.field? p.2 =
        (a.value? p.1).or (file.toValue.field? p.2) := by
  simp only [optionFlags, List.forall_mem_cons] at hgs hfs'
  obtain ⟨g₁, g₂, g₃, g₄, g₅, g₆, -⟩ := hgs
  obtain ⟨h₁, h₂, h₃, h₄, h₅, h₆, -⟩ := hfs'
  obtain ⟨request, hr, hr'⟩ := exists_checkField Value.str ha (eq_str_of_checkSuffix rfl)
    g₁ h₁ hfile.requestSuffix hflags.requestSuffix
  obtain ⟨response, hs, hs'⟩ := exists_checkField Value.str ha (eq_str_of_checkSuffix rfl)
    g₂ h₂ hfile.responseSuffix hflags.responseSuffix
  obtain ⟨nameInPath, hn, hn'⟩ := exists_checkField Value.bool ha eq_bool_of_checkBool
    g₃ h₃ hfile.nameInPath hflags.nameInPath
  obtain ⟨method, hm, hm'⟩ := exists_checkField (fun m => Value.str m.text) ha
    (eq_str_of_checkMethod rfl) g₄ h₄ hfile.method hflags.method
  obtain ⟨contentType, hc, hc'⟩ := exists_checkField Value.str ha (eq_str_of_checkText rfl)
    g₅ h₅ hfile.contentType hflags.contentType
  obtain ⟨defaultType, ht, ht'⟩ := exists_checkField Value.str ha (eq_str_of_checkText rfl)
    g₆ h₆ hfile.defaultType hflags.defaultType
  refine ⟨⟨request, response, nameInPath, method, contentType, defaultType, none⟩,
    ⟨hr, hs, hn, hm, hc, ht⟩, fun error => ?_⟩
  simp only [optionFlags, List.forall_mem_cons]
  exact ⟨hr', hs', hn', hm', hc', ht', List.forall_mem_nil _⟩

lemma exists_isRead_errorParts {p₀ p₁ : ErrorParts} (ha : a.IsTyped)
    (hgs : ∀ q ∈ errorFlags, gs.lookup q.2 = (a.value? q.1).or (efs.lookup q.2))
    (hschema : gs.lookup "error_schema" = efs.lookup "error_schema")
    (htext : gs.lookup "error_xsd_content" = efs.lookup "error_xsd_content")
    (hfs' : ∀ q ∈ errorFlags, fs'.lookup q.2 = a.value? q.1)
    (hfile : p₀.IsRead d place efs) (hflags : p₁.IsRead d place fs') :
    ∃ p : ErrorParts, p.IsRead d place gs ∧ p.schema = p₀.schema ∧ p.text = p₀.text ∧
      ∀ q ∈ errorFlags, p.toValue.field? q.2 = (a.value? q.1).or (p₀.toValue.field? q.2) := by
  simp only [errorFlags, List.forall_mem_cons] at hgs hfs'
  obtain ⟨g₁, g₂, g₃, g₄, -⟩ := hgs
  obtain ⟨h₁, h₂, h₃, h₄, -⟩ := hfs'
  obtain ⟨file, hf, hf'⟩ := exists_checkField Value.ofText? ha
    (eq_ofText_of_checkOptionalText rfl) g₁ h₁ hfile.file hflags.file
  obtain ⟨typeName, hn, hn'⟩ := exists_checkField Value.ofText? ha
    (eq_ofText_of_checkOptionalText rfl) g₂ h₂ hfile.typeName hflags.typeName
  obtain ⟨status, hs, hs'⟩ := exists_checkField Value.str ha (eq_str_of_checkStatus rfl)
    g₃ h₃ hfile.status hflags.status
  obtain ⟨description, hd, hd'⟩ := exists_checkField Value.str ha (eq_str_of_checkText rfl)
    g₄ h₄ hfile.description hflags.description
  have hschema : checkField place gs "error_schema" none checkOptionalMap = .ok p₀.schema := by
    rw [checkField, hschema]
    exact hfile.schema
  have htext : checkField place gs "error_xsd_content" none checkOptionalText = .ok p₀.text := by
    rw [checkField, htext]
    exact hfile.text
  refine ⟨⟨p₀.schema, p₀.text, file, typeName, status, description⟩,
    ⟨hschema, htext, hf, hn, hs, hd⟩, rfl, rfl, ?_⟩
  simp only [errorFlags, List.forall_mem_cons]
  exact ⟨hf', hn', hs', hd', List.forall_mem_nil _⟩

end ApiContract.CommandLine
