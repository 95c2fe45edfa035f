import ApiContract.Environment
import ApiContract.Proofs.Text.Quoted

/-!
What the warnings about the configuration tell of the token. Every reader of a variable looks at this variable
only, and warns of blanks around its value by showing the value. The token goes through the same reader as all
else: so two tokens lead to the same warnings for just those pairs of them that are equal or that both have no
blanks at their ends, and a token with such blanks is shown (`configWarnings_eq_iff`).
-/

namespace ApiContract.Environment

open ApiContract.Text

variable {env env' : Environment} {key default t t' : String}

/-- The variable of the token. -/
def tokenVariable : String := "XSD_OPENAPI_API_TOKEN"

/-- The warnings on the way to the whole configuration: the defaults of options, and the limits and the
credentials of the service. -/
def configWarnings (env : Environment) : List String :=
  env.defaults.warnings ++ env.serviceConfig.warnings

/-- Two environments differ in one variable at most. -/
def SameApartFrom (key : String) (env env' : Environment) : Prop :=
  ∀ k, k ≠ key → env.lookup k = env'.lookup k

/-! ### Readers of one variable -/

lemma clean?_congr (h : env.lookup key = env'.lookup key) (default : Option String) :
    env.clean? key default = env'.clean? key default := by
  rw [clean?, clean?, h]

lemma text_congr (h : env.lookup key = env'.lookup key) : env.text key default = env'.text key default := by
  rw [text, text, clean?_congr h]

lemma find_congr {α : Type} {kind : String} {read : String → Option α}
    (h : env.lookup key = env'.lookup key) : env.find key kind read = env'.find key kind read := by
  rw [find, find, clean?_congr h]

lemma method_congr {d : Method} (h : env.lookup key = env'.lookup key) :
    env.method key d = env'.method key d := by
  rw [method, method, choice, choice, find_congr h]

lemma list_congr {sep : Separator} (h : env.lookup key = env'.lookup key) :
    env.list key sep = env'.list key sep := by
  rw [list, list, clean?_congr h]

/-- **The warning about a text shows it, and there is one just for blanks at its ends.** -/
lemma warnings_text (h : env.lookup key = some t) : (env.text key default).warnings =
    if strip t = t then [] else ["Environment variable " ++ key ++ " had surrounding whitespace: " ++
      quoted t ++ " -> " ++ quoted (strip t)] := by
  rw [text, clean?, h]
  rfl

lemma warnings_text_of_unset (h : env.lookup key = none) (hdefault : strip default = default) :
    (env.text key default).warnings = [] := by
  rw [text, clean?, h]
  exact if_pos hdefault

/-- Two texts lead to the same warnings if they are equal or neither has blanks at its ends. -/
lemma warnings_text_eq_iff (h : env.lookup key = some t) (h' : env'.lookup key = some t') :
    (env.text key default).warnings = (env'.text key default).warnings ↔
      t = t' ∨ strip t = t ∧ strip t' = t' := by
  rw [warnings_text h, warnings_text h']
  constructor
  · intro heq
    split_ifs at heq with hs hs' hs'
    · exact .inr ⟨hs, hs'⟩
    · have hmessage := congrArg String.toList (List.cons.inj heq).1
      simp only [String.toList_append, List.append_assoc, List.append_cancel_left_eq] at hmessage
      exact .inl (quoted_append_inj hmessage)
  · rintro (rfl | ⟨hs, hs'⟩)
    · rfl
    · rw [if_pos hs, if_pos hs']

/-! ### The configuration -/

/-- The warnings about the limits and the origins of the service. -/
def limitWarnings (env : Environment) : List String :=
  ((env.int "XSD_OPENAPI_OPERATION_TIMEOUT").orDefault "XSD_OPENAPI_OPERATION_TIMEOUT"
    ServiceConfig.standard.timeout Number.intText).warnings ++
  (((env.int "XSD_OPENAPI_MAX_UPLOAD_BYTES").orDefault "XSD_OPENAPI_MAX_UPLOAD_BYTES"
    ServiceConfig.standard.uploadLimit Number.intText).warnings ++
  (env.list "CORS_ORIGINS" (.text ",")).warnings)

lemma configWarnings_eq (env : Environment) : env.configWarnings =
    env.defaults.warnings ++ ((env.text tokenVariable defaultToken).warnings ++ env.limitWarnings) := by
  simp only [configWarnings, serviceConfig, limitWarnings, List.append_assoc]
  rfl

lemma defaults_congr (h : SameApartFrom tokenVariable env env') : env.defaults = env'.defaults := by
  have hkey : ∀ k ∈ defaultVariables, env.lookup k = env'.lookup k := by
    intro k hk
    refine h k ?_
    rintro rfl
    revert hk
    decide
  simp only [defaultVariables, List.forall_mem_cons, List.not_mem_nil, false_implies, implies_true,
    and_true] at hkey
  obtain ⟨h₁, h₂, h₃, h₄, h₅, h₆, h₇, h₈⟩ := hkey
  simp only [defaults, bool, text_congr h₁, text_congr h₂, find_congr h₃, method_congr h₄, text_congr h₅,
    text_congr h₆, text_congr h₇, text_congr h₈]

lemma limitWarnings_congr (h : SameApartFrom tokenVariable env env') :
    env.limitWarnings = env'.limitWarnings := by
  have h₁ := h "XSD_OPENAPI_OPERATION_TIMEOUT" (by decide)
  have h₂ := h "XSD_OPENAPI_MAX_UPLOAD_BYTES" (by decide)
  have h₃ := h "CORS_ORIGINS" (by decide)
  simp only [limitWarnings, int, find_congr h₁, find_congr h₂, list_congr h₃]

/-- Environments that differ in the token only lead to the same warnings if those about the token are. -/
lemma configWarnings_congr_iff (h : SameApartFrom tokenVariable env env') :
    env.configWarnings = env'.configWarnings ↔
      (env.text tokenVariable defaultToken).warnings = (env'.text tokenVariable defaultToken).warnings := by
  rw [configWarnings_eq, configWarnings_eq, defaults_congr h, limitWarnings_congr h,
    List.append_cancel_left_eq, List.append_cancel_right_eq]

/-- **The warnings about the configuration tell nothing of a token without blanks at its ends, and show any
other one.** Environments that both set the token and differ in nothing else lead to the same warnings if and
only if the tokens are equal or both have no blanks at their ends. The warnings for a token without such blanks
are those where none is set; a token with some of them is shown in quotes. -/
theorem configWarnings_eq_iff (h : SameApartFrom tokenVariable env env')
    (ht : env.lookup tokenVariable = some t) (ht' : env'.lookup tokenVariable = some t') :
    (env.configWarnings = env'.configWarnings ↔ t = t' ∨ strip t = t ∧ strip t' = t') ∧
    (strip t = t → ∀ env₀, SameApartFrom tokenVariable env env₀ → env₀.lookup tokenVariable = none →
      env.configWarnings = env₀.configWarnings) ∧
    (strip t ≠ t → ∃ m ∈ env.configWarnings, (quoted t).toList <:+: m.toList) := by
  refine ⟨?_, fun hs env₀ h₀ hunset => ?_, fun hs => ?_⟩
  · rw [configWarnings_congr_iff h, warnings_text_eq_iff ht ht']
  · have hdefault : strip defaultToken = defaultToken := by decide
    rw [configWarnings_congr_iff h₀, warnings_text ht, if_pos hs, warnings_text_of_unset hunset hdefault]
  · rw [configWarnings_eq, warnings_text ht, if_neg hs]
    refine ⟨_, List.mem_append_right _ (List.mem_append_left _ List.mem_cons_self), ?_⟩
    refine ⟨"Environment variable ".toList ++ tokenVariable.toList ++
      " had surrounding whitespace: ".toList, " -> ".toList ++ (quoted (strip t)).toList, ?_⟩
    simp only [String.toList_append, List.append_assoc]

lemma sameApartFrom_cons (key t t' : String) (env : Environment) :
    SameApartFrom key ((key, t) :: env) ((key, t') :: env) := by
  intro k hk
  have hne : (k == key) = false := beq_false_of_ne hk
  rw [List.lookup_cons, List.lookup_cons, hne]

/-- Two tokens without blanks at their ends, one of them with blanks inside and one empty, lead to the same
warning about the origins. -/
theorem configWarnings_eq_iff_plain :
    SameApartFrom tokenVariable [(tokenVariable, "s3 cret"), ("CORS_ORIGINS", " *")]
      [(tokenVariable, ""), ("CORS_ORIGINS", " *")] ∧
    configWarnings [(tokenVariable, "s3 cret"), ("CORS_ORIGINS", " *")] =
      configWarnings [(tokenVariable, ""), ("CORS_ORIGINS", " *")] ∧
    configWarnings [(tokenVariable, "s3 cret"), ("CORS_ORIGINS", " *")] =
      ["Environment variable CORS_ORIGINS had surrounding whitespace: ' *' -> '*'"] := by
  have hsame := sameApartFrom_cons tokenVariable "s3 cret" "" [("CORS_ORIGINS", " *")]
  refine ⟨hsame, (configWarnings_eq_iff hsame rfl rfl).1.2 (.inr ⟨by decide, by decide⟩), ?_⟩
  decide +kernel

/-- A token with a line end behind it is shown, and without the line end there is no warning. -/
theorem token_shown :
    SameApartFrom tokenVariable [(tokenVariable, "s3cret\n")] [(tokenVariable, "s3cret")] ∧
    configWarnings [(tokenVariable, "s3cret\n")] = ["Environment variable XSD_OPENAPI_API_TOKEN had " ++
      "surrounding whitespace: 's3cret\\n' -> 's3cret'"] ∧
    configWarnings [(tokenVariable, "s3cret")] = [] := by
  refine ⟨sameApartFrom_cons _ _ _ _, ?_, ?_⟩
  · decide +kernel
  · decide +kernel

end ApiContract.Environment
