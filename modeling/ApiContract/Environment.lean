import ApiContract.Number.Numeral
import ApiContract.Options.Basic
import ApiContract.Text.LetterCase
import ApiContract.Text.Quoted

/-!
Defaults from environment variables. Blanks around a value are dropped with a warning, and a value
that cannot be understood gives way to the default with another one.
-/

namespace ApiContract

open ApiContract.Text ApiContract.Number

/-- The variables of an environment. -/
abbrev Environment := List (String × String)

/-- Why a variable cannot be set. -/
inductive SettingError where
  | nullCharacter | nameWithSign | noName
  deriving Repr, DecidableEq

/-- The error in words. -/
def SettingError.message : SettingError → String
  | nullCharacter => "embedded null byte"
  | nameWithSign => "illegal environment variable name"
  | noName => "[Errno 22] Invalid argument"

/-- A value and the warnings on the way to it. -/
structure Reading (α : Type) where
  value : α
  warnings : List String
  deriving Repr

/-- What a variable says: nothing, a value, or something that is not of the kind that is asked for. -/
inductive Found (α : Type) where
  | absent
  | valid (a : α)
  | invalid (raw kind : String)
  deriving Repr, DecidableEq

namespace Environment

/-- What is wrong with a variable: a name is not empty and holds no equals sign, and neither a name
nor a value holds the null character. -/
def settingError? (name value : String) : Option SettingError :=
  if (name.toList ++ value.toList).contains '\x00' then some .nullCharacter
  else if name.toList.contains '=' then some .nameWithSign
  else if name.isEmpty then some .noName
  else none

/-- The variables, if all of them can be set; else what is wrong with the first that cannot. -/
def ofVariables : List (String × String) → Except SettingError Environment
  | [] => .ok []
  | (name, value) :: rest =>
    match settingError? name value with
    | some e => .error e
    | none => (ofVariables rest).map ((name, value) :: ·)

/-- A value of a variable without the blanks around it. -/
def cleaned (key raw : String) : Reading String :=
  let s := strip raw
  ⟨s, if s = raw then []
    else ["Environment variable " ++ key ++ " had surrounding whitespace: " ++ quoted raw ++ " -> " ++
      quoted s]⟩

/-- The value of a variable or a default, without the blanks around it. -/
def clean? (env : Environment) (key : String) (default : Option String) : Reading (Option String) :=
  match (env.lookup key).or default with
  | none => ⟨none, []⟩
  | some raw =>
    let r := cleaned key raw
    ⟨some r.value, r.warnings⟩

/-- The value of a variable or a default as it is. -/
def raw? (env : Environment) (key : String) (default : Option String) : Option String :=
  (env.lookup key).or default

/-- The value of a variable, read in some way. -/
def find {α : Type} (env : Environment) (key kind : String) (read : String → Option α) :
    Reading (Found α) :=
  let r := env.clean? key none
  ⟨match r.value with
    | none => .absent
    | some s => match read s with
      | some a => .valid a
      | none => .invalid s kind, r.warnings⟩

/-- The words for truth. -/
def trueWords : List String := ["true", "1", "yes", "on"]

/-- The words for falsehood. -/
def falseWords : List String := ["false", "0", "no", "off", ""]

/-- The truth value of a word, in any letter case. -/
def readBool (s : String) : Option Bool :=
  let w := lower s
  if trueWords.contains w then some true else if falseWords.contains w then some false else none

/-- A truth value. -/
def bool (env : Environment) (key : String) : Reading (Found Bool) := env.find key "boolean" readBool

/-- A whole number. -/
def int (env : Environment) (key : String) : Reading (Found Int) := env.find key "integer" readInt?

/-- The texts in brackets. -/
def shownList (ss : List String) : String := "[" ++ ", ".intercalate (ss.map quoted) ++ "]"

/-- One of some words, in any letter case. -/
def choice (env : Environment) (key : String) (choices : List String) : Reading (Found String) :=
  env.find key ("choice of " ++ shownList (choices.mergeSort (· ≤ ·))) fun s =>
    if choices.contains (lower s) then some (lower s) else none

/-- What is between the places where a separator stands. The separator is not empty. -/
def splitOn (sep : List Char) : (current : List Char) → List Char → List (List Char)
  | current, [] => [current.reverse]
  | current, c :: cs =>
    if sep.isPrefixOf (c :: cs) then
      current.reverse :: splitOn sep [] (cs.drop (sep.length - 1))
    else splitOn sep (c :: current) cs
  termination_by _ cs => cs.length
  decreasing_by
    · simp only [List.length_drop, List.length_cons]; omega
    · simp

/-- What stands between the items of a list. -/
inductive Separator where
  | blanks
  | text (s : String)
  deriving Repr, DecidableEq

/-- What is between the separators of a text. -/
def Separator.split (sep : Separator) (cs : List Char) : List (List Char) :=
  match sep with
  | .blanks => splitOn [' '] [] (cs.map fun c => if isBlank c then ' ' else c)
  | .text s => splitOn s.toList [] cs

/-- The items of a text, without blanks around them and without empty ones. -/
def itemsOf (sep : Separator) (cs : List Char) : List String :=
  let items : List (List Char) := (sep.split cs).map (trim isBlank)
  (items.filter fun item => !item.isEmpty).map String.ofList

/-- The items of a list; nothing if there are none. -/
def list (env : Environment) (key : String) (sep : Separator) : Reading (Option (List String)) :=
  let r := env.clean? key none
  let items := (r.value.map fun s => itemsOf sep s.toList).getD []
  ⟨if items.isEmpty then none else some items, r.warnings⟩

/-- The message about a list that has no separator. -/
def noSeparator : String := "empty separator"

/-- Whether a list that is not empty has no separator. -/
def lacksSeparator (env : Environment) (key : String) (sep : Separator) : Bool :=
  sep = .text "" && ((env.clean? key none).value.filter (!·.isEmpty)).isSome

end Environment

/-- The value that is found, or else a default, which is shown in a warning if need be. -/
def Reading.orDefault {α : Type} (r : Reading (Found α)) (key : String) (default : α)
    (shown : α → String) : Reading α :=
  match r.value with
  | .absent => ⟨default, r.warnings⟩
  | .valid a => ⟨a, r.warnings⟩
  | .invalid raw kind =>
    ⟨default, r.warnings ++ ["Environment variable " ++ key ++ " is not a valid " ++ kind ++ ": " ++
      quoted raw ++ ". Using default: " ++ shown default]⟩

/-- A truth value in a warning. -/
def shownBool (b : Bool) : String := if b then "True" else "False"

/-- The limits and the credentials of the service. -/
structure ServiceConfig where
  token : String
  timeout : Int
  uploadLimit : Int
  origins : List String
  deriving Repr, DecidableEq

/-- The token of a service for which none is set. -/
def defaultToken : String := "devtoken"

/-- The configuration of a service in an environment that sets nothing. -/
def ServiceConfig.standard : ServiceConfig :=
  ⟨defaultToken, 60, 5242880, ["http://localhost:3000"]⟩

namespace Environment

/-- A text or a default. -/
def text (env : Environment) (key default : String) : Reading String :=
  let r := env.clean? key (some default)
  ⟨r.value.getD default, r.warnings⟩

/-- The method or a default. -/
def method (env : Environment) (key : String) (default : Method) : Reading Method :=
  let r := (env.choice key (Method.all.map Method.text)).orDefault key default.text id
  ⟨(Method.ofText? r.value).getD default, r.warnings⟩

/-- The variables that defaults of options are read from. -/
def defaultVariables : List String :=
  ["XSD_OPENAPI_REQUEST_SUFFIX", "XSD_OPENAPI_RESPONSE_SUFFIX",
   "XSD_OPENAPI_USE_SCHEMA_NAME_IN_PATH", "XSD_OPENAPI_HTTP_METHOD", "XSD_OPENAPI_CONTENT_TYPE",
   "XSD_OPENAPI_DEFAULT_TYPE", "XSD_OPENAPI_ERROR_STATUS_CODE", "XSD_OPENAPI_ERROR_DESCRIPTION"]

/-- The defaults of options in an environment. -/
def defaults (env : Environment) : Reading Defaults :=
  let d := Defaults.standard
  let requestSuffix := env.text "XSD_OPENAPI_REQUEST_SUFFIX" d.requestSuffix
  let responseSuffix := env.text "XSD_OPENAPI_RESPONSE_SUFFIX" d.responseSuffix
  let nameKey := "XSD_OPENAPI_USE_SCHEMA_NAME_IN_PATH"
  let nameInPath := (env.bool nameKey).orDefault nameKey d.nameInPath shownBool
  let method := env.method "XSD_OPENAPI_HTTP_METHOD" d.method
  let contentType := env.text "XSD_OPENAPI_CONTENT_TYPE" d.contentType
  let defaultType := env.text "XSD_OPENAPI_DEFAULT_TYPE" d.defaultType
  let status := env.text "XSD_OPENAPI_ERROR_STATUS_CODE" d.status
  let description := env.text "XSD_OPENAPI_ERROR_DESCRIPTION" d.description
  ⟨⟨requestSuffix.value, responseSuffix.value, nameInPath.value, method.value, contentType.value,
      defaultType.value, status.value, description.value⟩,
    requestSuffix.warnings ++ responseSuffix.warnings ++ nameInPath.warnings ++ method.warnings ++
      contentType.warnings ++ defaultType.warnings ++ status.warnings ++ description.warnings⟩

/-- The configuration of the service in an environment. -/
def serviceConfig (env : Environment) : Reading ServiceConfig :=
  let d := ServiceConfig.standard
  let token := env.text "XSD_OPENAPI_API_TOKEN" d.token
  let timeoutKey := "XSD_OPENAPI_OPERATION_TIMEOUT"
  let timeout := (env.int timeoutKey).orDefault timeoutKey d.timeout intText
  let limitKey := "XSD_OPENAPI_MAX_UPLOAD_BYTES"
  let limit := (env.int limitKey).orDefault limitKey d.uploadLimit intText
  let origins := env.list "CORS_ORIGINS" (.text ",")
  ⟨⟨token.value, timeout.value, limit.value, origins.value.getD d.origins⟩,
    token.warnings ++ timeout.warnings ++ limit.warnings ++ origins.warnings⟩

end Environment

end ApiContract
