import ApiContract.Options.Basic
import ApiContract.Text.Quoted

/-!
The flags of the command line. A flag has one or two names, and takes one value or none.
-/

namespace ApiContract.CommandLine

open ApiContract.Text

/-- A flag. -/
inductive Flag where
  | help | input | content | output | schemaName | config
  | requestSuffix | responseSuffix | nameInPath | method | contentType | defaultType
  | errorFile | errorType | errorStatus | errorDescription
  | logLevel
  deriving Repr, DecidableEq

namespace Flag

/-- All flags. -/
def all : List Flag :=
  [help, input, content, output, schemaName, config, requestSuffix, responseSuffix, nameInPath,
   method, contentType, defaultType, errorFile, errorType, errorStatus, errorDescription, logLevel]

/-- The names of a flag. -/
def names : Flag → List String
  | help => ["-h", "--help"]
  | input => ["--input", "-i"]
  | content => ["--xsd-content"]
  | output => ["--output", "-o"]
  | schemaName => ["--schema-name"]
  | config => ["--config"]
  | requestSuffix => ["--request-suffix"]
  | responseSuffix => ["--response-suffix"]
  | nameInPath => ["--use-schema-name-in-path"]
  | method => ["--http-method"]
  | contentType => ["--content-type"]
  | defaultType => ["--default-type"]
  | errorFile => ["--error-xsd"]
  | errorType => ["--error-type-name"]
  | errorStatus => ["--error-status-code"]
  | errorDescription => ["--error-description"]
  | logLevel => ["--log-level"]

/-- The names of a flag in a message. -/
def title (f : Flag) : String := "/".intercalate f.names

/-- Whether a flag takes a value. -/
def takesValue : Flag → Bool
  | help | nameInPath => false
  | _ => true

/-- The values that a flag may have, if not all. -/
def choices? : Flag → Option (List String)
  | method => some (Method.all.map Method.text)
  | _ => none

/-- The flag that must not be there together with another one. -/
def rival? : Flag → Option Flag
  | input => some content
  | content => some input
  | _ => none

/-- The flags of which one must be there. -/
def required : List Flag := [input, content]

/-- All names with their flags. -/
def named : List (String × Flag) := all.flatMap fun f => f.names.map (·, f)

/-- The flag of a name. -/
def ofName? (name : String) : Option Flag := named.lookup name

/-- The names that begin with a text, with their flags. -/
def namesFrom (beginning : String) : List (String × Flag) :=
  named.filter fun p => beginning.toList.isPrefixOf p.1.toList

end Flag

/-- What is wrong with arguments. -/
inductive Misuse where
  | ambiguous (argument : String) (names : List String)
  | noValue (f : Flag)
  | unwantedValue (f : Flag) (value : String)
  | noChoice (f : Flag) (value : String) (choices : List String)
  | rivals (f other : Flag)
  | missing (fs : List Flag)
  | unknown (arguments : List String)
  deriving Repr, DecidableEq

/-- A message about a flag. -/
def aboutFlag (f : Flag) (message : String) : String := "argument " ++ f.title ++ ": " ++ message

/-- The misuse in words. -/
def Misuse.message : Misuse → String
  | ambiguous a names => "ambiguous option: " ++ a ++ " could match " ++ ", ".intercalate names
  | noValue f => aboutFlag f "expected one argument"
  | unwantedValue f v => aboutFlag f ("ignored explicit argument " ++ quoted v)
  | noChoice f v choices => aboutFlag f ("invalid choice: " ++ quoted v ++ " (choose from " ++
      ", ".intercalate (choices.map quoted) ++ ")")
  | rivals f g => aboutFlag f ("not allowed with argument " ++ g.title)
  | missing fs =>
    "one of the arguments " ++ " ".intercalate (fs.map Flag.title) ++ " is required"
  | unknown args => "unrecognized arguments: " ++ " ".intercalate args

end ApiContract.CommandLine
