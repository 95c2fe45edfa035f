import ApiContract.CommandLine.Options
import ApiContract.Convert
import ApiContract.Log.Threshold

/-!
A run of the command line: arguments are read, the schema is converted, and the outcome is told. The
run ends with a code unless something is wrong that it cannot tell.
-/

namespace ApiContract.CommandLine

open ApiContract.Files ApiContract.Text

/-- Why a run fails. -/
inductive Problem where
  | options (f : OptionsFault)
  | job (vs : Violations)
  | conversion (f : Convert.Failure)
  deriving Repr

/-- The problem in words. -/
def Problem.message : Problem → String
  | options f => f.message
  | job vs => vs.message
  | conversion f => f.message

/-- Whether a fault of options is told as a failure of the run. -/
def OptionsFault.isTold : OptionsFault → Bool
  | file _ | undecodable _ | noMapping _ | otherLength _ _ | invalid _ => true
  | yaml (.badValue _) => true
  | _ => false

/-- Whether a failure to convert is told as a failure of the run. -/
def isToldFailure : Convert.Failure → Bool
  | .unreadable (.xml _ (.encoding (.unknown _))) => false
  | .unreadable (.xml _ (.encoding (.noText _))) => false
  | .unwritable (.value _) | .unwritable (.key _) => false
  | .exhausted => false
  | _ => true

/-- Whether a problem is told as a failure of the run. -/
def Problem.isTold : Problem → Bool
  | options f => f.isTold
  | job _ => true
  | conversion f => isToldFailure f

/-- How a run ends: with a code, or with something that it cannot tell. -/
inductive Ending where
  | exit (code : Nat)
  | noLevel
  | problem (p : Problem)
  deriving Repr

/-- The code that a run ends with. -/
def Ending.code : Ending → Nat
  | exit n => n
  | _ => 1

/-- What a run cannot tell otherwise about its end. -/
def Ending.message : Ending → String
  | exit _ => ""
  | noLevel => unknownLevel
  | problem p => p.message

/-- What a run leaves behind. -/
structure Report where
  ending : Ending
  output : String
  errors : String
  log : List LogEntry
  tree : Tree

/-- What the program is called. -/
def programName : String := "xsd-openapi"

/-- The job of arguments, apart from its options. -/
def Arguments.jobFields (a : Arguments) : Value :=
  let field (name : String) (f : Flag) : String × Value := (name, (a.value? f).getD .null)
  .map [field "input_file_path" .input, field "xsd_content" .content,
    field "output_file_path" .output, field "schema_name" .schemaName]

/-- The job of arguments. -/
def Arguments.job (t : Tree) (d : Defaults) (a : Arguments) : Except Problem Job := do
  let o ← (a.options t d).mapError .options
  let j ← (Job.ofValue d a.jobFields).mapError fun vs => .job ⟨"ConversionConfig", vs⟩
  pure { j with options := o }

/-- A text that is not empty. -/
def fullText? : Option Value → Option String
  | some (.str s) => if s.isEmpty then none else some s
  | _ => none

/-- The interface description as it is printed, or why it cannot be. -/
def printed (s : Convert.Stack) (document : Value) : Except Convert.Failure String :=
  if s.fits (.printing document) then
    match Json.pretty document with
    | .ok text => .ok text
    | .error .torn => match Json.letters (some 0) document with
      | .ok ls => .error (.unencodable ls)
      | .error o => .error (.unwritable o)
    | .error o => .error (.unwritable o)
  else .error .exhausted

/-- The report of a run that comes to an interface description: it is printed, unless it is written
to a file. What keeps it from being printed is not told. -/
def reportDocument (s : Convert.Stack) (a : Arguments) (log : List LogEntry) (tree : Tree)
    (document : Value) : Report :=
  match fullText? (a.value? .output) with
  | some file =>
    ⟨.exit 0, "", "OK: wrote OpenAPI document to " ++ (Path.ofText file).text ++ "\n", log, tree⟩
  | none => match printed s document with
    | .ok text => ⟨.exit 0, text ++ "\n", "", log, tree⟩
    | .error f => ⟨.problem (.conversion f), "", "", log, tree⟩

/-- The report of a run that fails. -/
def reportProblem (log : List LogEntry) (tree : Tree) (p : Problem) : Report :=
  if p.isTold then
    ⟨.exit 1, "", "Error: " ++ p.message ++ "\n",
      log ++ [⟨.error, "Conversion failed: " ++ p.message⟩], tree⟩
  else ⟨.problem p, "", "", log, tree⟩

/-- What is followed when the options file is read that arguments name. -/
def Arguments.descents (t : Tree) (a : Arguments) : List Convert.Descent :=
  match a.value? .config with
  | some (.str path) => match t.read path with
    | .ok bs => (Yaml.Node.ofPortions (.ofBytes bs)).toOption.join.toList.map .composing
    | .error _ => []
  | _ => []

/-- The report of a run after its arguments are read. -/
def runJob (h : Convert.Host) (t : Tree) (d : Defaults) (a : Arguments) : Report :=
  if (a.descents t).all h.stack.fits then
    match a.job t d with
    | .error p => reportProblem [] t p
    | .ok j =>
      let o := Convert.run h t j
      match o.step.result with
      | .ok document => reportDocument h.stack a o.step.log o.tree document
      | .error f => reportProblem o.step.log o.tree (.conversion f)
  else ⟨.problem (.conversion .exhausted), "", "", [], t⟩

/-- The flags with their names, one on a line. -/
def helpText : String :=
  "".intercalate (Flag.all.map fun f => "  " ++ ", ".intercalate f.names ++ "\n")

/-- The line that tells how arguments are misused. -/
def misuseLine (m : Misuse) : String := programName ++ ": error: " ++ m.message

/-- The report of a run on a machine with arguments in an environment. The log begins once its threshold is known, so
a warning about the threshold is not in it. -/
def run (h : Convert.Host) (t : Tree) (d : Defaults) (env : Environment) (args : List String) : Report :=
  match Arguments.ofList args with
  | .error m => ⟨.exit 2, "", misuseLine m, [], t⟩
  | .ok a =>
    if a.wantsHelp then ⟨.exit 0, helpText, "", [], t⟩
    else
      match (threshold env ((fullText? (a.value? .logLevel)).map upper)).value with
      | none => ⟨.noLevel, "", "", [], t⟩
      | some n =>
        let r := runJob h t d a
        { r with log := atLeast n r.log }

end ApiContract.CommandLine
