import ApiContract.Environment
import ApiContract.Log

/-!
The threshold of the log: messages below it are not shown. It is given by name, or by a variable of
the environment.
-/

namespace ApiContract

open ApiContract.Text

/-- The numbers of the names of levels. -/
def levelNumbers : List (String × Nat) :=
  [("CRITICAL", 50), ("FATAL", 50), ("ERROR", 40), ("WARN", 30), ("WARNING", 30), ("INFO", 20),
   ("DEBUG", 10), ("NOTSET", 0)]

/-- The threshold of the server's own messages. -/
def serverThreshold : Nat := 20

/-- The message about a level that has no such name. -/
def unknownLevel : String := "Unable to configure logger ''"

/-- The variable that names the level. -/
def levelVariable : String := "XSD_OPENAPI_LOG_LEVEL"

/-- The threshold of a name, or else of the environment; nothing if there is no such level. -/
def threshold (env : Environment) (name : Option String) : Reading (Option Nat) :=
  match name with
  | some n => ⟨levelNumbers.lookup n, []⟩
  | none =>
    let r := env.text levelVariable "INFO"
    ⟨levelNumbers.lookup (upper r.value), r.warnings⟩

/-- The messages from a threshold on. -/
def atLeast (threshold : Nat) (log : List LogEntry) : List LogEntry :=
  log.filter fun e => threshold ≤ e.level.number

end ApiContract
