import ApiContract.CommandLine.Demand
import ApiContract.Value.Json

/-!
The program: it looks up the files and the variables that a run needs, runs, writes the file that the
run made, and tells how it went.
-/

namespace ApiContract

open ApiContract.CommandLine ApiContract.Files ApiContract.Text

/-- The variables that a run reads. -/
def runVariables : List String := levelVariable :: Environment.defaultVariables

/-- The environment of the process, as far as a run reads it. -/
def readEnvironment : IO Environment :=
  runVariables.filterMapM fun name => do
    pure ((← IO.getEnv name).map (name, ·))

/-- The tree with the file at a path, if there is one. -/
def loadFile (t : Tree) (path : String) : IO Tree := do
  let p := Path.ofText path
  try
    let content ← IO.FS.readBinFile path
    pure (t.write p content.toList).1
  catch
    | .inappropriateType .. => pure (t.addDirectories p p.parts.length).1
    | _ => pure t

/-- The tree with the files that a run looks at; what is in them may lead to more of them, `n` times
at most. -/
def loadFiles (d : Defaults) (args : List String) : (n : Nat) → Tree → IO Tree
  | 0, t => pure t
  | n + 1, t => do loadFiles d args n (← (demand t d args).foldlM loadFile t)

/-- Writes a file and makes the directories on the way to it. -/
def saveFile (path : String) (content : List UInt8) : IO Unit := do
  IO.FS.createDirAll (Path.ofText path).parent.text
  IO.FS.writeBinFile path ⟨content.toArray⟩

/-- A message of the log as a line. -/
def logLine (e : LogEntry) : String :=
  Json.compact (.map [("levelname", .str e.level.text), ("message", .str e.message)])

/-- The text with a line break at its end, if it has none. -/
def asLine (s : String) : String := if s.isEmpty ∨ s.endsWith "\n" then s else s ++ "\n"

/-- Runs the program. -/
def runProgram (args : List String) : IO UInt32 := do
  let env ← readEnvironment
  let home := (Path.ofText (← IO.currentDir).toString).parts
  let defaults := env.defaults
  let before ← loadFiles defaults.value args 3 (.ofHome home)
  let r := run .standard before defaults.value env args
  let stderr ← IO.getStderr
  for e in LogEntry.all .warning defaults.warnings ++ r.log do
    stderr.putStrLn (logLine e)
  for (path, content) in r.tree.changes before do
    saveFile path content
  (← IO.getStdout).putStr r.output
  stderr.putStr (asLine (r.errors ++ r.ending.message))
  pure r.ending.code.toUInt32

end ApiContract

def main (args : List String) : IO UInt32 := ApiContract.runProgram args
