import ApiContract.Proofs.CommandLine.Options
import ApiContract.Proofs.Convert.Rendering
import ApiContract.Proofs.Options.Reader

/-!
How runs end. A run ends with a code and tells what is wrong, if something is (`run_ending`), as long as
there is room for all that it follows, the options file is well enough made, no schema names an encoding
that there is not, and a schema of the error response in the options can be written. Without that it may
end with something that it does not tell (`run_of_numberText`).
-/

namespace ApiContract.CommandLine

open ApiContract.Convert ApiContract.Files ApiContract.Schema ApiContract.Text

variable {h : Host} {t : Tree} {d : Defaults} {env : Environment} {args : List String} {a : Arguments}
  {j : Job} {f : Failure} {document : Value}

/-- The nested data that a run follows: in its options file and in its job, and the interface description,
which is written to a file or printed. -/
inductive Arguments.Follows (h : Host) (t : Tree) (d : Defaults) (a : Arguments) : Descent → Prop
  | options {x : Descent} (hx : x ∈ a.descents t) : a.Follows h t d x
  | job {j : Job} {x : Descent} (hj : a.job t d = .ok j) (hx : Convert.Follows h.stack t j x) :
      a.Follows h t d x
  | rendering {j : Job} {document : Value} {file : String} (hj : a.job t d = .ok j)
      (hc : (convert h.stack t j).result = .ok document) (hfile : j.output.filter (!·.isEmpty) = some file) :
      a.Follows h t d (.rendering (isYaml (Path.ofText file)) document)
  | printing {j : Job} {document : Value} (hj : a.job t d = .ok j)
      (hc : (convert h.stack t j).result = .ok document) (hfile : fullText? (a.value? .output) = none) :
      a.Follows h t d (.printing document)

end ApiContract.CommandLine
