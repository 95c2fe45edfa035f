import ApiContract.Options.Reader
import ApiContract.Proofs.Contract.Paths

/-!
What an error response does to an operation. It is put among the responses under its own status, and all
other parts of the operation, and the responses with other statuses, are as they are without it
(`hasResponse_operation`). The responses of an operation have one status each, so it is one more response
exactly if its status is not the one of the response without errors, or there is no such response
(`addsResponse_operation_iff`); otherwise that response is lost (`success_overwritten`).
-/

namespace ApiContract.Contract

open ApiContract.Schema

variable {imports : Imports} {d : Document} {o : Options} {g : Group ElementDecl} {p : String}
  {e : ErrorResponse} {schema : Value}

/-- The response in case of an error, with a schema. -/
def errorResponse (o : Options) (e : ErrorResponse) (schema : Value) : Value :=
  .map [("description", .str e.description),
    ("content", .map [(o.contentType, .map [("schema", schema)])])]

/-! ### Operations and their responses -/

/-- The second operation has the responses `rs'` where the first one has `rs`, and both have the same in all
other parts. -/
def Differ (rs rs' : List (String × Value)) (a b : Value) : Prop :=
  ∃ parts, "responses" ∉ keys parts ∧
    a = .map (parts ++ [("responses", .map rs)]) ∧ b = .map (parts ++ [("responses", .map rs')])

/-- **One more response**: the second operation has the response under the status, which is no status of the
first one, and both are the same in all other parts. -/
def AddsResponse (status : String) (response : Value) (a b : Value) : Prop :=
  ∃ rs, status ∉ keys rs ∧ Differ rs (rs ++ [(status, response)]) a b

/-- The second operation has the response under the status; the responses under other statuses, and all other
parts, are those of the first one. -/
def HasResponse (status : String) (response : Value) (a b : Value) : Prop :=
  ∃ rs rs', Differ rs rs' a b ∧ rs'.lookup status = some response ∧
    ∀ other, other ≠ status → rs'.lookup other = rs.lookup other

/-- The parts of an operation but for its responses. -/
def operationParts (imports : Imports) (d : Document) (o : Options) (p : String)
    (g : Group ElementDecl) : List (String × Value) :=
  [("operationId", .str g.name), ("summary", .str (o.method.capitals ++ " " ++ p))] ++
    ((description? g).map fun s => ("description", Value.str s)).toList ++
    (g.request.map fun e => ("requestBody", requestBody imports d o e)).toList

lemma not_mem_keys_operationParts : "responses" ∉ keys (operationParts imports d o p g) := by
  unfold operationParts
  cases description? g <;> cases g.request <;> simp

/-- Only the responses of an operation know of the schema of an error response. -/
lemma differ_operation (imports : Imports) (d : Document) (o : Options) (p : String)
    (g : Group ElementDecl) (s s' : Option Value) :
    Differ (responses imports d o g s) (responses imports d o g s')
      (operation imports d o p g s) (operation imports d o p g s') :=
  ⟨operationParts imports d o p g, not_mem_keys_operationParts, rfl, rfl⟩

lemma Differ.left_eq {rs rs' qs qs' : List (String × Value)} {a b : Value}
    (h : Differ rs rs' a b) (h' : Differ qs qs' a b) : rs = qs := by
  obtain ⟨parts, -, ha, -⟩ := h
  obtain ⟨parts', -, ha', -⟩ := h'
  have heq := Value.map.inj (ha.symm.trans ha')
  have hlast := (List.append_inj' heq rfl).2
  cases hlast
  rfl

/-! ### The response in case of an error -/

lemma responses_of_no_schema : responses imports d o g none =
    (g.response.map fun e => (successStatus, successResponse imports d o e)).toList := by
  unfold responses
  cases o.error <;> rfl

lemma responses_of_error (ho : o.error = some e) : responses imports d o g (some schema) =
    putField e.status (errorResponse o e schema) (responses imports d o g none) := by
  rw [responses_of_no_schema]
  unfold responses
  rw [ho]
  rfl

/-- A status is new exactly if it is not that of the response without errors. -/
lemma not_mem_keys_responses_iff (imports : Imports) (d : Document) (o : Options) {status : String} :
    status ∉ keys (responses imports d o g none) ↔ g.response = none ∨ status ≠ "200" := by
  rw [responses_of_no_schema]
  cases g.response with
  | none => simp
  | some r => simp [successStatus]

/-- **An error response is there under its status, and all else stays.** -/
theorem hasResponse_operation (ho : o.error = some e) :
    HasResponse e.status (errorResponse o e schema) (operation imports d o p g none)
      (operation imports d o p g (some schema)) := by
  refine ⟨_, _, differ_operation _ _ _ _ _ none (some schema), ?_, fun other hne => ?_⟩
  · rw [responses_of_error ho, lookup_putField, if_pos rfl]
  · rw [responses_of_error ho, lookup_putField, if_neg hne]

/-- A response that is added has a new status. -/
lemma AddsResponse.not_mem_keys {status : String} {response : Value}
    (h : AddsResponse status response (operation imports d o p g none)
      (operation imports d o p g (some schema))) :
    status ∉ keys (responses imports d o g none) := by
  obtain ⟨rs, hnew, hdiffer⟩ := h
  rw [(differ_operation imports d o p g none (some schema)).left_eq hdiffer]
  exact hnew

/-- **When an error response only adds.** With the schema of an error response an operation has the response
under its status, and all other parts and responses are as they are without it. It has one more response
exactly if there is no response without errors or the status is another one than that of it. -/
theorem addsResponse_operation_iff (ho : o.error = some e) (imports : Imports) (d : Document)
    (p : String) (g : Group ElementDecl) (schema : Value) :
    HasResponse e.status (errorResponse o e schema) (operation imports d o p g none)
        (operation imports d o p g (some schema)) ∧
      (AddsResponse e.status (errorResponse o e schema) (operation imports d o p g none)
        (operation imports d o p g (some schema)) ↔ g.response = none ∨ e.status ≠ "200") := by
  refine ⟨hasResponse_operation ho, ?_⟩
  rw [← not_mem_keys_responses_iff imports d o]
  constructor
  · exact AddsResponse.not_mem_keys
  · intro hnew
    have hdiffer := differ_operation imports d o p g none (some schema)
    rw [responses_of_error ho, putField_of_not_mem hnew] at hdiffer
    exact ⟨_, hnew, hdiffer⟩

/-! ### An error with the status of success -/

/-- A response in case of an error, for any value. -/
def anyError (status : String) : ErrorResponse := ⟨.schema (.map []), none, status, "Failed"⟩

/-- Options with this response. -/
def anyErrorOptions (status : String) : Options :=
  { Defaults.standard.options with error := some (anyError status) }

/-- An operation with a response that is a text. -/
def textGroup : Group ElementDecl :=
  ⟨"Ping", none, some { ElementDecl.ofName "PingRes" with typeRef := some "xs:string" }⟩

/-- An error with the status 400 is one more response. -/
theorem addsResponse_operation_iff_400 :
    let o := anyErrorOptions "400"
    let a := operation [] (.ofTypes []) o "/Ping" textGroup none
    let b := operation [] (.ofTypes []) o "/Ping" textGroup (some (.map []))
    o.error = some (anyError "400") ∧
      HasResponse "400" (errorResponse o (anyError "400") (.map [])) a b ∧
      AddsResponse "400" (errorResponse o (anyError "400") (.map [])) a b := by
  intro o a b
  have ho : o.error = some (anyError "400") := rfl
  obtain ⟨hhas, hadds⟩ := addsResponse_operation_iff ho [] (.ofTypes []) "/Ping" textGroup (.map [])
  exact ⟨ho, hhas, hadds.2 (.inr (by decide))⟩

/-- An error with the status 200 is no more response, and the response without errors is lost. -/
theorem success_overwritten :
    let o := anyErrorOptions "200"
    let a := operation [] (.ofTypes []) o "/Ping" textGroup none
    let b := operation [] (.ofTypes []) o "/Ping" textGroup (some (.map []))
    o.error = some (anyError "200") ∧
      ¬ AddsResponse "200" (errorResponse o (anyError "200") (.map [])) a b ∧
      a.field? "responses" = some (.map [("200", .map [("description", .str "OK"),
        ("content", .map [("application/json", .map [("schema", .map [("type", .str "string")])])])])]) ∧
      b.field? "responses" = some (.map [("200", errorResponse o (anyError "200") (.map []))]) := by
  intro o a b
  have ha : responses [] (.ofTypes []) o textGroup none =
      [("200", .map [("description", .str "OK"),
        ("content", .map [("application/json", .map [("schema", .map [("type", .str "string")])])])])] := rfl
  refine ⟨rfl, fun h => ?_, ?_, ?_⟩
  · refine h.not_mem_keys ?_
    rw [ha]
    exact List.mem_singleton_self _
  · rw [operation_responses, ha]
  · rw [operation_responses]
    rfl

end ApiContract.Contract
