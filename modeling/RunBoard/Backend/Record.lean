import RunBoard.Run.Wire
import RunBoard.Run.Query
import RunBoard.Failure

/-!
# What is exchanged with the backend

The paths, the parameters and the bodies of requests, and the bodies of the answers: pages of
records, envelopes around other data, error messages and the results of a batch.
-/

namespace RunBoard.Backend

open RunBoard.Json RunBoard.Text

/-- The collection that holds the runs. -/
def runCollection : String := "workflow_run"

/-- The relation from a run to its workflow. -/
def workflowRelation : String := "workflowRef"

/-- The path of the records of a collection. -/
def collectionPath (collection : String) : String :=
  "/api/collections/" ++ collection ++ "/records"

/-- The path of one record. -/
def recordPath (collection id : String) : String :=
  collectionPath collection ++ "/" ++ id

/-- The path to cancel a run of a workflow. -/
def cancelPath (workflow : String) (id : RunId) : String :=
  "/api/workflows/" ++ workflow ++ "/runs/" ++ id.text ++ "/cancel"

/-- The path of the statistics. -/
def statisticsPath : String := "/api/statistics"

/-- The path for batches. -/
def batchPath : String := "/api/batch"

/-- The topic under which the news of a run is sent. -/
def runTopic (id : RunId) : String :=
  runCollection ++ "/" ++ id.text

/-! ### Parameters -/

/-- Puts a backslash before every backslash and every single quote. -/
def escapeQuotes : List Char → List Char
  | [] => []
  | c :: cs => if c = '\\' ∨ c = '\'' then '\\' :: c :: escapeQuotes cs else c :: escapeQuotes cs

/-- The condition that a field has a value. -/
def equalityFilter (field value : String) : String :=
  field ++ "='" ++ String.ofList (escapeQuotes value.toList) ++ "'"

/-- The parameters of a request for a page of runs, newest first. -/
def listParameters (q : Query) : List (String × String) :=
  [("page", decimal q.page), ("perPage", decimal q.perPage), ("sort", "-created")] ++
    (q.workflow.map fun w => ("filter", equalityFilter workflowRelation w)).toList ++
    (if q.expand then [("expand", workflowRelation)] else [])

/-- The body of a request to delete several records. -/
def batchBody (collection : String) (ids : List RunId) : Json :=
  .ofMembers [("requests", .array (ids.map fun id =>
    .ofMembers [("method", .string "DELETE"), ("url", .string (recordPath collection id.text))]))]

/-- The body of a request for the news of some topics. -/
def subscriptionBody (client : String) (topics : List String) : Json :=
  .ofMembers [("clientId", .string client), ("subscriptions", .array (topics.map .string))]

/-! ### Answers -/

/-- A page of records. -/
structure RecordPage where
  page : Nat
  perPage : Nat
  totalItems : Nat
  totalPages : Nat
  items : List Run
  deriving Repr

namespace RecordPage

/-- The field `page`. -/
def pageField : RecordField Nat := .required "page" Decoder.nat32

/-- The field `perPage`. -/
def perPageField : RecordField Nat := .required "perPage" Decoder.nat32

/-- The field `totalItems`. -/
def totalItemsField : RecordField Nat := .required "totalItems" Decoder.nat64

/-- The field `totalPages`. -/
def totalPagesField : RecordField Nat := .required "totalPages" Decoder.nat64

/-- The field `items`. -/
def itemsField : RecordField (List Run) := .required "items" (Decoder.list Run.decode)

/-- The fields of a page. -/
def layout : Layout :=
  ⟨"ListResponse", [pageField.slot, perPageField.slot, totalItemsField.slot, totalPagesField.slot,
    itemsField.slot]⟩

/-- Decodes a page. -/
def decode : Decoder RecordPage := .record layout fun fields => do
  return {
    page := ← fields.take pageField
    perPage := ← fields.take perPageField
    totalItems := ← fields.take totalItemsField
    totalPages := ← fields.take totalPagesField
    items := ← fields.take itemsField }

end RecordPage

/-- Data with a code that is zero unless something went wrong. -/
structure Envelope (α : Type) where
  code : Int
  message : String
  data : Option α
  deriving Repr

namespace Envelope

/-- The field `code`. -/
def codeField : RecordField Int := .optional "code" Decoder.int64 0

/-- The field `msg`. -/
def messageField : RecordField String := .optional "msg" Decoder.string ""

/-- The field `data`, which an object may leave out but an array may not. -/
def dataField {α : Type} (d : Decoder α) : RecordField (Option α) :=
  ⟨"data", .option d, some none, none⟩

/-- The fields of an envelope. -/
def layout {α : Type} (d : Decoder α) : Layout :=
  ⟨"ApiEnvelope", [codeField.slot, messageField.slot, (dataField d).slot]⟩

/-- Decodes an envelope around what `d` decodes. -/
def decode {α : Type} (d : Decoder α) : Decoder (Envelope α) := .record (layout d) fun fields => do
  return {
    code := ← fields.take codeField
    message := ← fields.take messageField
    data := ← fields.take (dataField d) }

/-- The data of an envelope, or the error that it tells of. -/
def open? {α : Type} (e : Envelope α) : Except RequestError α :=
  if e.code ≠ 0 then
    .error (.api (if 0 ≤ e.code ∧ e.code < 0x10000 then e.code.toNat else 500) e.message)
  else match e.data with
    | some a => .ok a
    | none => .error (.decode "response carries no data")

end Envelope

/-- The field `message` of an error. -/
def errorMessageField : RecordField String := .optional "message" Decoder.string ""

/-- Decodes the message of an error. -/
def decodeErrorMessage : Decoder String :=
  .record ⟨"ErrorBody", [errorMessageField.slot]⟩ fun fields => fields.take errorMessageField

/-- The field `clientId` of a greeting. -/
def clientField : RecordField String := .required "clientId" Decoder.string

/-- Decodes the greeting of a realtime connection: the name it gives to the client. -/
def decodeGreeting : Decoder String :=
  .record ⟨"ConnectEvent", [clientField.slot]⟩ fun fields => fields.take clientField

/-- The result of one request of a batch. -/
structure BatchResult where
  status : Nat
  body : Json
  deriving Repr

namespace BatchResult

/-- The field `status`. -/
def statusField : RecordField Nat := .required "status" Decoder.nat16

/-- The field `body`. -/
def bodyField : RecordField Json := .optional "body" Decoder.json .null

/-- The fields of a result. -/
def layout : Layout := ⟨"BatchResult", [statusField.slot, bodyField.slot]⟩

/-- Decodes a result. -/
def decode : Decoder BatchResult := .record layout fun fields => do
  return { status := ← fields.take statusField, body := ← fields.take bodyField }

end BatchResult

end RunBoard.Backend
