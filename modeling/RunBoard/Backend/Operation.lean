import RunBoard.Backend.Reply
import RunBoard.Statistics

/-!
# Operations of the backend

What the backend can be asked for in one exchange: the request that asks for it, and how the reply
is read.
-/

namespace RunBoard.Backend

open RunBoard.Json

/-- The method of a request. -/
inductive Method where
  | get
  | post
  | delete
  deriving DecidableEq, Repr

/-- The name of a method. -/
def Method.name : Method → String
  | get => "GET"
  | post => "POST"
  | delete => "DELETE"

/-- A request: where it goes below the address of the backend, and what it carries. -/
structure Request where
  method : Method
  path : String
  parameters : List (String × String) := []
  body : Option Json := none
  deriving Repr

/-- What the backend is asked for. -/
inductive Operation where
  /-- One page of runs. -/
  | list (query : Query)
  /-- One run. -/
  | fetch (id : RunId)
  /-- The removal of runs. -/
  | remove (ids : List RunId)
  /-- The cancellation of a run of a workflow. -/
  | cancel (workflow : String) (id : RunId)
  | statistics
  deriving DecidableEq, Repr

namespace Operation

/-- What an operation brings if it succeeds.  Removal and cancellation tell whether they were
accepted. -/
def Value : Operation → Type
  | list _ => Page
  | fetch _ => Run
  | remove _ => Bool
  | cancel _ _ => Bool
  | statistics => Statistics

/-- What an operation brings. -/
def Result (op : Operation) : Type :=
  Except RequestError op.Value

/-- The request for the removal of runs: none for no run, and one for all together if there are
several. -/
def removal : List RunId → Option Request
  | [] => none
  | [id] => some { method := .delete, path := recordPath runCollection id.text }
  | ids => some { method := .post, path := batchPath, body := some (batchBody runCollection ids) }

/-- The request of an operation.  There is none for the removal of nothing. -/
def request : Operation → Option Request
  | list query =>
    some {
      method := .get
      path := collectionPath runCollection
      parameters := listParameters query }
  | fetch id => some { method := .get, path := recordPath runCollection id.text }
  | remove ids => removal ids
  | cancel workflow id => some { method := .post, path := cancelPath workflow id }
  | statistics => some { method := .get, path := statisticsPath }

/-- Reads the body of a page of records. -/
def readPage (body : String) : Except RequestError Page :=
  (decodeBody RecordPage.decode body).map fun p => ⟨p.items, p.totalItems⟩

/-- Reads the body that confirms the removal of runs: that of a single run is not looked at. -/
def readRemoval (ids : List RunId) (body : String) : Except RequestError Bool :=
  match ids with
  | [_] => .ok true
  | _ => do
    checkBatch (← decodeBody (Decoder.list BatchResult.decode) body)
    return true

/-- Reads the body of the statistics. -/
def readStatistics (body : String) : Except RequestError Statistics := do
  (← decodeBody (Envelope.decode Statistics.decode) body).open?

/-- Reads the body of a success. -/
def readBody : (op : Operation) → String → op.Result
  | list _, body => readPage body
  | fetch _, body => decodeBody Run.decode body
  | remove ids, body => readRemoval ids body
  | cancel _ _, _ => (.ok true : Except RequestError Bool)
  | statistics, body => readStatistics body

/-- An operation that brings an error. -/
def failed (op : Operation) (e : RequestError) : op.Result :=
  (.error e : Except RequestError op.Value)

/-- Reads the reply to the request for a URL. -/
def read (op : Operation) (url : String) (reply : Reply) : op.Result :=
  match reply.body url with
  | .ok body => op.readBody body
  | .error e => op.failed e

/-- What an operation without a request brings: nothing was removed. -/
def idle : (op : Operation) → op.Result
  | remove _ => (.ok false : Except RequestError Bool)
  | op => op.failed .aborted

end Operation

end RunBoard.Backend
