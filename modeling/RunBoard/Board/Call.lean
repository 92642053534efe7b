import RunBoard.Task
import RunBoard.Failure
import RunBoard.Run.Query

/-!
# Calls to the backend

What a board asks of the backend, and what comes back.  Besides the result of a call the answer
holds the patches that arrived while the call was waited for.  Some calls are given up when the
board is told to stop: a list call then counts as aborted, and a batch of subscriptions has no
result.
-/

namespace RunBoard

/-- What a board asks of the backend. -/
inductive Call where
  /-- One page of runs. -/
  | list (query : Query)
  /-- Deletes runs. -/
  | remove (ids : List RunId)
  /-- Cancels a run of a workflow. -/
  | cancel (workflow : String) (id : RunId)
  /-- Asks for the patches of one run. -/
  | subscribe (id : RunId)
  /-- Asks for the patches of several runs at once. -/
  | subscribeAll (ids : List RunId)
  deriving DecidableEq, Repr

namespace Call

/-- The result of a call.  A batch of subscriptions has one result for each run, and none at all
when it was given up. -/
def Result : Call → Type
  | list _ => Except RequestError Page
  | remove _ => Except RequestError Bool
  | cancel _ _ => Except RequestError Bool
  | subscribe _ => Except RequestError Bool
  | subscribeAll _ => Option (RunId → Except RequestError Bool)

/-- Whether the board gives up waiting for the result when it is told to stop. -/
def interruptible : Call → Bool
  | list _ | subscribeAll _ => true
  | remove _ | cancel _ _ | subscribe _ => false

/-- The answer to a call: its result, and the patches that arrived in the meantime. -/
structure Answer (call : Call) where
  result : call.Result
  arrived : List Patch

end Call

/-- What a board tells its surroundings. -/
inductive Event where
  /-- No more patches of a run are wanted. -/
  | unsubscribe (id : RunId)
  /-- The user is told of a failed request. -/
  | notify (description : String)
  deriving DecidableEq, Repr

/-- A computation of a board. -/
abbrev BoardTask := Task Call Call.Answer Event

/-- Calls the backend. -/
def call (c : Call) : BoardTask (Call.Answer c) :=
  Task.query c

/-- The heading under which the user is told of a failed request. -/
def requestErrorTitle : String := "Request error"

/-- Tells the user of a failed request, unless it was given up. -/
def report (e : RequestError) : BoardTask Unit :=
  if e.isAbort then pure () else Task.emit (.notify e.message)

end RunBoard
