import RunBoard.Task
import RunBoard.Failure
import RunBoard.Statistics
import RunBoard.Run.Query

/-!
# The dashboard

The statistics and the latest runs of all workflows.  Both are asked for at once, and the failure of
one request does not touch the other half; if the load is given up, neither half has anything.
-/

namespace RunBoard

namespace Dashboard

/-- How many runs the dashboard shows unless told otherwise. -/
def defaultLimit : Nat := 15

/-- The query for the latest runs of all workflows, each with its workflow. -/
def query (limit : Nat) : Query :=
  .of none 1 limit true

/-- The two requests of a dashboard, made at once. -/
structure Requests where
  query : Query
  deriving DecidableEq, Repr

/-- The results of the two requests. -/
structure Results where
  statistics : Except RequestError Statistics
  runs : Except RequestError Page

/-- The answer to the two requests; none when the load was given up before both had results. -/
def Requests.Answer (_ : Requests) : Type :=
  Option Results

/-- What a dashboard shows. -/
structure Snapshot where
  statistics : Option Statistics
  latest : List Run
  /-- How many runs there are in all. -/
  total : Nat
  /-- How many of the two requests failed without being given up. -/
  failures : Nat
  deriving Repr

/-- The failures of the two requests that the user is told of, in order. -/
def Results.failures (r : Results) : List RequestError :=
  let error {α : Type} : Except RequestError α → List RequestError
    | .ok _ => []
    | .error e => if e.isAbort then [] else [e]
  error r.statistics ++ error r.runs

/-- What is shown for the results of the two requests. -/
def Results.snapshot (r : Results) : Snapshot :=
  { statistics := r.statistics.toOption
    latest := (r.runs.toOption.map Page.items).getD []
    total := (r.runs.toOption.map Page.total).getD 0
    failures := r.failures.length }

/-- Both requests count as given up. -/
def abandoned : Results :=
  ⟨.error .aborted, .error .aborted⟩

/-- Loads a dashboard; the events are the descriptions of failed requests. -/
def load (limit : Nat) : Task Requests Requests.Answer String Snapshot := do
  let answer ← Task.query ⟨query limit⟩
  let results := (answer : Option Results).getD abandoned
  Task.emitAll (results.failures.map RequestError.message)
  return results.snapshot

end Dashboard

end RunBoard
