import RunBoard.Run.Status
import RunBoard.Run.Trigger
import RunBoard.Time.Instant

/-!
# Runs

A run is one execution of a workflow, as the backend records it.  Records of one run arrive over and
over, and not always in the order in which they were written; `Run.accepts` tells which of them may
replace the record at hand.
-/

namespace RunBoard

open RunBoard.Time

/-- What identifies a run. -/
structure RunId where
  text : String
  deriving DecidableEq, Repr, Inhabited

instance : Coe String RunId := ⟨RunId.mk⟩

/-- What a listing tells of a workflow. -/
structure WorkflowSummary where
  id : String
  name : String
  deriving DecidableEq, Repr

/-- The related records that came with a run. -/
structure Expansion where
  workflow : Option WorkflowSummary
  deriving DecidableEq, Repr

/-- The record of one execution of a workflow. -/
structure Run where
  id : RunId
  workflow : String
  status : Status
  trigger : Option Trigger
  startedAt : Option Instant
  endedAt : Option Instant
  /-- The workflow as it was executed. -/
  graph : Json
  /-- Why the run failed, empty unless it did. -/
  error : String
  created : Option Instant
  /-- When the record was last written. -/
  updated : Option Instant
  expansion : Option Expansion
  deriving Repr

namespace Run

/-- Whether the run has not ended yet. -/
def isInFlight (r : Run) : Bool :=
  r.status.isInFlight

/-- Whether the run has ended. -/
def isTerminal (r : Run) : Bool :=
  r.status.isTerminal

/-- Whether a record was written after another; records without a stamp never were. -/
def newerThan (r s : Run) : Bool :=
  match r.updated, s.updated with
  | some t, some u => u.before t
  | _, _ => false

/-- Whether a record may be replaced by another one of the same run: the status must be reachable,
and the other record must not be older. -/
def accepts (r s : Run) : Bool :=
  r.status.canBecome s.status && !r.newerThan s

/-- The name of the workflow, if it came with the run and is not empty. -/
def workflowName? (r : Run) : Option String :=
  (r.expansion.bind (·.workflow)).bind fun w => if w.name = "" then none else some w.name

/-- Two records with the same contents. -/
def same (r s : Run) : Bool :=
  r.id == s.id && r.workflow == s.workflow && r.status == s.status && r.trigger == s.trigger &&
    r.startedAt == s.startedAt && r.endedAt == s.endedAt && r.graph.same s.graph &&
    r.error == s.error && r.created == s.created && r.updated == s.updated &&
    r.expansion == s.expansion

/-- A record with the related records of `old` where it has none of its own. -/
def keepExpansion (r old : Run) : Run :=
  if r.expansion.isSome then r else { r with expansion := old.expansion }

end Run

/-- What happened to a run. -/
inductive Action where
  | create
  | update
  | delete
  deriving DecidableEq, Repr

/-- The news about one run: what happened, and the full record afterwards. -/
structure Patch where
  action : Action
  record : Run
  deriving Repr

namespace Action

/-- The name of an action. -/
def name : Action → String
  | create => "create"
  | update => "update"
  | delete => "delete"

/-- The action with a name. -/
def ofName? : String → Option Action
  | "create" => some create
  | "update" => some update
  | "delete" => some delete
  | _ => none

/-- The names of the actions in JSON. -/
def names : Json.Decoder.Names Action :=
  ⟨ofName?, ["create", "update", "delete"]⟩

@[simp] theorem ofName?_name (a : Action) : ofName? a.name = some a := by
  cases a <;> rfl

end Action

end RunBoard
