import RunBoard.Run.Basic
import RunBoard.Time.Printer

/-!
# How the parts of a run are shown

The short texts that stand for the parts of a run in tables and details, and the JSON form of a run
for other programs.
-/

namespace RunBoard

open RunBoard.Time

/-- A time to the second, or a hyphen. -/
def timeLabel (t : Option Instant) : String :=
  t.elim "-" Instant.displayed

/-- What started a run, or a hyphen. -/
def triggerLabel (t : Option Trigger) : String :=
  t.elim "-" Trigger.name

/-- The name of the workflow of a run, or else its identifier behind a number sign. -/
def Run.workflowLabel (r : Run) : String :=
  r.workflowName?.getD ("#" ++ r.workflow)

/-- A time in the exchange layout, or null. -/
def timeValue (t : Option Instant) : Json :=
  .text? (t.map Instant.exchange)

/-- The parts of a run that other programs are told of. -/
def Run.summaryMembers (r : Run) : List (String × Json) :=
  [("id", .string r.id.text),
    ("workflow_id", .string r.workflow),
    ("workflow_name", .text? r.workflowName?),
    ("status", .string r.status.name),
    ("trigger", .text? (r.trigger.map Trigger.name)),
    ("started_at", timeValue r.startedAt),
    ("ended_at", timeValue r.endedAt),
    ("created", timeValue r.created),
    ("updated", timeValue r.updated),
    ("error", .string r.error)]

/-- A run for other programs. -/
def Run.summary (r : Run) : Json :=
  .ofMembers r.summaryMembers

/-- A run in full for other programs, with the workflow as it was executed. -/
def Run.account (r : Run) : Json :=
  .ofMembers (("graph", r.graph) :: r.summaryMembers)

end RunBoard
