import RunBoard.Console.Output
import RunBoard.Display.Detail
import RunBoard.Display.Page

/-!
# Single operations on runs

Listing runs, showing one in full, canceling one and deleting several.  Only a run in flight is
canceled, and only runs that have ended are deleted; others are skipped.
-/

namespace RunBoard.Console

open RunBoard.Text

/-- Lists a page of runs. -/
def list (q : Query) (json : Bool) : Course (Except Trouble Unit) := do
  match ← askPage q with
  | .error e => return .error (.request "Failed to list runs" e)
  | .ok page =>
    if json then sayJson (page.summary q) else sayAll (page.lines q)
    return .ok ()

/-- Fetches one run. -/
def fetch (id : RunId) : Course (Except Trouble Run) := do
  match ← askRun id with
  | .error e => return .error (.request ("Failed to load run '" ++ id.text ++ "'") e)
  | .ok run => return .ok run

/-- Fetches runs one after the other, until one cannot be had. -/
def fetchAll : List RunId → Course (Except Trouble (List Run))
  | [] => pure (.ok [])
  | id :: ids => do
    match ← fetch id with
    | .error e => return .error e
    | .ok run =>
      match ← fetchAll ids with
      | .error e => return .error e
      | .ok runs => return .ok (run :: runs)

/-- Shows one run in full. -/
def «show» (id : RunId) (json : Bool) : Course (Except Trouble Unit) := do
  match ← fetch id with
  | .error e => return .error e
  | .ok run =>
    if json then sayJson run.account else sayAll run.detailLines
    return .ok ()

/-- Cancels a run in flight. -/
def cancel (id : RunId) (json : Bool) : Course (Except Trouble Unit) := do
  match ← fetch id with
  | .error e => return .error e
  | .ok run =>
    if !run.isInFlight then return .error (.action (.notCancellable id run.status))
    match ← askCancellation run.workflow id with
    | .error e => return .error (.request ("Failed to cancel run '" ++ id.text ++ "'") e)
    | .ok accepted =>
      if json then
        sayJson (.ofMembers [("id", .string id.text), ("cancel_requested", .bool accepted)])
        return .ok ()
      else if accepted then
        sayAll ["", "  ✓ Cancel requested for run " ++ id.text, ""]
        return .ok ()
      else return .error (.refused ("Backend refused to cancel run '" ++ id.text ++ "'"))

/-- What is said of a run that is not deleted. -/
def skipLine (run : Run) : String :=
  "  ! Skipping run " ++ run.id.text ++ " (" ++ run.status.name ++ "): still in flight"

/-- Deletes those of the runs that have ended, in one request, after all of them have been
fetched. -/
def delete (ids : List RunId) (json : Bool) : Course (Except Trouble Unit) := do
  match ← fetchAll ids with
  | .error e => return .error e
  | .ok runs =>
    let finished := (runs.filter Run.isTerminal).map Run.id
    let skipped := runs.filter fun run => !run.isTerminal
    if !json then sayAll (skipped.map skipLine)
    if finished.isEmpty then return .error (.action .nothingToDelete)
    match ← askRemoval finished with
    | .error e => return .error (.request "Failed to delete runs" e)
    | .ok false => return .error (.refused "Backend refused to delete runs")
    | .ok true =>
      if json then
        sayJson (.ofMembers [
          ("deleted", .array (finished.map fun id => .string id.text)),
          ("skipped", .array (skipped.map fun run => .string run.id.text))])
      else sayAll ["", "  ✓ Deleted " ++ decimal finished.length ++ " run(s)", ""]
      return .ok ()

end RunBoard.Console
