import RunBoard.Console.Output
import RunBoard.Console.Equipment
import RunBoard.Display.Page

/-!
# Overviews

The dashboard on the console, and what the program tells about itself.
-/

namespace RunBoard

open RunBoard.Text

namespace Dashboard.Snapshot

/-- The lines that show a dashboard. -/
def lines (s : Snapshot) : List String :=
  ["", "  Dashboard", ""] ++
    (s.statistics.elim ["  statistics unavailable"] fun t => (Table.ofStatistics t).lines) ++
    ["", "  Latest workflow runs", ""] ++
    (if s.latest.isEmpty then [noRuns]
      else (Table.ofRuns s.latest 1 none).lines ++ ["  " ++ decimal s.total ++ " runs in total"]) ++
    [""]

/-- A dashboard for other programs. -/
def summary (s : Snapshot) : Json :=
  .ofMembers [
    ("statistics", s.statistics.elim .null Statistics.encode),
    ("total_runs", .nat s.total),
    ("latest_runs", .array (s.latest.map Run.summary))]

end Dashboard.Snapshot

namespace Console

/-- Makes the two requests of a dashboard. -/
def askBoth (r : Dashboard.Requests) : Course r.Answer := do
  let statistics ← askStatistics
  let runs ← askPage r.query
  let results : Option Dashboard.Results := some ⟨statistics, runs⟩
  return results

/-- Shows the dashboard.  It fails if nothing at all could be had for it. -/
def dashboard (limit : Nat) (json : Bool) : Course (Except Trouble Unit) := do
  let snapshot ← (Dashboard.load limit).run askBoth fun description =>
    if json then pure () else Task.emit (failureNotice description)
  if json then sayJson snapshot.summary else sayAll snapshot.lines
  if snapshot.failures = 2 then
    return .error (.refused "Dashboard unavailable: backend requests failed")
  return .ok ()

/-- Tells about the program. -/
def info (e : Equipment) (json : Bool) : Course (Except Trouble Unit) := do
  if json then sayJson e.summary else sayAll e.lines
  return .ok ()

end Console

end RunBoard
