import RunBoard.Display.Table
import RunBoard.Run.Query

/-!
# How a page of runs is shown

The heading of a page, and a page as it is listed for the user or for other programs.
-/

namespace RunBoard

open RunBoard.Text

/-- The heading of a page of runs. -/
def pageTitle (workflow : Option String) : String :=
  match workflow with
  | some id => "  Runs for workflow '" ++ id ++ "'"
  | none => "  Workflow runs"

/-- What is said of a page without runs. -/
def noRuns : String := "  No runs found."

/-- The lines that show a page of runs. -/
def Page.lines (page : Page) (q : Query) : List String :=
  if page.items.isEmpty then ["", noRuns, ""]
  else
    ["", pageTitle q.workflow, ""] ++ (Table.ofRuns page.items (q.rowNumber 0) none).lines ++
      ["  page " ++ decimal q.page ++ " · " ++ decimal page.total ++ " total", ""]

/-- A page of runs for other programs. -/
def Page.summary (page : Page) (q : Query) : Json :=
  .ofMembers [
    ("page", .nat q.page),
    ("per_page", .nat q.perPage),
    ("total", .nat page.total),
    ("items", .array (page.items.map Run.summary))]

end RunBoard
