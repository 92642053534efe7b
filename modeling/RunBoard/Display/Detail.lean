import RunBoard.Display.Labels
import RunBoard.Text.Width
import RunBoard.Text.Digits

/-!
# A run in full

The lines that show one run: its parts behind their labels, the error if there is one, and the size
of the graph if it has nodes.
-/

namespace RunBoard

open RunBoard.Text

/-- A line with a label that takes the given number of columns. -/
def labelled (columns : Nat) (label text : String) : String :=
  "  " ++ padTo columns label ++ " " ++ text

/-- How many nodes a graph has; none if it has no list of nodes or an empty one. -/
def nodeCount? (graph : Json) : Option Nat :=
  match graph.member? "nodes" with
  | some (.array nodes) => if nodes.isEmpty then none else some nodes.length
  | _ => none

namespace Run

/-- The lines that show a run in full. -/
def detailLines (r : Run) : List String :=
  ["", "  Run " ++ r.id.text, "",
    labelled 10 "Workflow" r.workflowLabel,
    labelled 10 "Status" r.status.name,
    labelled 10 "Trigger" (triggerLabel r.trigger),
    labelled 10 "Started" (timeLabel r.startedAt),
    labelled 10 "Ended" (timeLabel r.endedAt),
    labelled 10 "Updated" (timeLabel r.updated)] ++
    (if r.error.isEmpty then [] else ["", "  Error: " ++ r.error]) ++
    ((nodeCount? r.graph).map fun n => labelled 10 "Graph" (decimal n ++ " nodes")).toList ++ [""]

end Run

end RunBoard
