import RunBoard.Text.Width
import RunBoard.Text.Digits
import RunBoard.Display.Labels
import RunBoard.Statistics

/-!
# Tables

A table with a border, a header and rows.  Every column is as wide as its widest cell, with a blank
on either side, and a cell of several lines makes its row as high.
-/

namespace RunBoard

open RunBoard.Text

/-- A table: the cells of the header and those of each row. -/
structure Table where
  header : List String
  rows : List (List String)
  deriving DecidableEq, Repr

namespace Table

/-- The lines of a cell. -/
def cellLines (cell : String) : List String :=
  (cell.toList.splitOn '\n').map String.ofList

/-- The columns that a cell takes. -/
def cellWidth (cell : String) : Nat :=
  ((cellLines cell).map width).foldl max 0

/-- The width of each column: that of its widest cell. -/
def widths (t : Table) : List Nat :=
  t.rows.foldl (fun ws row => ws.zipWith max (row.map cellWidth)) (t.header.map cellWidth)

/-- A horizontal rule: a line for each column, between the given ends and joints. -/
def rule (left line joint right : String) (widths : List Nat) : String :=
  left ++ joint.intercalate (widths.map fun w =>
    String.join (List.replicate (w + 2) line)) ++ right

/-- One line of a row. -/
def line (widths : List Nat) (cells : List String) : String :=
  "│" ++ "┆".intercalate (widths.zipWith (fun w cell => " " ++ padTo w cell ++ " ") cells) ++ "│"

/-- The lines of a row. -/
def rowLines (widths : List Nat) (row : List String) : List String :=
  let cells := row.map cellLines
  let height := (cells.map List.length).foldl max 0
  (List.range height).map fun i => line widths (cells.map fun c => c.getD i "")

/-- The lines of a table. -/
def lines (t : Table) : List String :=
  let ws := t.widths
  [rule "┌" "─" "┬" "┐" ws] ++ rowLines ws t.header ++ [rule "╞" "═" "╪" "╡" ws] ++
    t.rows.flatMap (rowLines ws) ++ [rule "└" "─" "┴" "┘" ws]

/-- What a board marks at a row. -/
structure Mark where
  /-- Whether its patches are received. -/
  live : Bool
  selected : Bool
  deriving DecidableEq, Repr

/-- The table of a page of runs, whose first row has the given number.  A column for the workflow is
there if any run came with related records, and columns for marks if rows are marked. -/
def ofRuns (rows : List Run) (first : Nat) (mark : Option (Run → Mark)) : Table :=
  let named := rows.any (·.expansion.isSome)
  let mark := if rows.isEmpty then none else mark
  let between {α : Type} (cond : Bool) (a : α) : List α := if cond then [a] else []
  { header := between mark.isSome "" ++ ["#", "Run ID"] ++ between named "Workflow" ++
      ["Status", "Trigger", "Started", "Ended"] ++ between mark.isSome "Live"
    rows := rows.zipIdx.map fun (r, i) =>
      let marks := mark.map (· r)
      (marks.map fun m => if m.selected then "[x]" else "[ ]").toList ++
        [decimal (first + i), r.id.text] ++ between named r.workflowLabel ++
        [r.status.name, triggerLabel r.trigger, timeLabel r.startedAt, timeLabel r.endedAt] ++
        (marks.map fun m => if m.live then "●" else "").toList }

/-- The table of the statistics. -/
def ofStatistics (s : Statistics) : Table where
  header := ["Certificates", "Expiring soon", "Expired", "Workflows", "Enabled"]
  rows := [[s.certificates, s.expiringSoon, s.expired, s.workflows, s.enabled].map decimal]

end Table

end RunBoard
