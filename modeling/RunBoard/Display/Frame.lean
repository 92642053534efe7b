import RunBoard.Display.Page
import RunBoard.Display.Detail
import RunBoard.Text.Quoted
import RunBoard.Session

/-!
# How a board is shown

A frame as lines for the user: the page with its marks, the run that is shown in full, and what has
happened.  For other programs a frame is one value, in which a command is spelled out.
-/

namespace RunBoard

open RunBoard.Text

/-- An identifier of a run, spelled out. -/
def RunId.spelling (id : RunId) : String :=
  "RunId(" ++ quoted id.text ++ ")"

/-- A command, spelled out with everything that it carries. -/
def Command.spelling : Command → String
  | refresh => "Refresh"
  | setPage page perPage =>
    "SetPage \x7b page: " ++ decimal page ++ ", per_page: " ++ decimal perPage ++ " \x7d"
  | setWorkflow none => "SetWorkflow(None)"
  | setWorkflow (some id) => "SetWorkflow(Some(" ++ quoted id ++ "))"
  | select ids => "Select([" ++ ", ".intercalate (ids.map RunId.spelling) ++ "])"
  | toggle id => "Toggle(" ++ id.spelling ++ ")"
  | clearSelection => "ClearSelection"
  | cancel id => "Cancel(" ++ id.spelling ++ ")"
  | delete id => "Delete(" ++ id.spelling ++ ")"
  | deleteSelected => "DeleteSelected"
  | openDetail id => "OpenDetail(" ++ id.spelling ++ ")"
  | closeDetail => "CloseDetail"

namespace Board

/-- What is marked at the row of a run. -/
def mark (b : Board) (r : Run) : Table.Mark :=
  ⟨r.id ∈ b.live, r.id ∈ b.selected⟩

/-- The line below the rows of a board. -/
def footer (b : Board) : String :=
  "  page " ++ decimal b.query.page ++ " · " ++ decimal b.total ++ " total · " ++
    decimal b.live.size ++ " live · " ++ decimal b.selected.length ++ " selected"

/-- The lines that show the rows of a board. -/
def rowLines (b : Board) : List String :=
  if b.rows.isEmpty then [noRuns]
  else (Table.ofRuns b.rows (b.rowNumber 0) (some b.mark)).lines

end Board

/-- The lines that tell the user why a board is shown, where that is not plain to see.  Of a failed
request the user has been told already. -/
def Occasion.lines : Occasion → List String
  | loaded | command _ | rejected (.request _) => []
  | rejected e => ["  ! " ++ e.message]
  | patched id => ["  run " ++ id.text ++ " updated"]

/-- The name of an occasion. -/
def Occasion.name : Occasion → String
  | loaded => "loaded"
  | command _ => "command"
  | rejected _ => "rejected"
  | patched _ => "patched"

/-- What there is to tell of an occasion. -/
def Occasion.description? : Occasion → Option String
  | loaded => none
  | command c => some c.spelling
  | rejected e => some e.message
  | patched id => some id.text

namespace Frame

/-- The line that sets a frame apart from the one before. -/
def rule : String := String.ofList (List.replicate 60 '─')

/-- The lines of a frame. -/
def lines (f : Frame) : List String :=
  ["", rule, pageTitle f.board.query.workflow, ""] ++ f.board.rowLines ++ [f.board.footer] ++
    f.board.detail.elim [] Run.detailLines ++ f.occasion.lines ++ ["  type `help` for commands"]

/-- A frame for other programs. -/
def summary (f : Frame) : Json :=
  let b := f.board
  let ids (l : List RunId) : Json := .array (l.map fun id => .string id.text)
  .ofMembers [
    ("event", .string f.occasion.name),
    ("detail", .text? f.occasion.description?),
    ("page", .nat b.query.page),
    ("per_page", .nat b.query.perPage),
    ("total", .nat b.total),
    ("rows", .array (b.rows.map Run.summary)),
    ("live", ids ((b.rows.map Run.id).filter fun id => id ∈ b.live)),
    ("selected", ids b.selected),
    ("open", b.detail.elim .null Run.summary),
    ("error", .text? b.lastError)]

end Frame

end RunBoard
