import RunBoard.Board.Basic

/-!
# Loading pages

Fetching the page that a board is to show, and turning to another page or another workflow.  A
fetched record replaces the row of its run unless the row is known to be ahead of it.
-/

namespace RunBoard.Board

/-- The row that is shown for a fetched record, given the rows shown before. -/
def settleRow (rows : List Run) (fetched : Run) : Run :=
  match Subscriptions.rowOf? rows fetched.id with
  | some held => if held.accepts fetched then fetched else held
  | none => fetched

/-- The detail after the rows of a page have been offered to it in turn. -/
def mergeRows (detail : Detail) (rows : List Run) : Detail :=
  rows.foldl Detail.merge detail

/-- Shows a fetched page. -/
def replacePage (b : Board) (page : Page) : Board :=
  let rows := page.items.map (settleRow b.rows)
  { b with
    rows
    total := page.total
    selected := []
    detail := mergeRows b.detail rows
    lastError := none }

/-- Brings the subscriptions in line with the rows.  If that is given up, all are released. -/
def follow (b : Board) : BoardTask Board := do
  let (live, outcome) ← b.live.sync b.rows
  let b := { b with live }
  match outcome with
  | .ok _ => return b
  | .error e =>
    let (b, _) ← b.teardown
    report e
    return b

/-- Fetches the page and follows its runs in flight.  Gives whether the page was replaced. -/
def load (b : Board) : BoardTask (Board × Bool) := do
  let answer ← call (.list b.query)
  let b := b.receive answer.arrived
  match (answer.result : Except RequestError Page) with
  | .ok page =>
    let b ← (b.replacePage page).follow
    return (b, true)
  | .error e =>
    report e
    return (if e.isAbort then b else { b with lastError := some e.message }, false)

/-- Releases everything, selects nothing and loads the page of another query. -/
def turnTo (b : Board) (query : Query) : BoardTask (Board × Bool) := do
  let (b, _) ← b.teardown
  { b.clearSelection with query }.load

/-- Turns to another page, or another size of pages.  Gives whether the page was replaced. -/
def setPage (b : Board) (page perPage : Nat) : BoardTask (Board × Bool) :=
  b.turnTo (b.query.withPage page perPage)

/-- Turns to the first page of the runs of another workflow, or of all.  Gives whether the page was
replaced. -/
def setWorkflow (b : Board) (workflow : Option String) : BoardTask (Board × Bool) :=
  b.turnTo (b.query.withWorkflow workflow)

end RunBoard.Board
