import RunBoard.Board.Loading

/-!
# Actions on runs

Canceling and deleting runs.  An action that makes no sense for the rows at hand is rejected before
the backend is asked; after one that was taken the page is loaded again.
-/

namespace RunBoard.Board

/-- Asks for a removal or a cancellation and tells the user if the request failed. -/
def request (b : Board) (c : Call) (result : c.Result → Except RequestError Bool) :
    BoardTask (Board × Except ActionError Bool) := do
  let answer ← call c
  let b := b.receive answer.arrived
  match result answer.result with
  | .ok accepted => return (b, .ok accepted)
  | .error e =>
    report e
    return (b, .error (.request e))

/-- Removes the rows of deleted runs. -/
def dropRows (b : Board) (ids : List RunId) : Board :=
  let rows := b.rows.filter fun r => r.id ∉ ids
  { b with
    rows
    total := b.total - (b.rows.length - rows.length)
    selected := b.selected.filter (· ∉ ids) }

/-- Cancels a run in flight, and loads the page again if the backend accepted.  Gives whether it
did. -/
def cancelRun (b : Board) (id : RunId) : BoardTask (Board × Except ActionError Bool) :=
  match b.row? id with
  | none => pure (b, .error (.notOnPage id))
  | some row =>
    if !row.isInFlight then pure (b, .error (.notCancellable id row.status))
    else do
      let (b, outcome) ← b.request (.cancel row.workflow id) fun r => r
      match outcome with
      | .ok true =>
        let (b, _) ← b.load
        return (b, .ok true)
      | outcome => return (b, outcome)

/-- Deletes a run that has ended, and loads the page again if the backend did.  Gives whether it
did. -/
def deleteRun (b : Board) (id : RunId) : BoardTask (Board × Except ActionError Bool) :=
  match b.row? id with
  | none => pure (b, .error (.notOnPage id))
  | some row =>
    if row.isInFlight then pure (b, .error (.notDeletable id row.status))
    else do
      let (b, outcome) ← b.request (.remove [id]) fun r => r
      match outcome with
      | .ok true =>
        let (b, _) ← (b.dropRows [id]).load
        return (b, .ok true)
      | outcome => return (b, outcome)

/-- The selected runs that have ended, in the order of the page. -/
def deletable (b : Board) : List RunId :=
  ((b.rows.filter fun r => r.id ∈ b.selected).filter Run.isTerminal).map Run.id

/-- Deletes the selected runs that have ended, in one request, and loads the page again if the
backend did.  Gives how many were deleted. -/
def deleteSelected (b : Board) : BoardTask (Board × Except ActionError Nat) :=
  let ids := b.deletable
  if ids.isEmpty then pure (b, .error .nothingToDelete)
  else do
    let (b, outcome) ← b.request (.remove ids) fun r => r
    match outcome with
    | .ok true =>
      let (b, _) ← (b.dropRows ids).load
      return (b, .ok ids.length)
    | .ok false => return (b, .ok 0)
    | .error e => return (b, .error e)

end RunBoard.Board
