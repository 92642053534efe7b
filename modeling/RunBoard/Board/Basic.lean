import RunBoard.Board.Subscriptions

/-!
# The board

A board shows one page of runs, follows the runs in flight among them, lets some of its rows be
selected, and shows one run in full.  This module holds the board itself and what needs no answer
from the backend: looking rows up, selecting them, opening the detail, taking in patches, and
releasing all subscriptions.
-/

namespace RunBoard

/-- A page of runs with everything the user sees of it. -/
structure Board where
  /-- Which page is shown, or about to be. -/
  query : Query
  rows : List Run
  /-- How many runs there are on all pages. -/
  total : Nat
  /-- The selected rows, in ascending order. -/
  selected : List RunId
  live : Subscriptions
  detail : Detail
  /-- What went wrong when the page was last loaded. -/
  lastError : Option String
  deriving Repr

/-- Puts an identifier into an ascending list of identifiers. -/
def insertId (id : RunId) : List RunId → List RunId
  | [] => [id]
  | j :: js =>
    if id = j then j :: js
    else if id.text < j.text then id :: j :: js
    else j :: insertId id js

@[simp] theorem mem_insertId {id j : RunId} {ids : List RunId} :
    j ∈ insertId id ids ↔ j = id ∨ j ∈ ids := by
  induction ids with
  | nil => simp [insertId]
  | cons k ks ih =>
    simp only [insertId]
    split
    · rename_i h
      subst h
      simp
    · split
      · simp
      · simp only [List.mem_cons, ih]
        exact or_left_comm

namespace Board

/-- The board before its first page has been loaded. -/
def new (query : Query) : Board :=
  ⟨query, [], 0, [], .empty, none, none⟩

/-- The row of a run. -/
def row? (b : Board) (id : RunId) : Option Run :=
  Subscriptions.rowOf? b.rows id

/-- Whether a run can be canceled: it is shown as in flight. -/
def canCancel (b : Board) (id : RunId) : Bool :=
  (b.row? id).any Run.isInFlight

/-- Whether a run can be deleted: it is shown as ended. -/
def canDelete (b : Board) (id : RunId) : Bool :=
  (b.row? id).any Run.isTerminal

/-- The number of the row at an index of the page, counted from one over all pages. -/
def rowNumber (b : Board) (index : Nat) : Nat :=
  b.query.rowNumber index

/-- Puts patches behind those that wait. -/
def receive (b : Board) (patches : List Patch) : Board :=
  { b with live := b.live.receive patches }

/-! ### Selecting rows -/

/-- Selects those of the given runs that have a row, and no others. -/
def select (b : Board) (ids : List RunId) : Board :=
  let present := ids.filter fun id => (b.row? id).isSome
  { b with selected := present.foldl (fun acc id => insertId id acc) [] }

/-- Selects a row, or takes it out of the selection.  Gives whether it is selected now. -/
def toggle (b : Board) (id : RunId) : Board × Bool :=
  if id ∈ b.selected then ({ b with selected := b.selected.filter (· ≠ id) }, false)
  else if (b.row? id).isNone then (b, false)
  else ({ b with selected := insertId id b.selected }, true)

/-- Selects nothing. -/
def clearSelection (b : Board) : Board :=
  { b with selected := [] }

/-! ### The detail -/

/-- Shows a row in full.  Gives whether there is one. -/
def openDetail (b : Board) (id : RunId) : Board × Bool :=
  match b.row? id with
  | some r => ({ b with detail := some r }, true)
  | none => (b, false)

/-- Shows no run in full any more.  Gives the run that was shown. -/
def closeDetail (b : Board) : Board × Option Run :=
  ({ b with detail := none }, b.detail)

/-! ### Patches -/

/-- Takes in one patch.  Gives what became of it. -/
def applyPatch (b : Board) (patch : Patch) : BoardTask (Board × Subscriptions.Outcome) := do
  let (live, merged) ← b.live.apply patch b.rows b.detail
  let b := { b with live, rows := merged.rows, detail := merged.detail }
  if merged.outcome = .removed then
    return ({ b with
      total := b.total - 1
      selected := b.selected.filter (· ≠ patch.record.id) }, merged.outcome)
  else return (b, merged.outcome)

/-- The first patch that waits, and the board without it. -/
def nextPatch? (b : Board) : Option (Patch × Board) :=
  b.live.next?.map fun (patch, live) => (patch, { b with live })

/-- Takes in the given patches one after the other.  Gives how many changed the page. -/
def applyAll (b : Board) : List Patch → BoardTask (Board × Nat)
  | [] => pure (b, 0)
  | patch :: patches => do
    let (b, outcome) ← b.applyPatch patch
    let (b, changed) ← applyAll b patches
    return (b, if outcome.changed then changed + 1 else changed)

/-- Takes in all patches that wait.  Gives how many changed the page. -/
def drain (b : Board) : BoardTask (Board × Nat) :=
  let patches := b.live.inbox
  applyAll { b with live := { b.live with inbox := [] } } patches

/-! ### Leaving -/

/-- Releases all subscriptions and discards the patches that wait.  Gives the number of runs
released. -/
def teardown (b : Board) : BoardTask (Board × Nat) := do
  let (live, released) ← b.live.teardown
  return ({ b with live }, released)

end Board

end RunBoard
