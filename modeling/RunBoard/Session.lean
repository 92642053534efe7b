import RunBoard.Board.Actions

/-!
# Sessions

A session drives a board.  Commands of the user and patches of the backend are handled one at a
time; the wish to stop comes before commands, and commands come before patches.  After the first
load, after each command and after each patch that changed the page the board is shown, together
with what has happened.
-/

namespace RunBoard

/-- What the user can ask of a board. -/
inductive Command where
  | refresh
  | setPage (page perPage : Nat)
  | setWorkflow (workflow : Option String)
  | select (ids : List RunId)
  | toggle (id : RunId)
  | clearSelection
  | cancel (id : RunId)
  | delete (id : RunId)
  | deleteSelected
  | openDetail (id : RunId)
  | closeDetail
  deriving DecidableEq, Repr

/-- Why the board is shown. -/
inductive Occasion where
  | loaded
  | command (c : Command)
  /-- A command was rejected or failed. -/
  | rejected (e : ActionError)
  | patched (id : RunId)
  deriving DecidableEq, Repr

/-- A board to be shown, and why. -/
structure Frame where
  occasion : Occasion
  board : Board
  deriving Repr

namespace Board

/-- Carries out a command.  Gives the error of one that was rejected or failed. -/
def handle (b : Board) : Command → BoardTask (Board × Except ActionError Unit)
  | .refresh => do
    let (b, _) ← b.load
    return (b, .ok ())
  | .setPage page perPage => do
    let (b, _) ← b.setPage page perPage
    return (b, .ok ())
  | .setWorkflow workflow => do
    let (b, _) ← b.setWorkflow workflow
    return (b, .ok ())
  | .select ids => pure (b.select ids, .ok ())
  | .toggle id => pure ((b.toggle id).1, .ok ())
  | .clearSelection => pure (b.clearSelection, .ok ())
  | .cancel id => do
    let (b, outcome) ← b.cancelRun id
    return (b, outcome.map fun _ => ())
  | .delete id => do
    let (b, outcome) ← b.deleteRun id
    return (b, outcome.map fun _ => ())
  | .deleteSelected => do
    let (b, outcome) ← b.deleteSelected
    return (b, outcome.map fun _ => ())
  | .openDetail id =>
    match b.openDetail id with
    | (b, true) => pure (b, .ok ())
    | (b, false) => pure (b, .error (.notOnPage id))
  | .closeDetail => pure (b.closeDetail.1, .ok ())

end Board

/-- A board with the commands that wait for it. -/
structure Session where
  board : Board
  commands : List Command
  /-- Whether commands can still be sent. -/
  isOpen : Bool
  deriving Repr

namespace Session

/-- How many commands may wait. -/
def capacity : Nat := 32

/-- What a session does next. -/
inductive Turn where
  /-- It ends. -/
  | stop
  | command (c : Command) (rest : List Command)
  | patch (p : Patch) (board : Board)
  /-- It waits until something arrives. -/
  | wait
  deriving Repr

/-- The session of a board that no command has been sent to yet. -/
def new (board : Board) : Session :=
  ⟨board, [], true⟩

/-- Sends a command.  Gives whether it was taken, which needs room and an open session. -/
def send (s : Session) (c : Command) : Session × Bool :=
  if s.isOpen ∧ s.commands.length < capacity then
    ({ s with commands := s.commands ++ [c] }, true)
  else (s, false)

/-- Lets no further command in. -/
def close (s : Session) : Session :=
  { s with isOpen := false }

/-- What a session does next, given whether it is told to stop. -/
def turn (s : Session) (stopping : Bool) : Turn :=
  if stopping then .stop
  else match s.commands with
    | c :: rest => .command c rest
    | [] =>
      if !s.isOpen then .stop
      else match s.board.nextPatch? with
        | some (p, board) => .patch p board
        | none => .wait

/-- Loads the first page and shows it. -/
def start (s : Session) : BoardTask (Session × Frame) := do
  let (board, _) ← s.board.load
  return ({ s with board }, ⟨.loaded, board⟩)

/-- Carries out one command and shows the board. -/
def obey (s : Session) (c : Command) (rest : List Command) : BoardTask (Session × Frame) := do
  let (board, outcome) ← s.board.handle c
  let occasion := match outcome with
    | .ok () => Occasion.command c
    | .error e => Occasion.rejected e
  return ({ s with board, commands := rest }, ⟨occasion, board⟩)

/-- Takes in one patch and shows the board if its page has changed. -/
def absorb (s : Session) (p : Patch) (board : Board) : BoardTask (Session × Option Frame) := do
  let (board, outcome) ← board.applyPatch p
  return ({ s with board },
    if outcome.changed then some ⟨.patched p.record.id, board⟩ else none)

/-- Releases all subscriptions at the end. -/
def stop (s : Session) : BoardTask Board := do
  let (board, _) ← s.board.teardown
  return board

end Session

end RunBoard
