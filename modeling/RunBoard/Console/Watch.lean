import RunBoard.Console.Input
import RunBoard.Console.Output
import RunBoard.Display.Frame

/-!
# Watching runs

A board on the console: it is shown whenever something has changed, and every line that is typed is
carried out before the next one is read.  Watching ends with a wish to stop, with the end of the
lines, or when the pages can no longer be numbered.
-/

namespace RunBoard

/-- What watching tells its surroundings. -/
inductive WatchEvent where
  /-- No more patches of a run are wanted. -/
  | unsubscribe (id : RunId)
  | line (l : Console.Line)
  deriving DecidableEq, Repr

/-- The course of watching. -/
abbrev WatchTask := Task Call Call.Answer WatchEvent

/-- Watching: a session, the page that was asked for last, and whether the frames are for other
programs. -/
structure Watch where
  session : Session
  pager : Pager
  json : Bool
  deriving Repr

namespace Watch

/-- Watching the page of a query, before it has been loaded. -/
def new (q : Query) (json : Bool) : Watch :=
  ⟨.new (.new q), ⟨q.page, q.perPage⟩, json⟩

/-- Writes lines of the result. -/
def say (texts : List String) : WatchTask Unit :=
  Task.emitAll (texts.map fun t => .line (.output t))

/-- Writes a notice. -/
def notice (text : String) : WatchTask Unit :=
  Task.emit (.line (.notice text))

/-- Takes a course of the board, whose failures are told on the console unless the frames are for
other programs. -/
def onBoard {α : Type} (w : Watch) (t : BoardTask α) : WatchTask α :=
  t.run Task.query fun event =>
    match event with
    | .unsubscribe id => Task.emit (.unsubscribe id)
    | .notify description =>
      if w.json then pure () else Task.emit (.line (Console.failureNotice description))

/-- Shows a frame. -/
def showFrame (w : Watch) (f : Frame) : WatchTask Unit :=
  say (if w.json then [f.summary.compact] else f.lines)

/-- Takes in patches one after the other, and shows the board after each that changed it. -/
def absorbAll (w : Watch) : List Patch → WatchTask Watch
  | [] => pure w
  | p :: ps => do
    let (session, frame) ← w.onBoard (w.session.absorb p w.session.board)
    if let some f := frame then w.showFrame f
    absorbAll { w with session } ps

/-- Takes in all patches that wait. -/
def settle (w : Watch) : WatchTask Watch :=
  let b := w.session.board
  let emptied : Board := { b with live := { b.live with inbox := [] } }
  absorbAll { w with session := { w.session with board := emptied } } b.live.inbox

/-- Loads and shows the first page. -/
def start (w : Watch) : WatchTask Watch := do
  let (session, frame) ← w.onBoard w.session.start
  w.showFrame frame
  settle { w with session }

/-- Carries out a command and shows the board. -/
def obey (w : Watch) (c : Command) : WatchTask Watch := do
  let (session, frame) ← w.onBoard (w.session.obey c [])
  w.showFrame frame
  settle { w with session }

/-- Takes in patches that have arrived. -/
def receive (w : Watch) (patches : List Patch) : WatchTask Watch :=
  settle { w with session := { w.session with board := w.session.board.receive patches } }

/-- The commands that can be typed, and what they do. -/
def commands : List (String × String) := [
  ("r", "reload the page"),
  ("n / prev", "next / previous page"),
  ("page <n> [size]", "jump to a page"),
  ("wf [id]", "filter by workflow, or clear the filter"),
  ("sel <id>..", "select runs"),
  ("t <id>", "toggle selection"),
  ("clear", "clear selection"),
  ("cancel <id>", "cancel an in-flight run"),
  ("rm <id>", "delete a finished run"),
  ("rm-selected", "delete selected finished runs"),
  ("show <id> / close", "open or close run detail"),
  ("q", "quit")]

/-- The lines that explain the commands. -/
def help : List String :=
  [""] ++ (commands.map fun (keys, what) => labelled 20 keys what) ++ [""]

/-- Carries out a line that was typed.  None stands for the end of watching. -/
def typed (w : Watch) (line : String) : WatchTask (Option Watch) :=
  match w.pager.read? line with
  | none => pure none
  | some (input, pager) =>
    let w := { w with pager }
    match input with
    | .command c => do return some (← w.obey c)
    | .help => do
      say help
      return some w
    | .quit => pure none
    | .empty => pure (some w)
    | .invalid message => do
      notice ("  ? " ++ message)
      return some w

/-- Releases all subscriptions and says goodbye. -/
def stop (w : Watch) : WatchTask Unit := do
  let _ ← w.onBoard w.session.stop
  if w.json then pure () else say ["  Stopped watching."]

end Watch

end RunBoard
