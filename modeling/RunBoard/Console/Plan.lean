import RunBoard.Console.Overview
import RunBoard.Console.Runs
import RunBoard.Console.Watch

/-!
# What a command line leads to

Most commands run once; watching goes on until it is stopped; completions need nothing but the name
of a shell.
-/

namespace RunBoard.Console

/-- What a command line leads to. -/
inductive Plan where
  | once (course : Course (Except Trouble Unit))
  | watch (w : Watch)
  | completions (shell : String)

/-- What a command line leads to with the equipment of the program. -/
def Plan.of (i : Invocation) (e : Equipment) : Plan :=
  let query (choice : PageChoice) : Query := choice.query e.settings.display.perPage
  match i.verb with
  | .list choice => .once (list (query choice) i.json)
  | .show id => .once («show» id i.json)
  | .cancel id => .once (cancel id i.json)
  | .delete ids => .once (delete ids i.json)
  | .watch choice => .watch (.new (query choice) i.json)
  | .dashboard limit => .once (dashboard limit i.json)
  | .info => .once (info e i.json)
  | .completions shell => .completions shell

end RunBoard.Console
