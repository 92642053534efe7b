import RunBoard.Session
import RunBoard.Text.Blank
import RunBoard.Text.Digits

/-!
# What is typed while runs are watched

Each line is a command for the board, a wish for help or to stop, empty, or invalid.  The reader
keeps track of the page it has asked for, so that it can go on and back from there.
-/

namespace RunBoard

open RunBoard.Text

/-- What a line says. -/
inductive Input where
  | command (c : Command)
  | help
  | quit
  | empty
  | invalid (message : String)
  deriving DecidableEq, Repr

/-- The page that was asked for last. -/
structure Pager where
  page : Nat
  perPage : Nat
  deriving DecidableEq, Repr

namespace Pager

/-- The greatest number of a page. -/
def greatest : Nat := 0xFFFFFFFF

/-- Asks for a page; a page or a size of zero counts as one. -/
def goTo (page perPage : Nat) : Input × Pager :=
  let p : Pager := ⟨max page 1, max perPage 1⟩
  (.command (.setPage p.page p.perPage), p)

/-- What a verb that takes one run is told when it gets none or several. -/
def oneRunMessage (verb : String) : String :=
  "`" ++ verb ++ "` takes exactly one run id"

/-- The command for the one run that is named, if one is. -/
def withRun (verb : String) (words : List String) (c : RunId → Command) : Input :=
  match words with
  | [id] => .command (c ⟨id⟩)
  | _ => .invalid (oneRunMessage verb)

/-- Reads a line.  The only failure is to ask for the page behind the last one that can be
numbered. -/
def read? (p : Pager) (line : String) : Option (Input × Pager) :=
  match words line with
  | [] => some (.empty, p)
  | verb :: args =>
    match verb with
    | "q" | "quit" | "exit" => some (.quit, p)
    | "h" | "help" | "?" => some (.help, p)
    | "r" | "refresh" => some (.command .refresh, p)
    | "n" | "next" => if p.page < greatest then some (goTo (p.page + 1) p.perPage) else none
    | "prev" => some (goTo (p.page - 1) p.perPage)
    | "p" | "page" =>
      match args.mapM (readBounded greatest) with
      | some [page] => some (goTo page p.perPage)
      | some [page, perPage] => some (goTo page perPage)
      | _ => some (.invalid "usage: page <n> [size]", p)
    | "wf" | "workflow" =>
      match args with
      | [] => some (.command (.setWorkflow none), { p with page := 1 })
      | [workflow] => some (.command (.setWorkflow (some workflow)), { p with page := 1 })
      | _ => some (.invalid "usage: wf [workflow-id]", p)
    | "t" | "toggle" => some (withRun verb args .toggle, p)
    | "clear" => some (.command .clearSelection, p)
    | "cancel" => some (withRun verb args .cancel, p)
    | "rm" | "delete" => some (withRun verb args .delete, p)
    | "rm-selected" => some (.command .deleteSelected, p)
    | "show" => some (withRun verb args .openDetail, p)
    | "close" => some (.command .closeDetail, p)
    | _ =>
      if (verb = "sel" ∨ verb = "select") ∧ !args.isEmpty then
        some (.command (.select (args.map RunId.mk)), p)
      else some (.invalid ("unknown command `" ++ verb ++ "`, type `help`"), p)

end Pager

end RunBoard
