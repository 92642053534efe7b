import RunBoard.Arguments.Parser
import RunBoard.Dashboard

/-!
# What the program is called for

The grammar of the program's command line, and what a command line asks of the program.
-/

namespace RunBoard

open RunBoard.Arguments

/-- Which page of runs is wanted. -/
structure PageChoice where
  workflow : Option String
  page : Nat
  /-- The size of the page, unless it is left to the settings. -/
  perPage : Option Nat
  deriving DecidableEq, Repr

/-- The query for a page.  A listing of all workflows asks for the workflow of each run too. -/
def PageChoice.query (choice : PageChoice) (usualPerPage : Nat) : Query :=
  .of choice.workflow choice.page (choice.perPage.getD usualPerPage) choice.workflow.isNone

/-- What is to be done. -/
inductive Verb where
  | list (choice : PageChoice)
  | «show» (id : RunId)
  | cancel (id : RunId)
  | delete (ids : List RunId)
  | watch (choice : PageChoice)
  | dashboard (limit : Nat)
  | info
  | completions (shell : String)
  deriving DecidableEq, Repr

/-- What a command line asks for. -/
structure Invocation where
  verb : Verb
  /-- Whether the output is for other programs. -/
  json : Bool
  quiet : Bool
  /-- How much is to be logged. -/
  verbose : Nat
  /-- Whether traces are exported. -/
  tracing : Bool
  backend : Option String
  token : Option String
  deriving DecidableEq, Repr

/-- The name of the program. -/
def programName : String := "certdash"

/-- The variable of the environment that names the backend. -/
def backendVariable : String := "CERTDASH_BACKEND_URL"

/-- The variable of the environment that holds the token. -/
def tokenVariable : String := "CERTDASH_TOKEN"

/-- The shells for which completions can be written. -/
def shells : List String := ["bash", "elvish", "fish", "powershell", "zsh"]

namespace Invocation

/-- An option with a value of its own kind. -/
def valued (name : String) (kind : ValueKind) : Opt :=
  ⟨name, none, .value kind, none⟩

/-- The options that every command has. -/
def commonOptions : List Opt := [
  ⟨"json", none, .switch, none⟩,
  ⟨"quiet", none, .switch, none⟩,
  ⟨"verbose", some 'v', .count, none⟩,
  ⟨"otel", none, .switch, none⟩,
  ⟨"backend", none, .value .text, some backendVariable⟩,
  ⟨"token", none, .value .text, some tokenVariable⟩,
  ⟨"help", some 'h', .help, none⟩,
  ⟨"version", some 'V', .version, none⟩]

/-- The options that choose a page. -/
def pageOptions : List Opt :=
  [valued "workflow" .text, valued "page" .number, valued "per-page" .number]

/-- A command without subcommands. -/
def leaf (name : String) (otherName : Option String) (options : List Opt)
    (positional : Option Positional) : Grammar :=
  ⟨name, otherName, commonOptions ++ options, positional, []⟩

/-- The argument that identifies a run. -/
def idArgument : Positional := ⟨"id", .text, false⟩

/-- The operations on runs. -/
def runsGrammar : Grammar :=
  ⟨"runs", none, commonOptions, none, [
    leaf "list" (some "ls") pageOptions none,
    leaf "show" none [] (some idArgument),
    leaf "cancel" none [] (some idArgument),
    leaf "delete" (some "rm") [] (some ⟨"ids", .text, true⟩)]⟩

/-- The grammar of the program's command line. -/
def grammar : Grammar :=
  ⟨programName, none, commonOptions, none, [
    runsGrammar,
    leaf "watch" none pageOptions none,
    leaf "dashboard" none [valued "limit" .number] none,
    leaf "info" none [] none,
    leaf "completions" none [] (some ⟨"shell", .oneOf shells, false⟩)]⟩

/-- The values given under a name. -/
def values (given : List (String × Given)) (name : String) : List String :=
  ((given.lookup name).map Given.values).getD []

/-- The number given under a name. -/
def number? (given : List (String × Given)) (name : String) : Option Nat :=
  (values given name).head?.bind readNumber

/-- The page that was chosen. -/
def pageChoice (given : List (String × Given)) : PageChoice :=
  ⟨(values given "workflow").head?, (number? given "page").getD 1, number? given "per-page"⟩

/-- The run that was named. -/
def runId (given : List (String × Given)) : RunId :=
  ⟨(values given "id").headD ""⟩

/-- What is to be done, from the names of the commands and what was given to the innermost. -/
def verb? : Levels → Option Verb
  | [_, ("runs", _), ("list", given)] => some (.list (pageChoice given))
  | [_, ("runs", _), ("show", given)] => some (.show (runId given))
  | [_, ("runs", _), ("cancel", given)] => some (.cancel (runId given))
  | [_, ("runs", _), ("delete", given)] => some (.delete ((values given "ids").map RunId.mk))
  | [_, ("watch", given)] => some (.watch (pageChoice given))
  | [_, ("dashboard", given)] =>
    some (.dashboard ((number? given "limit").getD Dashboard.defaultLimit))
  | [_, ("info", _)] => some .info
  | [_, ("completions", given)] => some (.completions ((values given "shell").headD ""))
  | _ => none

/-- Reads a command line, given without the name of the program. -/
def read (environment : List (String × String)) (words : List String) :
    Except UsageError Invocation := do
  let levels ← grammar.parse environment words
  match verb? levels with
  | none => .error .missingSubcommand
  | some verb =>
    let text (name : String) : Option String := (levels.find? name).bind (·.values.head?)
    return {
      verb
      json := (levels.find? "json").isSome
      quiet := (levels.find? "quiet").isSome
      verbose := ((levels.find? "verbose").map (·.times)).getD 0
      tracing := (levels.find? "otel").isSome
      backend := text "backend"
      token := text "token" }

end Invocation

/-- Which messages are logged, unless the environment says otherwise. -/
def logFilter (verbose : Nat) (quiet : Bool) : String :=
  if quiet then "error"
  else match verbose with
    | 0 => "warn"
    | 1 => "info,certdash=debug"
    | 2 => "debug"
    | _ => "trace"

end RunBoard
