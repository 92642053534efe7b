import RunBoard.Text.Digits

/-!
# The grammar of a command line

A command has options, perhaps a positional argument, and perhaps subcommands, which have the same
again.  This module holds the grammar and the values that a command line gives to it;
`RunBoard.Arguments.Parser` reads command lines.
-/

namespace RunBoard.Arguments

open RunBoard.Text

/-- What a value has to be. -/
inductive ValueKind where
  | text
  /-- A number of 32 bits. -/
  | number
  /-- One of the given words. -/
  | oneOf (words : List String)
  deriving DecidableEq, Repr

/-- What an option does. -/
inductive Effect where
  /-- It is switched on, once at most. -/
  | switch
  /-- It is counted. -/
  | count
  /-- It takes one value, once at most. -/
  | value (kind : ValueKind)
  | help
  | version
  deriving DecidableEq, Repr

/-- An option. -/
structure Opt where
  /-- Its name, which is written behind two hyphens. -/
  name : String
  /-- A letter that stands for it behind one hyphen. -/
  letter : Option Char
  effect : Effect
  /-- A variable of the environment that gives its value when the command line does not. -/
  fallback : Option String
  deriving DecidableEq, Repr

/-- A positional argument. -/
structure Positional where
  name : String
  kind : ValueKind
  /-- Whether it may be given more than once. -/
  many : Bool
  deriving DecidableEq, Repr

/-- A command.  A command with subcommands needs one of them, and a positional argument is needed
too. -/
structure Grammar where
  name : String
  /-- Another name that it goes by. -/
  otherName : Option String
  options : List Opt
  positional : Option Positional
  subcommands : List Grammar
  deriving Repr

/-- Why a command line was not taken.  The wish for help or for the version counts among the
reasons. -/
inductive UsageError where
  | helpWanted
  | versionWanted
  /-- Nothing at all was given to a command that needs a subcommand. -/
  | nothingGiven
  | missingSubcommand
  | unknownSubcommand
  | unknownArgument
  /-- An option was given twice. -/
  | givenTwice
  /-- A value was given to an option that takes none. -/
  | unwantedValue
  /-- A value is missing or is none of the words that are expected. -/
  | badValue
  /-- A value is not of the kind that is expected. -/
  | malformedValue
  | missingArgument
  deriving DecidableEq, Repr

/-- Where a value comes from; later sources prevail over earlier ones. -/
inductive Source where
  | environment
  | commandLine
  deriving DecidableEq, Repr

/-- What was given for an option or a positional argument. -/
structure Given where
  source : Source
  values : List String
  /-- How often it was given. -/
  times : Nat
  deriving DecidableEq, Repr

/-- What was given at each level of subcommands, from the outermost on: the name of the command, and
what was given for its options and arguments. -/
abbrev Levels := List (String × List (String × Given))

namespace Grammar

/-- Whether a command goes by a name. -/
def goesBy (g : Grammar) (name : String) : Bool :=
  g.name == name || g.otherName == some name

/-- The subcommand with a name. -/
def subcommand? (g : Grammar) (name : String) : Option Grammar :=
  g.subcommands.find? (·.goesBy name)

/-- The option with a name. -/
def option? (g : Grammar) (name : String) : Option Opt :=
  g.options.find? (·.name == name)

/-- The option with a letter. -/
def lettered? (g : Grammar) (c : Char) : Option Opt :=
  g.options.find? (·.letter == some c)

end Grammar

/-- Reads an integer of 64 bits with an optional sign. -/
def readInteger (s : String) : Option Int :=
  let number (negative : Bool) (ds : List Char) : Option Int :=
    let n := valueFrom 0 ds
    if ds.isEmpty ∨ !ds.all Char.isDigit then none
    else if negative then if n ≤ 0x8000000000000000 then some (-(n : Int)) else none
    else if n < 0x8000000000000000 then some n else none
  match s.toList with
  | '-' :: r => number true r
  | '+' :: r => number false r
  | r => number false r

/-- Reads a number of 32 bits. -/
def readNumber (s : String) : Option Nat :=
  (readInteger s).bind fun n => if 0 ≤ n ∧ n < 0x100000000 then some n.toNat else none

/-- The fault of a value that is not of its kind. -/
def ValueKind.fault? : ValueKind → String → Option UsageError
  | text, _ => none
  | number, s => if (readNumber s).isSome then none else some .malformedValue
  | oneOf words, s => if s ∈ words then none else some .badValue

end RunBoard.Arguments
