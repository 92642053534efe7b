import RunBoard.Arguments.Grammar

/-!
# Reading command lines

A command line is read from left to right, one word after the other.  An option that takes a value
may have it in the same word, behind an equals sign, or in the next word; in the second case it is
settled only when the word after that is looked at, so that a fault of that word is told before one
of the value.  A subcommand is read to its end before the options in front of it are settled.
-/

namespace RunBoard.Arguments

/-- What has been read of one level. -/
structure Progress where
  given : List (String × Given)
  /-- What waits to be settled: an option or the positional argument, by name, and its values. -/
  pending : Option (String × List String)
  /-- Whether the next word may be the value of an option. -/
  awaiting : Bool
  /-- Whether two hyphens have been met, behind which there are positional arguments only. -/
  plain : Bool
  deriving Repr

namespace Progress

/-- Nothing has been read. -/
def start : Progress := ⟨[], none, false, false⟩

/-- What was given under a name. -/
def find? (p : Progress) (name : String) : Option Given :=
  p.given.lookup name

/-- Records what was given under a name. -/
def record (p : Progress) (name : String) (g : Given) : Progress :=
  { p with given := (name, g) :: p.given.filter (·.1 != name) }

end Progress

namespace Grammar

/-- Takes the value of an option. -/
def takeValue (p : Progress) (name : String) (kind : ValueKind) (source : Source)
    (values : List String) : Except UsageError Progress :=
  match values with
  | [] => .error .badValue
  | v :: _ =>
    if (p.find? name).isSome then .error .givenTwice
    else match kind.fault? v with
      | some fault => .error fault
      | none => .ok (p.record name ⟨source, [v], 1⟩)

/-- Adds values of the positional argument. -/
def addValues (p : Progress) (arg : Positional) (values : List String) :
    Except UsageError Progress :=
  match values.findSome? arg.kind.fault? with
  | some fault => .error fault
  | none =>
    let before := ((p.find? arg.name).map (·.values)).getD []
    .ok (p.record arg.name ⟨.commandLine, before ++ values, before.length + values.length⟩)

/-- Settles what is pending. -/
def settle (g : Grammar) (p : Progress) : Except UsageError Progress :=
  match p.pending with
  | none => .ok p
  | some (name, values) =>
    let p := { p with pending := none }
    match g.positional.filter (·.name == name), (g.option? name).map Opt.effect with
    | some arg, _ => addValues p arg values
    | none, some (.value kind) => takeValue p name kind .commandLine values
    | none, _ => .ok p

/-- The greatest count of an option. -/
def greatestCount : Nat := 255

/-- Takes an option that has no value. -/
def takeFlag (g : Grammar) (p : Progress) (o : Opt) : Except UsageError Progress := do
  let p ← g.settle p
  let p := { p with awaiting := false }
  match o.effect with
  | .switch =>
    if (p.find? o.name).isSome then .error .givenTwice
    else return p.record o.name ⟨.commandLine, [], 1⟩
  | .count =>
    let before := ((p.find? o.name).map (·.times)).getD 0
    return p.record o.name ⟨.commandLine, [], min (before + 1) greatestCount⟩
  | .help => .error .helpWanted
  | .version => .error .versionWanted
  | .value _ => return { p with pending := some (o.name, []), awaiting := true }

/-- Takes a word that starts with two hyphens; they are left out of `word`. -/
def takeLong (g : Grammar) (p : Progress) (word : List Char) : Except UsageError Progress :=
  let name := String.ofList (word.takeWhile (· != '='))
  let attached := match word.dropWhile (· != '=') with
    | _ :: v => some (String.ofList v)
    | [] => none
  match g.option? name with
  | none => .error .unknownArgument
  | some o =>
    match o.effect, attached with
    | .value kind, some v => do
      let p ← g.settle p
      takeValue { p with awaiting := false } o.name kind .commandLine [v]
    | _, some _ => .error .unwantedValue
    | _, none => g.takeFlag p o

/-- Takes letters that stand behind one hyphen.  Only options without values have letters. -/
def takeLetters (g : Grammar) (p : Progress) : List Char → Except UsageError Progress
  | [] => .ok p
  | c :: cs =>
    match g.lettered? c with
    | none => .error .unknownArgument
    | some o => do takeLetters g (← g.takeFlag p o) cs

/-- The fault of a word that has no place. -/
def misplaced (g : Grammar) (plain : Bool) (word : String) : UsageError :=
  if g.subcommands.isEmpty then .unknownArgument
  else if plain ∧ ((g.subcommand? word).isSome ∨ word = "help") then .unknownArgument
  else .unknownSubcommand

/-- Takes a word that is neither an option nor the value of one. -/
def takePositional (g : Grammar) (p : Progress) (word : String) : Except UsageError Progress :=
  match g.positional with
  | none => .error (g.misplaced p.plain word)
  | some arg =>
    match p.pending with
    | some (name, values) =>
      if name = arg.name then
        if arg.many then .ok { p with pending := some (name, values ++ [word]) }
        else .error (g.misplaced p.plain word)
      else do
        let p ← g.settle p
        begin p arg
    | none => begin p arg
where
  /-- Starts the positional argument, unless it has been given and may be given once only. -/
  begin (p : Progress) (arg : Positional) : Except UsageError Progress :=
    if (p.find? arg.name).isSome ∧ !arg.many then .error (g.misplaced p.plain word)
    else .ok { p with pending := some (arg.name, [word]), awaiting := false }

/-- Takes the values of the environment for options that were not given. -/
def fromEnvironment (environment : List (String × String)) (p : Progress) :
    List Opt → Except UsageError Progress
  | [] => .ok p
  | o :: os =>
    match o.effect, o.fallback.bind fun v => environment.lookup v with
    | .value kind, some v => do
      let p ← if (p.find? o.name).isSome then .ok p else takeValue p o.name kind .environment [v]
      fromEnvironment environment p os
    | _, _ => fromEnvironment environment p os

/-- Ends a level: settles what is pending, adds what the environment gives, and checks that nothing
is missing. -/
def finish (g : Grammar) (environment : List (String × String)) (p : Progress) (inner : Levels) :
    Except UsageError Levels := do
  let p ← g.settle p
  let p ← fromEnvironment environment p g.options
  if inner.isEmpty ∧ !g.subcommands.isEmpty then
    .error (if p.given.isEmpty then .nothingGiven else .missingSubcommand)
  else if g.positional.any fun arg => (p.find? arg.name).isNone then .error .missingArgument
  else return (g.name, p.given) :: inner

/-- The answer to a wish for help on a path of subcommands. -/
def helpFor (g : Grammar) : List String → UsageError
  | [] => .helpWanted
  | [word] => if word = "help" ∧ !g.subcommands.isEmpty then .helpWanted
    else match g.subcommand? word with
      | some _ => .helpWanted
      | none => .unknownSubcommand
  | word :: words =>
    match g.subcommand? word with
    | some sub => helpFor sub words
    | none => .unknownSubcommand

/-- Reads the words of a command line at one level and all levels below. -/
def parseFrom (environment : List (String × String)) :
    (g : Grammar) → Progress → List String → Except UsageError Levels
  | g, p, [] => g.finish environment p []
  | g, p, word :: words =>
    if p.plain then do parseFrom environment g (← g.takePositional p word) words
    else
      match if p.awaiting then none else g.subcommand? word with
      | some sub => do
        let inner ← parseFrom environment sub .start words
        g.finish environment p inner
      | none =>
        if !p.awaiting ∧ word = "help" ∧ !g.subcommands.isEmpty then .error (g.helpFor words)
        else match word.toList with
          | ['-', '-'] => parseFrom environment g { p with plain := true, awaiting := false } words
          | '-' :: '-' :: rest => do parseFrom environment g (← g.takeLong p rest) words
          | '-' :: c :: rest => do parseFrom environment g (← g.takeLetters p (c :: rest)) words
          | _ =>
            if p.awaiting then
              parseFrom environment g
                { p with
                  pending := p.pending.map fun (name, values) => (name, values ++ [word])
                  awaiting := false } words
            else do parseFrom environment g (← g.takePositional p word) words

/-- Reads the words of a command line. -/
def parse (g : Grammar) (environment : List (String × String)) (words : List String) :
    Except UsageError Levels :=
  parseFrom environment g .start words

end Grammar

/-- What was given for an option that may stand at any level: the innermost level prevails, unless
an outer one has it from a stronger source. -/
def Levels.find? (levels : Levels) (name : String) : Option Given :=
  levels.foldl (fun outer (_, given) =>
    match outer, given.lookup name with
    | some o, some i => if o.source = .commandLine ∧ i.source = .environment then some o else some i
    | o, none => o
    | none, i => i) none

end RunBoard.Arguments
