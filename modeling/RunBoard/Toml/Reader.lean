import RunBoard.Toml.Value
import RunBoard.Number.Binary64
import RunBoard.Text.Digits
import RunBoard.Time.Calendar

/-!
# Reading TOML

A reader takes the text that is left and gives what it has read together with what is left after it,
or nothing if the text is malformed.  Lengths of numbers and of nesting are limited: an integer has
64 bits, a number with a fraction must be finite, and neither values nor dotted keys may nest 80
levels deep.
-/

namespace RunBoard.Toml

open RunBoard.Text RunBoard.Number RunBoard.Time

/-- How deep values may not nest. -/
def nestingBound : Nat := 80

/-! ### Blanks, comments and line ends -/

/-- A space or a tabulator. -/
def isSpace (c : Char) : Bool :=
  c == ' ' || c == '\t'

/-- Drops spaces and tabulators. -/
def skipSpaces (cs : List Char) : List Char :=
  cs.dropWhile isSpace

/-- A character that may stand in a comment or a string: no control character but the tabulator. -/
def isPlain (c : Char) : Bool :=
  c == '\t' || (0x20 ≤ c.toNat && c.toNat ≠ 0x7F)

/-- What is left behind a comment, if one is next. -/
def skipComment : List Char → List Char
  | '#' :: cs => cs.dropWhile isPlain
  | cs => cs

/-- What is left behind a line break. -/
def lineBreak : List Char → Option (List Char)
  | '\n' :: cs => some cs
  | '\r' :: '\n' :: cs => some cs
  | _ => none

/-- What is left behind the end of a line, which may be the end of the text. -/
def lineEnd : List Char → Option (List Char)
  | [] => some []
  | cs => lineBreak cs

/-- What is left behind the rest of a line that says no more. -/
def restOfLine (cs : List Char) : Option (List Char) :=
  lineEnd (skipComment (skipSpaces cs))

/-- Drops blanks, line breaks and comments between the items of an array. -/
def skipLines : Nat → List Char → List Char
  | 0, cs => cs
  | fuel + 1, cs =>
    match lineBreak (skipComment (skipSpaces cs)) with
    | some rest => skipLines fuel rest
    | none => skipSpaces cs

/-! ### Strings -/

/-- The value of a hexadecimal digit. -/
def hexValue (c : Char) : Option Nat :=
  let n := c.toNat
  if 0x30 ≤ n ∧ n ≤ 0x39 then some (n - 0x30)
  else if 0x41 ≤ n ∧ n ≤ 0x46 then some (n - 0x41 + 10)
  else if 0x61 ≤ n ∧ n ≤ 0x66 then some (n - 0x61 + 10)
  else none

/-- The character with a number that is written with the given count of hexadecimal digits. -/
def hexChar (count : Nat) (cs : List Char) : Option (Char × List Char) := do
  let ds ← (cs.take count).mapM hexValue
  if ds.length ≠ count then none
  else
    let n := ds.foldl (fun n d => n * 16 + d) 0
    if h : n.isValidChar then some (Char.ofNatAux n h, cs.drop count) else none

/-- The character that an escape stands for, behind the backslash. -/
def escape : List Char → Option (Char × List Char)
  | 'b' :: cs => some ('\x08', cs)
  | 't' :: cs => some ('\t', cs)
  | 'n' :: cs => some ('\n', cs)
  | 'f' :: cs => some ('\x0C', cs)
  | 'r' :: cs => some ('\r', cs)
  | '"' :: cs => some ('"', cs)
  | '\\' :: cs => some ('\\', cs)
  | 'u' :: cs => hexChar 4 cs
  | 'U' :: cs => hexChar 8 cs
  | _ => none

/-- Puts a character in front of a string that is read on. -/
def push (c : Char) (r : Option (List Char × List Char)) : Option (List Char × List Char) :=
  r.map fun (s, rest) => (c :: s, rest)

/-- Reads a string of one line up to its double quote. -/
def basicString : Nat → List Char → Option (List Char × List Char)
  | 0, _ => none
  | _ + 1, '"' :: cs => some ([], cs)
  | fuel + 1, '\\' :: cs => do
    let (c, rest) ← escape cs
    push c (basicString fuel rest)
  | fuel + 1, c :: cs => if isPlain c then push c (basicString fuel cs) else none
  | _ + 1, [] => none

/-- Reads a string of one line, without escapes, up to its single quote. -/
def literalString : List Char → Option (List Char × List Char)
  | '\'' :: cs => some ([], cs)
  | c :: cs => if isPlain c then push c (literalString cs) else none
  | [] => none

/-- What is left when a string of several lines ends here: three quotes, with up to two quotes in
front of them that belong to the string.  Gives the number of those. -/
def closing (quote : Char) (cs : List Char) : Option (Nat × List Char) :=
  let run := (cs.takeWhile (· == quote)).length
  if run < 3 then none
  else
    let extra := min (run - 3) 2
    some (extra, cs.drop (extra + 3))

/-- Drops what a backslash at the end of a line hides: blanks and line breaks.  None if something
else stands between the backslash and the end of the line. -/
def joinLines (cs : List Char) : Option (List Char) :=
  (lineBreak (skipSpaces cs)).map (hidden cs.length)
where
  /-- Drops blanks and line breaks. -/
  hidden : Nat → List Char → List Char
    | 0, cs => cs
    | fuel + 1, cs =>
      match lineBreak (skipSpaces cs) with
      | some rest => hidden fuel rest
      | none => skipSpaces cs

/-- Reads a string of several lines up to its quotes. -/
def longString (quote : Char) (escapes : Bool) : Nat → List Char → Option (List Char × List Char)
  | 0, _ => none
  | fuel + 1, cs =>
    match closing quote cs with
    | some (extra, rest) => some (List.replicate extra quote, rest)
    | none =>
      match lineBreak cs with
      | some rest => push '\n' (longString quote escapes fuel rest)
      | none =>
        match cs with
        | c :: rest =>
          if escapes ∧ c = '\\' then
            match joinLines rest with
            | some rest => longString quote escapes fuel rest
            | none => do
              let (c, rest) ← escape rest
              push c (longString quote escapes fuel rest)
          else if isPlain c then push c (longString quote escapes fuel rest)
          else none
        | [] => none

/-- Drops the line break that may follow the opening quotes of a string of several lines. -/
def skipFirstBreak (cs : List Char) : List Char :=
  (lineBreak cs).getD cs

/-- Reads a string of any kind. -/
def string (cs : List Char) : Option (String × List Char) :=
  let made := match cs with
    | '"' :: '"' :: '"' :: rest => longString '"' true (rest.length + 1) (skipFirstBreak rest)
    | '\'' :: '\'' :: '\'' :: rest => longString '\'' false (rest.length + 1) (skipFirstBreak rest)
    | '"' :: rest => basicString (rest.length + 1) rest
    | '\'' :: rest => literalString rest
    | _ => none
  made.map fun (s, rest) => (String.ofList s, rest)

/-! ### Keys -/

/-- A character of a key without quotes. -/
def isBare (c : Char) : Bool :=
  c.isAlphanum || c == '_' || c == '-'

/-- Reads one part of a key. -/
def simpleKey (cs : List Char) : Option (String × List Char) :=
  match cs with
  | '"' :: rest => (basicString (rest.length + 1) rest).map fun (s, r) => (String.ofList s, r)
  | '\'' :: rest => (literalString rest).map fun (s, r) => (String.ofList s, r)
  | _ =>
    let key := cs.takeWhile isBare
    if key.isEmpty then none else some (String.ofList key, cs.dropWhile isBare)

/-- Reads a key with dots, blanks around its parts included. -/
def dottedKey : Nat → List Char → Option (List String × List Char)
  | 0, _ => none
  | fuel + 1, cs => do
    let (part, rest) ← simpleKey (skipSpaces cs)
    match skipSpaces rest with
    | '.' :: rest => do
      let (parts, rest) ← dottedKey fuel rest
      return (part :: parts, rest)
    | rest => return ([part], rest)

/-- Reads a key; gives the parts in front of the last one, and the last one. -/
def key (cs : List Char) : Option ((List String × String) × List Char) := do
  let (parts, rest) ← dottedKey (cs.length + 1) cs
  if nestingBound ≤ parts.length then none
  else
    let last ← parts.getLast?
    return ((parts.dropLast, last), rest)

/-! ### Numbers, dates and times -/

/-- Takes digits, between which single underscores may stand. -/
def digitRun (digit : Char → Bool) : List Char → Option (List Char × List Char)
  | [] => none
  | c :: cs => if digit c then some (more c cs) else none
where
  /-- Goes on behind a digit. -/
  more (d : Char) : List Char → List Char × List Char
    | '_' :: c :: cs =>
      if digit c then
        let (ds, rest) := more c cs
        (d :: ds, rest)
      else ([d], '_' :: c :: cs)
    | c :: cs =>
      if digit c then
        let (ds, rest) := more c cs
        (d :: ds, rest)
      else ([d], c :: cs)
    | [] => ([d], [])

/-- The sign of a number, and what is left. -/
def sign : List Char → Bool × List Char
  | '-' :: cs => (true, cs)
  | '+' :: cs => (false, cs)
  | cs => (false, cs)

/-- Reads the whole part of a number; a zero stands alone. -/
def whole : List Char → Option (List Char × List Char)
  | '0' :: cs => some (['0'], cs)
  | cs => digitRun Char.isDigit cs

/-- Reads a natural number in another base, behind its mark. -/
def based (base : Nat) (cs : List Char) : Option (Item × List Char) := do
  let (ds, rest) ← digitRun (fun c => (hexValue c).any (· < base)) cs
  let n := ds.foldl (fun n c => n * base + (hexValue c).getD 0) 0
  if n < 0x8000000000000000 then return (.integer n, rest) else none

/-- Reads the exponent of a number. -/
def exponent : List Char → Option (Int × List Char)
  | 'e' :: cs | 'E' :: cs => do
    let (negative, cs) := sign cs
    let (ds, rest) ← digitRun Char.isDigit cs
    return (if negative then -(valueFrom 0 ds : Int) else valueFrom 0 ds, rest)
  | _ => none

/-- Whether a positive number `digits * 10 ^ power` is too large to be finite. -/
def overflows (digits : List Char) (power : Int) : Bool :=
  let n := valueFrom 0 digits
  if n = 0 then false
  else
    let size := power + (decimalDigits n).length
    if 400 < size then true
    else if size < 300 then false
    else (Binary64.nearest false (n * tenTo power.toNat) (tenTo (-power).toNat)).isNone

/-- Reads an integer or a number with a fraction. -/
def number (cs : List Char) : Option (Item × List Char) :=
  match cs with
  | '0' :: 'x' :: rest => based 16 rest
  | '0' :: 'o' :: rest => based 8 rest
  | '0' :: 'b' :: rest => based 2 rest
  | _ =>
    let (negative, cs) := sign cs
    match cs with
    | 'i' :: 'n' :: 'f' :: rest | 'n' :: 'a' :: 'n' :: rest => some (.other, rest)
    | _ => do
      let (ds, rest) ← whole cs
      let fractional (places : List Char) (e : Int) (rest : List Char) :
          Option (Item × List Char) :=
        if !negative ∧ overflows (ds ++ places) (e - places.length) then none
        else some (.other, rest)
      match rest with
      | '.' :: r => do
        let (places, r) ← digitRun Char.isDigit r
        match exponent r with
        | some (e, r) => fractional places e r
        | none => fractional places 0 r
      | _ =>
        match exponent rest with
        | some (e, r) => fractional [] e r
        | none =>
          let n : Int := if negative then -(valueFrom 0 ds : Int) else valueFrom 0 ds
          if -0x8000000000000000 ≤ n ∧ n < 0x8000000000000000 then return (.integer n, rest)
          else none

/-- Reads exactly `count` digits as a number between two bounds. -/
def fixed (count low high : Nat) (cs : List Char) : Option (Nat × List Char) :=
  let ds := cs.take count
  let n := valueFrom 0 ds
  if ds.length = count ∧ ds.all Char.isDigit ∧ low ≤ n ∧ n ≤ high then some (n, cs.drop count)
  else none

/-- What is left behind a given character. -/
def after (c : Char) : List Char → Option (List Char)
  | d :: cs => if c = d then some cs else none
  | [] => none

/-- Reads a time of the day. -/
def time (cs : List Char) : Option (List Char) := do
  let (_, cs) ← fixed 2 0 23 cs
  let (_, cs) ← fixed 2 0 59 (← after ':' cs)
  let (_, cs) ← fixed 2 0 60 (← after ':' cs)
  match cs with
  | '.' :: rest =>
    let ds := rest.takeWhile Char.isDigit
    if ds.isEmpty then none else some (rest.dropWhile Char.isDigit)
  | _ => some cs

/-- Drops an offset from universal time, if one is next. -/
def skipOffset (cs : List Char) : Option (List Char) :=
  match cs with
  | 'Z' :: rest | 'z' :: rest => some rest
  | '+' :: rest | '-' :: rest => do
    let (_, rest) ← fixed 2 0 23 rest
    let (_, rest) ← fixed 2 0 59 (← after ':' rest)
    return rest
  | _ => some cs

/-- Reads a date, perhaps with a time and an offset, or a time alone.  The outer option tells
whether the text starts like one at all. -/
def dateTime (cs : List Char) : Option (Option (List Char)) :=
  match fixed 4 0 9999 cs with
  | some (year, '-' :: rest) => some do
    let (month, rest) ← fixed 2 1 12 rest
    let (day, rest) ← fixed 2 1 31 (← after '-' rest)
    if daysInMonth (isLeapYear year) month < day then none
    else match rest with
      | 'T' :: r | 't' :: r | ' ' :: r => afterDate rest r
      | _ => some rest
  | _ =>
    match fixed 2 0 99 cs with
    | some (_, ':' :: _) => some (time cs)
    | _ => none
where
  /-- Goes on behind a date: if no time follows, the text goes on where the date ends. -/
  afterDate (rest r : List Char) : Option (List Char) :=
    match fixed 2 0 23 r with
    | some (_, ':' :: _) => do skipOffset (← time r)
    | _ => some rest

/-! ### Values -/

/-- What is left behind the given characters. -/
def afterWord : List Char → List Char → Option (List Char)
  | [], cs => some cs
  | w :: ws, cs => (after w cs).bind (afterWord ws)

mutual

/-- Reads a value.  The first argument bounds the calls, the second is the number of levels that may
still be nested. -/
def value : Nat → Nat → List Char → Option (Item × List Char)
  | 0, _, _ => none
  | fuel + 1, room, cs =>
    match cs with
    | '"' :: _ | '\'' :: _ => (string cs).map fun (s, rest) => (.string s, rest)
    | '[' :: rest =>
      if room = 0 then none
      else (arrayItems fuel (room - 1) rest).map fun (items, rest) => (.array items, rest)
    | '{' :: rest =>
      if room = 0 then none
      else
        match skipSpaces rest with
        | '}' :: rest => some (.inlineTable [], rest)
        | rest => do
          let (assignments, rest) ← assignments fuel (room - 1) rest
          return (.inlineTable (← Entries.ofAssignments assignments), rest)
    | 't' :: _ => (afterWord ['t', 'r', 'u', 'e'] cs).map fun rest => (.other, rest)
    | 'f' :: _ => (afterWord ['f', 'a', 'l', 's', 'e'] cs).map fun rest => (.other, rest)
    | c :: _ =>
      if c.isDigit ∨ c = '+' ∨ c = '-' ∨ c = 'i' ∨ c = 'n' then
        match dateTime cs with
        | some found => found.map fun rest => (.other, rest)
        | none => number cs
      else none
    | [] => none

/-- Reads the items of an array up to its bracket. -/
def arrayItems : Nat → Nat → List Char → Option (List Item × List Char)
  | 0, _, _ => none
  | fuel + 1, room, cs =>
    match skipLines cs.length cs with
    | ']' :: rest => some ([], rest)
    | cs => do
      let (item, rest) ← value fuel room cs
      match skipLines rest.length rest with
      | ']' :: rest => return ([item], rest)
      | ',' :: rest => do
        let (items, rest) ← arrayItems fuel room rest
        return (item :: items, rest)
      | _ => none

/-- Reads the assignments of a table up to its brace; there is at least one. -/
def assignments : Nat → Nat → List Char → Option (List (List String × String × Item) × List Char)
  | 0, _, _ => none
  | fuel + 1, room, cs => do
    let ((path, k), rest) ← key cs
    let (v, rest) ← value fuel room (skipSpaces (← after '=' rest))
    match skipSpaces rest with
    | '}' :: rest => return ([(path, k, v)], rest)
    | ',' :: rest => do
      let (more, rest) ← assignments fuel room rest
      return ((path, k, v) :: more, rest)
    | _ => none

end

/-! ### Documents -/

/-- Reads the lines of a document.  `header` is the path of the table that was opened last. -/
def lines : Nat → List String → Document → List Char → Option Document
  | 0, _, _, _ => none
  | fuel + 1, header, doc, cs =>
    match skipSpaces cs with
    | [] => some doc
    | '#' :: rest => do lines fuel header doc (← lineEnd (rest.dropWhile isPlain))
    | '\n' :: rest => lines fuel header doc rest
    | '\r' :: '\n' :: rest => lines fuel header doc rest
    | '[' :: '[' :: rest => do
      let ((path, k), rest) ← key rest
      let rest ← restOfLine (← after ']' (← after ']' rest))
      lines fuel (path ++ [k]) (← doc.startTable path k) rest
    | '[' :: rest => do
      let ((path, k), rest) ← key rest
      let rest ← restOfLine (← after ']' rest)
      lines fuel (path ++ [k]) (← doc.openHeader path k) rest
    | cs => do
      let ((path, k), rest) ← key cs
      let (v, rest) ← value (2 * rest.length + 2) (nestingBound - 1) (skipSpaces (← after '=' rest))
      let rest ← restOfLine rest
      lines fuel header (← doc.assignIn header path k v) rest

/-- Reads a document; a byte order mark in front of it is passed over. -/
def Document.read (text : String) : Option Document :=
  let cs := match text.toList with
    | '\uFEFF' :: cs => cs
    | cs => cs
  lines (cs.length + 1) [] [] cs

end RunBoard.Toml
