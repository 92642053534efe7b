import RunBoard.Json.Value

/-!
# What a JSON text spells out

Reading a JSON text gives an outline: the tree that the text spells out, kept as close to the text
as later stages need.  The members of an object stand in the order of the text, repeated names
included; a number or a string that is well formed but stands for no value is kept as such; and
where the text breaks off or turns malformed, the outline says so at that place and ends there.  In
this way a reader of the outline meets the faults of a text in the order of the text.
-/

namespace RunBoard.Json

open RunBoard.Number RunBoard.Text

/-- The tree that a text spells out. -/
inductive Outline where
  | null
  | bool (b : Bool)
  /-- A number; none when it lies beyond the range of double-precision numbers. -/
  | number (n : Option Number)
  /-- A string; none when one of its escapes is half a surrogate pair. -/
  | string (s : Option String)
  /-- An array, and whether it ends properly behind its last item. -/
  | array (items : List Outline) (closed : Bool)
  /-- An object, and whether it ends properly behind its last member; otherwise `rest` is what
  stands where the object should go on. -/
  | object (members : List (Option String × Outline)) (rest : Option Outline)
  /-- Malformed text, or the end of the text. -/
  | broken
  deriving Repr, Inhabited

/-- The characters that may stand between the parts of a text. -/
def isGap (c : Char) : Bool :=
  c == ' ' || c == '\n' || c == '\t' || c == '\r'

/-- Drops the gap at the front. -/
def skipGap (cs : List Char) : List Char :=
  cs.dropWhile isGap

/-- The value of a hexadecimal digit. -/
def hexValue (c : Char) : Option Nat :=
  let n := c.toNat
  if 0x30 ≤ n ∧ n ≤ 0x39 then some (n - 0x30)
  else if 0x41 ≤ n ∧ n ≤ 0x46 then some (n - 0x41 + 10)
  else if 0x61 ≤ n ∧ n ≤ 0x66 then some (n - 0x61 + 10)
  else none

/-- The value of four hexadecimal digits. -/
def hexQuad (a b c d : Char) : Option Nat := do
  return (((← hexValue a) * 16 + (← hexValue b)) * 16 + (← hexValue c)) * 16 + (← hexValue d)

/-- The character behind a backslash, for the escapes that have no number. -/
def plainEscape (c : Char) : Option Char :=
  match c with
  | '"' => some '"'
  | '\\' => some '\\'
  | '/' => some '/'
  | 'b' => some '\x08'
  | 'f' => some '\x0C'
  | 'n' => some '\n'
  | 'r' => some '\r'
  | 't' => some '\t'
  | _ => none

/-- One piece of a string: a character or a unit written by its number. -/
inductive Piece where
  | char (c : Char)
  | unit (n : Nat)
  deriving DecidableEq, Repr

/-- The pieces of a string up to its closing quote, and what follows it. -/
def readPieces : List Char → Option (List Piece × List Char)
  | '"' :: cs => some ([], cs)
  | '\\' :: 'u' :: a :: b :: c :: d :: cs => do
    let n ← hexQuad a b c d
    let (ps, rest) ← readPieces cs
    return (.unit n :: ps, rest)
  | '\\' :: e :: cs => do
    let c ← plainEscape e
    let (ps, rest) ← readPieces cs
    return (.char c :: ps, rest)
  | c :: cs =>
    if c.toNat < 0x20 ∨ c = '\\' then none
    else (readPieces cs).map fun (ps, rest) => (.char c :: ps, rest)
  | [] => none

/-- Joins pieces into characters.  A leading surrogate must be followed by a trailing one. -/
def joinPieces : List Piece → Option (List Char)
  | [] => some []
  | .char c :: ps => (joinPieces ps).map (c :: ·)
  | .unit m :: ps =>
    if 0xD800 ≤ m ∧ m ≤ 0xDBFF then
      match ps with
      | .unit n :: qs =>
        if 0xDC00 ≤ n ∧ n ≤ 0xDFFF then
          (joinPieces qs).map (Char.ofNat ((m - 0xD800) * 0x400 + (n - 0xDC00) + 0x10000) :: ·)
        else none
      | _ => none
    else if 0xDC00 ≤ m ∧ m ≤ 0xDFFF then none
    else (joinPieces ps).map (Char.ofNat m :: ·)

/-- A string behind its opening quote: its value, none if it has none, and what follows it. -/
def readString (cs : List Char) : Option (Option String × List Char) :=
  (readPieces cs).map fun (ps, rest) => ((joinPieces ps).map String.ofList, rest)

/-- The digits at the front, and what follows them. -/
def spanDigits (cs : List Char) : List Char × List Char :=
  (cs.takeWhile Char.isDigit, cs.dropWhile Char.isDigit)

/-- The exponent of a number: absent, given, or malformed. -/
def readExponent (cs : List Char) : Option (Option Int × List Char) :=
  match cs with
  | 'e' :: r | 'E' :: r =>
    let (negative, r) := match r with
      | '+' :: r => (false, r)
      | '-' :: r => (true, r)
      | r => (false, r)
    let (ds, rest) := spanDigits r
    if ds.isEmpty then none
    else some (some (if negative then -(valueFrom 0 ds : Int) else valueFrom 0 ds), rest)
  | _ => some (none, cs)

/-- The digits behind the point of a number: absent, given, or malformed. -/
def readFraction (cs : List Char) : Option (Option (List Char) × List Char) :=
  match cs with
  | '.' :: r =>
    let (ds, rest) := spanDigits r
    if ds.isEmpty then none else some (some ds, rest)
  | _ => some (none, cs)

/-- The greatest significand that is kept exactly while digits are read. -/
def greatestSignificand : Nat := 0xFFFFFFFFFFFFFFFF

/-- Takes digits into a significand as long as it stays within its bound; gives the significand and
the digits that are left. -/
def gather : Nat → List Char → Nat × List Char
  | n, [] => (n, [])
  | n, d :: ds =>
    let m := n * 10 + digitValue d
    if m ≤ greatestSignificand then gather m ds else (n, d :: ds)

/-- The number with the given parts.  Without fraction and exponent it is an integer if it fits into
64 bits, minus zero apart; otherwise as many digits as fit into 64 bits make up its significand, and
further digits only move the point. -/
def assemble (negative : Bool) (whole : List Char) (fraction : Option (List Char))
    (exponent : Option Int) : Option Number :=
  let (m, left) := gather 0 whole
  if fraction.isNone ∧ exponent.isNone ∧ left.isEmpty ∧
      (if negative then 0 < m ∧ m ≤ 0x8000000000000000 else True) then
    some (.int (if negative then -(m : Int) else m))
  else
    let ds := fraction.getD []
    let (m, moved) : Nat × Int :=
      if left.isEmpty then
        let (m', unread) := gather m ds
        (m', -((ds.length - unread.length : Nat) : Int))
      else
        -- the significand is full, and may still take digits behind the point that are small enough
        let (m', unread) := gather m ds
        (m', (left.length : Int) - (ds.length - unread.length : Nat))
    (Binary64.ofDecimal negative m (moved + exponent.getD 0)).map .float

/-- A number behind its sign: its value, none if it has none, and what follows it. -/
def readNumber (negative : Bool) (cs : List Char) : Option (Option Number × List Char) := do
  let (whole, cs) := spanDigits cs
  if whole.isEmpty ∨ (whole.head? = some '0' ∧ whole.length ≠ 1) then none
  else
    let (fraction, cs) ← readFraction cs
    let (exponent, cs) ← readExponent cs
    return (assemble negative whole fraction exponent, cs)

/-- What follows the given characters, if the text starts with them. -/
def afterWord : List Char → List Char → Option (List Char)
  | [], cs => some cs
  | w :: ws, c :: cs => if w = c then afterWord ws cs else none
  | _ :: _, [] => none

mutual

/-- Reads a value, a gap in front of it included.  Gives its outline and what follows it; nothing
follows an outline that breaks off.  The first argument bounds the nesting of calls. -/
def readValue : Nat → List Char → Outline × Option (List Char)
  | 0, _ => (.broken, none)
  | fuel + 1, cs =>
    match skipGap cs with
    | 'n' :: r => word .null (afterWord ['u', 'l', 'l'] r)
    | 't' :: r => word (.bool true) (afterWord ['r', 'u', 'e'] r)
    | 'f' :: r => word (.bool false) (afterWord ['a', 'l', 's', 'e'] r)
    | '"' :: r =>
      match readString r with
      | some (s, rest) => (.string s, some rest)
      | none => (.broken, none)
    | '[' :: r =>
      match skipGap r with
      | ']' :: rest => (.array [] true, some rest)
      | r =>
        let (items, rest) := readItems fuel r
        (.array items rest.isSome, rest)
    | '{' :: r =>
      match skipGap r with
      | '}' :: rest => (.object [] none, some rest)
      | r =>
        let (members, rest, left) := readMembers fuel r
        (.object members rest, left)
    | '-' :: r =>
      match readNumber true r with
      | some (n, rest) => (.number n, some rest)
      | none => (.broken, none)
    | c :: r =>
      if c.isDigit then
        match readNumber false (c :: r) with
        | some (n, rest) => (.number n, some rest)
        | none => (.broken, none)
      else (.broken, none)
    | [] => (.broken, none)
where
  /-- The outline of a word, if the text holds it in full. -/
  word (o : Outline) : Option (List Char) → Outline × Option (List Char)
    | some rest => (o, some rest)
    | none => (.broken, none)

/-- Reads the items of an array up to its end, starting at an item. -/
def readItems : Nat → List Char → List Outline × Option (List Char)
  | 0, _ => ([.broken], none)
  | fuel + 1, cs =>
    match readValue fuel cs with
    | (o, none) => ([o], none)
    | (o, some r) =>
      match skipGap r with
      | ']' :: rest => ([o], some rest)
      | ',' :: r =>
        match skipGap r with
        | ']' :: _ | [] => ([o], none)
        | r =>
          let (os, rest) := readItems fuel r
          (o :: os, rest)
      | _ => ([o], none)

/-- Reads the members of an object up to its end, starting at a name.  Gives the members, what
stands where the object should go on if it does not end properly, and what follows the object. -/
def readMembers :
    Nat → List Char → List (Option String × Outline) × Option Outline × Option (List Char)
  | 0, _ => ([], some .broken, none)
  | fuel + 1, cs =>
    match skipGap cs with
    | '"' :: r =>
      match readString r with
      | none => ([], some .broken, none)
      | some (name, r) =>
        match skipGap r with
        | ':' :: r =>
          match readValue fuel r with
          | (o, none) => ([(name, o)], some .broken, none)
          | (o, some r) =>
            match skipGap r with
            | '}' :: rest => ([(name, o)], none, some rest)
            | ',' :: r =>
              let (ms, rest, left) := readMembers fuel r
              ((name, o) :: ms, rest, left)
            | _ => ([(name, o)], some .broken, none)
        | _ => ([(name, .broken)], some .broken, none)
    | r => ([], some (readValue fuel r).1, none)

end

/-- The outline of a text, and whether nothing but a gap follows it. -/
def Outline.read (text : String) : Outline × Bool :=
  let cs := text.toList
  let (o, rest) := readValue (2 * cs.length + 2) cs
  (o, match rest with
    | some r => (skipGap r).isEmpty
    | none => false)

mutual

/-- Whether the text of an outline is well formed throughout. -/
def Outline.whole : Outline → Bool
  | .broken => false
  | .array items closed => wholeItems items && closed
  | .object members rest => wholeMembers members && rest.isNone
  | _ => true

/-- Whether all items are well formed. -/
def wholeItems : List Outline → Bool
  | [] => true
  | o :: os => o.whole && wholeItems os

/-- Whether all members are well formed. -/
def wholeMembers : List (Option String × Outline) → Bool
  | [] => true
  | (_, o) :: ms => o.whole && wholeMembers ms

end

mutual

/-- The value that an outline stands for, with at most `room` levels of nesting still allowed when
there is a limit.  None if the text is malformed, nested too deeply, or holds a number or a string
that has no value. -/
def Outline.value? (room : Option Nat) : Outline → Option Json
  | .null => some .null
  | .bool b => some (.bool b)
  | .number n => n.map .number
  | .string s => s.map .string
  | .array items closed =>
    if room = some 0 ∨ !closed then none
    else (valueItems? (room.map (· - 1)) items).map .array
  | .object members rest =>
    if room = some 0 ∨ rest.isSome then none
    else (valueMembers? (room.map (· - 1)) members).map ofMembers
  | .broken => none

/-- The values of the items of an array. -/
def valueItems? (room : Option Nat) : List Outline → Option (List Json)
  | [] => some []
  | o :: os => do return (← o.value? room) :: (← valueItems? room os)

/-- The values of the members of an object. -/
def valueMembers? (room : Option Nat) :
    List (Option String × Outline) → Option (List (String × Json))
  | [] => some []
  | (k, o) :: ms => do return (← k, ← o.value? room) :: (← valueMembers? room ms)

end

mutual

/-- The outline of a value. -/
def Outline.ofValue : Json → Outline
  | .null => .null
  | .bool b => .bool b
  | .number n => .number (some n)
  | .string s => .string (some s)
  | .array items => .array (outlineItems items) true
  | .object members => .object (outlineMembers members) none

/-- The outlines of the items of an array. -/
def outlineItems : List Json → List Outline
  | [] => []
  | v :: vs => Outline.ofValue v :: outlineItems vs

/-- The outlines of the members of an object. -/
def outlineMembers : List (String × Json) → List (Option String × Outline)
  | [] => []
  | (k, v) :: ms => (some k, Outline.ofValue v) :: outlineMembers ms

end

/-- How many levels of arrays and objects a text may nest. -/
def nestingLimit : Nat := 127

/-- The value that a text spells out. -/
def parse (text : String) : Option Json :=
  match Outline.read text with
  | (o, true) => o.value? (some nestingLimit)
  | (_, false) => none

end RunBoard.Json
