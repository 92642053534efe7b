import RunBoard.Time.Instant
import RunBoard.Number.Powers
import RunBoard.Text.Digits
import RunBoard.Text.Blank

/-!
# Reading instants

A text is read in the exchange layout of RFC 3339 first, and in the stored layout if that fails; the
fault that is told is then the one of the stored layout.  The stored layout is lenient: its numbers
may be shorter than usual and have blanks in front, and any blanks, or none, may stand between the
date and the time.
-/

namespace RunBoard.Time

open RunBoard.Text

/-- Why a text is no instant. -/
inductive Fault where
  | invalid
  | tooShort
  | outOfRange
  | tooLong
  deriving DecidableEq, Repr

/-- The text that tells a fault. -/
def Fault.message : Fault → String
  | .invalid => "input contains invalid characters"
  | .tooShort => "premature end of input"
  | .outOfRange => "input is out of range"
  | .tooLong => "trailing input"

/-- Reads the given character. -/
def expect (c : Char) : List Char → Except Fault (List Char)
  | [] => .error .tooShort
  | d :: r => if c = d then .ok r else .error .invalid

/-- Reads a number of at least one digit and at most `width` digits. -/
def upTo (width : Nat) (cs : List Char) : Except Fault (Nat × List Char) :=
  let ds := (cs.take width).takeWhile Char.isDigit
  if ds.isEmpty then .error (if cs.isEmpty then .tooShort else .invalid)
  else .ok (valueFrom 0 ds, cs.drop ds.length)

/-- Reads a number of exactly `width` digits. -/
def exactly (width : Nat) (cs : List Char) : Except Fault (Nat × List Char) := do
  let (n, rest) ← upTo width cs
  if rest.length + width = cs.length then return (n, rest) else .error .invalid

/-- Refuses a number outside of the given bounds. -/
def within (low high : Nat) (found : Except Fault (Nat × List Char)) :
    Except Fault (Nat × List Char) := do
  let (n, rest) ← found
  if low ≤ n ∧ n ≤ high then return (n, rest) else .error .outOfRange

/-- Reads the places behind a point, if there is one.  Nine places count, and all are read. -/
def fraction : List Char → Except Fault (Nat × List Char)
  | '.' :: cs => do
    let (n, rest) ← upTo 9 cs
    return (n * Number.tenTo (9 - (cs.length - rest.length)), rest.dropWhile Char.isDigit)
  | cs => .ok (0, cs)

/-- The moment with the given parts; second 60 is the leap second behind second 59. -/
def civilOf (year : Int) (month day hour minute second nanos : Nat) : Civil :=
  if second = 60 then ⟨⟨year, month, day⟩, hour, minute, 59, nanos + nanosPerSecond⟩
  else ⟨⟨year, month, day⟩, hour, minute, second, nanos⟩

/-! ### The exchange layout -/

/-- Reads the character between date and time. -/
def separator : List Char → Except Fault (List Char)
  | 'T' :: r | 't' :: r | ' ' :: r => .ok r
  | [] => .error .tooShort
  | _ => .error .invalid

/-- Reads an offset from universal time, in seconds. -/
def offset : List Char → Except Fault (Int × List Char)
  | 'Z' :: r | 'z' :: r => .ok (0, r)
  | c :: r =>
    if c = '+' ∨ c = '-' ∨ c = '−' then do
      let (h, r) ← exactly 2 r
      let r ← expect ':' r
      let (m, r) ← within 0 59 (exactly 2 r)
      if h ≤ 23 then
        let size : Int := (h * 3600 + m * 60 : Nat)
        return (if c = '+' then size else -size, r)
      else .error .outOfRange
    else .error .invalid
  | [] => .error .tooShort

/-- Reads a text in the exchange layout. -/
def readExchange (cs : List Char) : Except Fault Instant := do
  let (year, cs) ← exactly 4 cs
  let cs ← expect '-' cs
  let (month, cs) ← within 1 12 (exactly 2 cs)
  let cs ← expect '-' cs
  let (day, cs) ← within 1 31 (exactly 2 cs)
  let cs ← separator cs
  let (hour, cs) ← within 0 23 (exactly 2 cs)
  let cs ← expect ':' cs
  let (minute, cs) ← within 0 59 (exactly 2 cs)
  let cs ← expect ':' cs
  let (second, cs) ← within 0 60 (exactly 2 cs)
  let (nanos, cs) ← fraction cs
  let (ahead, cs) ← offset cs
  if cs.isEmpty then
    let c := civilOf year month day hour minute second nanos
    if c.date.exists then return c.instant ahead else .error .outOfRange
  else .error .tooLong

/-! ### The stored layout -/

/-- Reads a number of at most `width` digits with blanks in front, between the given bounds. -/
def field (width low high : Nat) (cs : List Char) : Except Fault (Nat × List Char) :=
  within low high (upTo width (skipBlanks cs))

/-- Reads a year with blanks in front: at most four digits, or a sign and any number of digits. -/
def year (cs : List Char) : Except Fault (Int × List Char) := do
  let signed (negative : Bool) (r : List Char) : Except Fault (Int × List Char) := do
    let (n, rest) ← upTo r.length r
    return (if negative then -(n : Int) else n, rest)
  let (y, rest) ← match skipBlanks cs with
    | '-' :: r => signed true r
    | '+' :: r => signed false r
    | r => do
      let (n, rest) ← upTo 4 r
      return ((n : Int), rest)
  if -0x80000000 ≤ y ∧ y < 0x80000000 then return (y, rest) else .error .outOfRange

/-- Reads a text in the stored layout. -/
def readStored (cs : List Char) : Except Fault Instant := do
  let (year, cs) ← year cs
  let cs ← expect '-' cs
  let (month, cs) ← field 2 1 12 cs
  let cs ← expect '-' cs
  let (day, cs) ← field 2 1 31 cs
  let cs := skipBlanks cs
  let (hour, cs) ← field 2 0 23 cs
  let cs ← expect ':' cs
  let (minute, cs) ← field 2 0 59 cs
  let cs ← expect ':' cs
  let (second, cs) ← field 2 0 60 cs
  let (nanos, cs) ← fraction cs
  let cs ← expect 'Z' cs
  if cs.isEmpty then
    let c := civilOf year month day hour minute second nanos
    if c.date.exists ∧ earliestYear ≤ year ∧ year ≤ latestYear then return c.instant 0
    else .error .outOfRange
  else .error .tooLong

/-- Reads a text in either layout. -/
def Instant.read (text : String) : Except Fault Instant :=
  match readExchange text.toList with
  | .ok t => .ok t
  | .error _ => readStored text.toList

end RunBoard.Time
