import RunBoard.Url.Percent
import RunBoard.Url.Punycode
import RunBoard.Text.Digits

/-!
# Hosts

The host of a URL in the form in which it is written: a name in lower case, an address of four
numbers, or an address of eight groups between brackets.  URLs whose scheme is not one of the
well-known ones have hosts that are taken as they are.
-/

namespace RunBoard.Url

open RunBoard.Text

/-- The value of digits in a base up to sixteen; none if there is another character. -/
def baseValue? (base : Nat) (cs : List Char) : Option Nat :=
  cs.foldlM (fun n c => do
    let d ← hexValue? c
    if d < base then some (n * base + d) else none) 0

/-! ### Addresses of four numbers -/

/-- One number of an address, in base ten, eight or sixteen. -/
def addressNumber? : List Char → Option Nat
  | [] => none
  | '0' :: x :: cs => if x = 'x' ∨ x = 'X' then baseValue? 16 cs else baseValue? 8 (x :: cs)
  | cs => baseValue? 10 cs

/-- The parts of a name between the points, without the empty one behind a final point. -/
def nameParts (name : List Char) : List (List Char) :=
  let parts := ((String.ofList name).splitOn ".").map String.toList
  if 1 < parts.length ∧ parts.getLast? = some [] then parts.dropLast else parts

/-- Whether a name has to be an address: its last part is a number. -/
def endsInNumber (name : List Char) : Bool :=
  match (nameParts name).getLast? with
  | none => false
  | some part => (!part.isEmpty && part.all Char.isDigit) || (addressNumber? part).isSome

/-- The value of an address: every number but the last is one byte, and the last fills the rest. -/
def addressValue? (name : List Char) : Option Nat := do
  let numbers ← (nameParts name).mapM addressNumber?
  let last ← numbers.getLast?
  let bytes := numbers.dropLast
  if bytes.length ≤ 3 ∧ bytes.all (· < 256) ∧ last < Nat.pow 256 (4 - bytes.length) then
    some (bytes.foldl (fun n b => n * 256 + b) 0 * Nat.pow 256 (4 - bytes.length) + last)
  else none

/-- An address as four numbers. -/
def addressText (value : Nat) : String :=
  ".".intercalate ([3, 2, 1, 0].map fun i => decimal (value / Nat.pow 256 i % 256))

/-! ### Addresses of eight groups -/

/-- One of four numbers, without leading zeros. -/
def byte? (cs : List Char) : Option Nat :=
  if cs = [] ∨ (1 < cs.length ∧ cs.head? = some '0') ∨ !cs.all Char.isDigit then none
  else if valueFrom 0 cs < 256 then some (valueFrom 0 cs) else none

/-- The groups of a part of an address; the last part may end in four numbers, which make two
groups. -/
def groups? (mayEndInBytes : Bool) : List (List Char) → Option (List Nat)
  | [] => some []
  | [last] =>
    if last.contains '.' then
      match ((String.ofList last).splitOn ".").mapM fun s => byte? s.toList with
      | some [a, b, c, d] => if mayEndInBytes then some [a * 256 + b, c * 256 + d] else none
      | _ => none
    else (group? last).map ([·])
  | g :: rest => do
    let n ← group? g
    let ns ← groups? mayEndInBytes rest
    return n :: ns
where
  /-- A group of up to four hexadecimal digits. -/
  group? (cs : List Char) : Option Nat :=
    if cs.isEmpty || 4 < cs.length then none else baseValue? 16 cs

/-- The pieces between colons; none at all in an empty text. -/
def colonPieces (s : String) : List (List Char) :=
  if s.isEmpty then [] else (s.splitOn ":").map String.toList

/-- The eight groups of an address, of which two colons may leave out one or more zeros. -/
def eightGroups? (cs : List Char) : Option (List Nat) :=
  match (String.ofList cs).splitOn "::" with
  | [all] => do
    let groups ← groups? true (colonPieces all)
    if groups.length = 8 then some groups else none
  | [left, right] => do
    let before ← groups? false (colonPieces left)
    let after ← groups? true (colonPieces right)
    if before.length + after.length < 8 then
      some (before ++ List.replicate (8 - before.length - after.length) 0 ++ after)
    else none
  | _ => none

/-- How many zeros are at the front. -/
def leadingZeros (groups : List Nat) : Nat :=
  (groups.takeWhile (· = 0)).length

/-- Where the first of the longest runs of zeros starts, and how long it is. -/
def longestZeros (groups : List Nat) : Nat × Nat :=
  (List.range groups.length).foldl (fun (start, length) i =>
    let here := leadingZeros (groups.drop i)
    if length < here then (i, here) else (start, length)) (0, 0)

/-- Groups with colons between them. -/
def groupsText (groups : List Nat) : String :=
  ":".intercalate (groups.map fun n => String.ofList (Nat.toDigits 16 n))

/-- An address of eight groups, the longest run of zeros left out. -/
def eightGroupsText (groups : List Nat) : String :=
  let (start, length) := longestZeros groups
  if length ≤ 1 then groupsText groups
  else groupsText (groups.take start) ++ "::" ++ groupsText (groups.drop (start + length))

/-! ### Hosts -/

/-- The characters that no host may have. -/
def isForbidden (c : Char) : Bool :=
  c ∈ ['\x00', '\t', '\n', '\r', ' ', '#', '/', ':', '<', '>', '?', '@', '[', '\\', ']', '^', '|']

/-- The characters that no name may have. -/
def isForbiddenInName (c : Char) : Bool :=
  isForbidden c || c.toNat < 0x20 || c = '%' || c.toNat = 0x7F

/-- The name or the address that a host stands for. -/
def name? (cs : List Char) : Option String := do
  let name := asciiName (← decode? cs)
  if name.isEmpty || name.any isForbiddenInName then none
  else if endsInNumber name then (addressValue? name).map addressText
  else some (String.ofList name)

/-- Reads a host; `wellKnown` tells whether its scheme gives names a meaning. -/
def host? (wellKnown : Bool) (cs : List Char) : Option String :=
  match cs with
  | '[' :: inner =>
    if inner.getLast? = some ']' then
      (eightGroups? inner.dropLast).map fun groups => "[" ++ eightGroupsText groups ++ "]"
    else none
  | _ =>
    if wellKnown then name? cs
    else if cs.any isForbidden then none
    else some (String.ofList (encode isHidden cs))

end RunBoard.Url
