import RunBoard.Text.LowerCase

/-!
# Names of hosts beyond ASCII

A label of a host with characters beyond ASCII is written with letters, digits and hyphens alone:
first the ASCII characters, then the others in ascending order, each as the distance from the one
before it.  A distance is a number of variable length in base 36, whose thresholds follow the
distances seen so far.
-/

namespace RunBoard.Url

/-- The digit of a value below 36. -/
def baseDigit (d : Nat) : Char :=
  if d < 26 then Char.ofNat (0x61 + d) else Char.ofNat (0x30 + (d - 26))

/-- The threshold of the digit at a position. -/
def threshold (bias position : Nat) : Nat :=
  if position ≤ bias then 1 else min 26 (position - bias)

theorem threshold_pos (bias position : Nat) : 1 ≤ threshold bias position := by
  unfold threshold
  split <;> omega

/-- A distance as digits, the least first. -/
def distanceDigits (bias position distance : Nat) : List Char :=
  let t := threshold bias position
  if distance < t then [baseDigit distance]
  else baseDigit (t + (distance - t) % (36 - t)) ::
    distanceDigits bias (position + 36) ((distance - t) / (36 - t))
termination_by distance
decreasing_by
  have := threshold_pos bias position
  calc (distance - threshold bias position) / (36 - threshold bias position)
      ≤ distance - threshold bias position := Nat.div_le_self _ _
    _ < distance := by omega

/-- Scales a distance down until it is small, and counts the steps in units of 36. -/
def scaleDown (distance steps : Nat) : Nat × Nat :=
  if 455 < distance then scaleDown (distance / 35) (steps + 36) else (distance, steps)
termination_by distance
decreasing_by exact Nat.div_lt_self (by omega) (by omega)

/-- The thresholds after a distance, given how many characters have been written. -/
def adapt (distance written : Nat) (first : Bool) : Nat :=
  let damped := if first then distance / 700 else distance / 2
  let (small, steps) := scaleDown (damped + damped / written) 0
  steps + 36 * small / (small + 38)

/-- A label that is being written. -/
structure Labelling where
  digits : List Char
  distance : Nat
  bias : Nat
  /-- How many characters have been written. -/
  written : Nat

namespace Labelling

/-- Passes over one character of the label while the character `next` is written. -/
def pass (basic next : Nat) (l : Labelling) (c : Char) : Labelling :=
  if c.toNat < next then { l with distance := l.distance + 1 }
  else if c.toNat = next then
    { digits := l.digits ++ distanceDigits l.bias 36 l.distance
      distance := 0
      bias := adapt l.distance (l.written + 1) (l.written = basic)
      written := l.written + 1 }
  else l

/-- Writes the characters beyond ASCII, of which `first` is the least that is still to come. -/
def run (label : List Char) (basic first : Nat) (l : Labelling) : List Nat → Labelling
  | [] => l
  | next :: rest =>
    let l := { l with distance := l.distance + (next - first) * (l.written + 1) }
    let l := label.foldl (pass basic next) l
    run label basic (next + 1) { l with distance := l.distance + 1 } rest

end Labelling

/-- Puts a number into an ascending list of numbers. -/
def insertNumber (n : Nat) : List Nat → List Nat
  | [] => [n]
  | m :: ms => if n < m then n :: m :: ms else if n = m then m :: ms else m :: insertNumber n ms

/-- A label in ASCII. -/
def asciiLabel (label : List Char) : List Char :=
  let basic := label.filter (·.toNat < 0x80)
  let others := (label.filter (0x80 ≤ ·.toNat)).foldl (fun ns c => insertNumber c.toNat ns) []
  if others.isEmpty then label
  else
    let start : Labelling := ⟨[], 0, 72, basic.length⟩
    let front := if basic.isEmpty then [] else basic ++ ['-']
    "xn--".toList ++ front ++ (start.run label basic.length 0x80 others).digits

/-- The name of a host in lower case and ASCII. -/
def asciiName (name : List Char) : List Char :=
  let labels := (Text.lowerCase (String.ofList name)).splitOn "."
  (".".intercalate (labels.map fun l => String.ofList (asciiLabel l.toList))).toList

end RunBoard.Url
