import RunBoard.Number.Binary64
import RunBoard.Text.Digits

/-!
# The shortest decimal of a double-precision number

A number is written with the fewest decimal digits that read back as the same number, and of
several such decimals with the one that is nearest to it.  `shortest` finds the digits by testing,
on ever finer decimal grids, the two grid points that enclose the number; `text` lays them out.
-/

namespace RunBoard.Number

open RunBoard.Text

/-- A positive decimal `digits * 10 ^ power`. -/
structure Decimal where
  digits : Nat
  power : Int
  deriving DecidableEq, Repr

/-- Compares `x * 2 ^ e` with `k * 10 ^ p`. -/
def compareScaled (x : Nat) (e : Int) (k : Nat) (p : Int) : Ordering :=
  compare (x * twoTo e.toNat * tenTo (-p).toNat) (k * tenTo p.toNat * twoTo (-e).toNat)

namespace Binary64

/-- Whether a decimal reads back as `x`: it lies between the midpoints to the two neighbours of
`x`, and may lie on one of them when the significand is even.  Below a power of two the neighbour
is half as far away. -/
def readsBack (x : Binary64) (d : Decimal) : Bool :=
  let m := 4 * x.significand
  let gap := if x.significand = leastNormal ∧ leastExponent < x.exponent then 1 else 2
  let e := x.exponent - 2
  let low := compareScaled (m - gap) e d.digits d.power
  let high := compareScaled (m + 2) e d.digits d.power
  if x.significand % 2 = 0 then low != .gt && high != .lt else low == .lt && high == .gt

/-- The two multiples of `10 ^ p` that enclose the number, the lower one as a count. -/
def gridBelow (x : Binary64) (p : Int) : Nat :=
  (x.significand * twoTo x.exponent.toNat * tenTo (-p).toNat) /
    (tenTo p.toNat * twoTo (-x.exponent).toNat)

/-- Of the two grid points `k` and `k + 1` on the grid of `10 ^ p`, one that reads back; of two such
the nearer, and of two equally near the even one. -/
def onGrid (x : Binary64) (p : Int) : Option Decimal :=
  let k := x.gridBelow p
  let below : Decimal := ⟨k, p⟩
  let above : Decimal := ⟨k + 1, p⟩
  match 0 < k && x.readsBack below, x.readsBack above with
  | false, false => none
  | true, false => some below
  | false, true => some above
  | true, true =>
    match compareScaled (2 * x.significand) x.exponent (2 * k + 1) p with
    | .lt => some below
    | .gt => some above
    | .eq => some (if k % 2 = 0 then below else above)

/-- The first of `steps` grids, from that of `10 ^ p` on to finer ones, that holds a decimal which
reads back. -/
def firstGrid (x : Binary64) : Nat → Int → Decimal
  | 0, p => ⟨x.gridBelow p, p⟩
  | steps + 1, p => (x.onGrid p).getD (firstGrid x steps (p - 1))

/-- The shortest decimal of a number that is not zero.  The first grid tried is coarser than the
number, and nineteen finer ones always suffice. -/
def shortest (x : Binary64) : Decimal :=
  let (num, den) := x.fraction
  let top : Int :=
    if den ≤ num then (decimalDigits (num / den)).length
    else 2 - (decimalDigits (den / num)).length
  x.firstGrid 20 top

/-- The digits of a positive number laid out around the point: positional with at least one digit
on each side when the power of the first digit lies between -5 and 15, and otherwise with one digit
before the point and an exponent that has a sign and at least two digits. -/
def layout (d : Decimal) : List Char :=
  let ds := decimalDigits d.digits
  let e : Int := d.power + ds.length - 1
  if -5 ≤ e ∧ e ≤ 15 then
    if e < 0 then '0' :: '.' :: (List.replicate (-e - 1).toNat '0' ++ ds)
    else
      let whole := e.toNat + 1
      let front := ds.take whole ++ List.replicate (whole - ds.length) '0'
      let back := ds.drop whole
      front ++ '.' :: (if back.isEmpty then ['0'] else back)
  else
    let mantissa := match ds with
      | c :: (r@(_ :: _)) => c :: '.' :: r
      | r => r
    mantissa ++ 'e' :: (if e < 0 then '-' else '+') :: paddedDigits 2 e.natAbs

/-- The text of a number. -/
def text (x : Binary64) : String :=
  let body := if x.isZero then ['0', '.', '0'] else layout x.shortest
  String.ofList (if x.negative then '-' :: body else body)

end Binary64

end RunBoard.Number
