import RunBoard.Number.Powers

/-!
# Double-precision numbers, exactly

A finite double-precision number is held as its sign, its integer significand and its power of two.
Everything is computed with natural numbers: a fraction is brought to the scale of the result and
its quotient is rounded once, a half going to the even neighbour.
-/

namespace RunBoard.Number

/-- The finite number `significand * 2 ^ exponent`, negated when `negative` holds.  The significand
is below `2 ^ 53`, and at least `2 ^ 52` unless the exponent is the least one, `-1074`. -/
structure Binary64 where
  negative : Bool
  significand : Nat
  exponent : Int
  deriving DecidableEq, Repr

/-- A quotient rounded to an integer; a half goes to the even neighbour. -/
def roundHalfEven (num den : Nat) : Nat :=
  let q := num / den
  let r := 2 * (num % den)
  if r < den then q
  else if den < r then q + 1
  else if q % 2 = 0 then q
  else q + 1

/-- The fraction `num / den` divided by `2 ^ e`, as a numerator and a denominator. -/
def unscale (num den : Nat) (e : Int) : Nat × Nat :=
  if 0 ≤ e then (num, den * twoTo e.toNat) else (num * twoTo (-e).toNat, den)

namespace Binary64

/-- The least exponent. -/
def leastExponent : Int := -1074

/-- The greatest exponent. -/
def greatestExponent : Int := 971

/-- The least significand of a number whose exponent is not the least, `2 ^ 52`. -/
def leastNormal : Nat := 0x10000000000000

/-- Zero, with a sign. -/
def zero (negative : Bool) : Binary64 :=
  ⟨negative, 0, leastExponent⟩

/-- Whether the number is a zero of either sign. -/
def isZero (x : Binary64) : Bool :=
  x.significand == 0

/-- The number nearest to `num / den`, or nothing when the fraction lies beyond the finite range. -/
def nearest (negative : Bool) (num den : Nat) : Option Binary64 :=
  if num = 0 then some (zero negative)
  else
    let low := max leastExponent ((num.log2 : Int) - den.log2 - 53)
    let (n, d) := unscale num den low
    let e := if 2 * leastNormal ≤ n / d then low + 1 else low
    let (n, d) := unscale num den e
    let m := roundHalfEven n d
    let (m, e) := if m = 2 * leastNormal then (leastNormal, e + 1) else (m, e)
    if greatestExponent < e then none else some ⟨negative, m, e⟩

/-- The magnitude of a number as a fraction. -/
def fraction (x : Binary64) : Nat × Nat :=
  unscale x.significand 1 (-x.exponent)

/-- Numbers are equal when their values are: the two zeros are, whatever their signs. -/
def same (x y : Binary64) : Bool :=
  x == y || (x.isZero && y.isZero)

/-- The number nearest to `10 ^ k`, for `k` up to 308, as a fraction. -/
def powerOfTen (k : Nat) : Nat × Nat :=
  match nearest false (tenTo k) 1 with
  | some x => x.fraction
  | none => (tenTo k, 1)

/-- The magnitude of `x` times the rounded `10 ^ k`, rounded once more. -/
def timesPowerOfTen (x : Binary64) (k : Nat) : Option Binary64 :=
  let (a, b) := x.fraction
  let (p, q) := powerOfTen k
  nearest x.negative (a * p) (b * q)

/-- The magnitude of `x` divided by the rounded `10 ^ k`, rounded once more. -/
def overPowerOfTen (x : Binary64) (k : Nat) : Option Binary64 :=
  let (a, b) := x.fraction
  let (p, q) := powerOfTen k
  nearest x.negative (a * q) (b * p)

/-- Divides by `10 ^ k`, in steps of `10 ^ 308` while `k` is larger than that.  After `steps` of
them, or once the number is zero, the rest does not matter. -/
def shrink : Nat → Binary64 → Nat → Option Binary64
  | 0, x, _ => some x
  | steps + 1, x, k =>
    if x.isZero then some x
    else if k ≤ 308 then x.overPowerOfTen k
    else (x.overPowerOfTen 308).bind fun y => shrink steps y (k - 308)

/-- The number written as `significand * 10 ^ exponent`: the significand is rounded first, and the
power of ten is applied to the rounded value.  A magnitude beyond the finite range gives nothing. -/
def ofDecimal (negative : Bool) (significand : Nat) (exponent : Int) : Option Binary64 :=
  (nearest negative significand 1).bind fun x =>
    if x.isZero then some x
    else if exponent < 0 then shrink 4 x (-exponent).toNat
    else if 308 < exponent then none
    else x.timesPowerOfTen exponent.toNat

end Binary64

end RunBoard.Number
