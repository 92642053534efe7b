/-!
# The calendar

The proleptic Gregorian calendar: leap years, the lengths of years and months, and the passage
between dates and day numbers.  Day 0 is the first of January of the year 1.  Years before that are
numbered 0, -1, -2 and so on.
-/

namespace RunBoard.Time

/-- A year, a month counted from one, and a day counted from one. -/
structure Date where
  year : Int
  month : Nat
  day : Nat
  deriving DecidableEq, Repr

/-- Whether a year has 366 days. -/
def isLeapYear (year : Int) : Bool :=
  year % 4 = 0 && (year % 100 ≠ 0 || year % 400 = 0)

/-- The days of a year. -/
def daysInYear (year : Int) : Int :=
  if isLeapYear year then 366 else 365

/-- The days of a month, zero for what is no month. -/
def daysInMonth (leap : Bool) : Nat → Nat
  | 1 | 3 | 5 | 7 | 8 | 10 | 12 => 31
  | 4 | 6 | 9 | 11 => 30
  | 2 => if leap then 29 else 28
  | _ => 0

/-- The number of the first day of a year. -/
def daysBeforeYear (year : Int) : Int :=
  let past := year - 1
  365 * past + past / 4 - past / 100 + past / 400

/-- The days of a year that come before a month. -/
def daysBeforeMonth (leap : Bool) : Nat → Nat
  | 0 => 0
  | 1 => 0
  | month + 1 => daysBeforeMonth leap month + daysInMonth leap month

/-- Whether a date exists. -/
def Date.exists (d : Date) : Bool :=
  1 ≤ d.month && d.month ≤ 12 && 1 ≤ d.day && d.day ≤ daysInMonth (isLeapYear d.year) d.month

/-- The number of a date. -/
def Date.dayNumber (d : Date) : Int :=
  daysBeforeYear d.year + (daysBeforeMonth (isLeapYear d.year) d.month : Nat) + d.day - 1

/-- The year that a day lies in: the mean length of a year gives it up to one year. -/
def yearOfDay (n : Int) : Int :=
  let guess := n * 400 / 146097 + 1
  if n < daysBeforeYear guess then guess - 1
  else if daysBeforeYear (guess + 1) ≤ n then guess + 1
  else guess

/-- The month and the day that lie `rest` days behind the first of `month`, searched for over at
most the given number of months. -/
def monthAndDay (leap : Bool) : Nat → Nat → Nat → Nat × Nat
  | 0, month, rest => (month, rest + 1)
  | months + 1, month, rest =>
    if rest < daysInMonth leap month then (month, rest + 1)
    else monthAndDay leap months (month + 1) (rest - daysInMonth leap month)

/-- The date with a number. -/
def Date.ofDayNumber (n : Int) : Date :=
  let year := yearOfDay n
  let (month, day) := monthAndDay (isLeapYear year) 11 1 (n - daysBeforeYear year).toNat
  ⟨year, month, day⟩

theorem daysBeforeYear_succ (year : Int) :
    daysBeforeYear (year + 1) = daysBeforeYear year + daysInYear year := by
  simp only [daysBeforeYear, daysInYear, isLeapYear, Bool.and_eq_true, Bool.or_eq_true,
    decide_eq_true_eq]
  split <;> omega

/-- Every day lies in its year. -/
theorem daysBeforeYear_yearOfDay (n : Int) :
    daysBeforeYear (yearOfDay n) ≤ n ∧ n < daysBeforeYear (yearOfDay n + 1) := by
  simp only [yearOfDay]
  generalize h : n * 400 / 146097 + 1 = guess
  have h1 : daysBeforeYear (guess - 1) ≤ n := by simp only [daysBeforeYear]; omega
  have h2 : n < daysBeforeYear (guess + 1 + 1) := by simp only [daysBeforeYear]; omega
  split
  · exact ⟨h1, by rwa [Int.sub_add_cancel]⟩
  · split
    · exact ⟨by assumption, h2⟩
    · exact ⟨by omega, by omega⟩

end RunBoard.Time
