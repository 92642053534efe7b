import RunBoard.Time.Calendar

/-!
# Instants

An instant is a number of seconds since the beginning of 1970 and a number of nanoseconds.  A leap
second is told from the second before it by its nanoseconds, which are then a billion or more, so
that the order by seconds and then by nanoseconds is the order in time.
-/

namespace RunBoard.Time

/-- A moment of the calendar: a date and a time of the day, to the nanosecond.  In a leap second
`second` is the one before it, and `nanos` is a billion or more. -/
structure Civil where
  date : Date
  hour : Nat
  minute : Nat
  second : Nat
  nanos : Nat
  deriving DecidableEq, Repr

/-- Seconds since the beginning of 1970, and nanoseconds. -/
structure Instant where
  seconds : Int
  nanos : Nat
  deriving DecidableEq, Repr

/-- A billion, the nanoseconds of a second. -/
def nanosPerSecond : Nat := 1000000000

/-- The number of the first of January 1970. -/
def epochDay : Int := 719162

/-- The earliest year. -/
def earliestYear : Int := -262143

/-- The latest year. -/
def latestYear : Int := 262142

/-- The instant of a moment of the calendar, which is read on clocks that are `offset` seconds
ahead. -/
def Civil.instant (c : Civil) (offset : Int) : Instant :=
  let secondOfDay : Nat := c.hour * 3600 + c.minute * 60 + c.second
  ⟨(c.date.dayNumber - epochDay) * 86400 + secondOfDay - offset, c.nanos⟩

namespace Instant

/-- The moment of the calendar at which an instant is reached. -/
def civil (t : Instant) : Civil :=
  let rest := (t.seconds % 86400).toNat
  ⟨.ofDayNumber (t.seconds / 86400 + epochDay), rest / 3600, rest / 60 % 60, rest % 60, t.nanos⟩

/-- Whether one instant comes before another. -/
def before (s t : Instant) : Bool :=
  s.seconds < t.seconds || (s.seconds == t.seconds && s.nanos < t.nanos)

/-- An instant without the part of it below whole milliseconds. -/
def toMillis (t : Instant) : Instant :=
  ⟨t.seconds, t.nanos / 1000000 * 1000000⟩

theorem before_iff {s t : Instant} :
    s.before t = true ↔ s.seconds < t.seconds ∨ s.seconds = t.seconds ∧ s.nanos < t.nanos := by
  simp [before]

theorem not_before_self (t : Instant) : t.before t = false := by
  simp [before]

theorem before_trans {r s t : Instant} (hrs : r.before s = true) (hst : s.before t = true) :
    r.before t = true := by
  rw [before_iff] at *
  omega

end Instant

end RunBoard.Time
