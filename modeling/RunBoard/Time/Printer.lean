import RunBoard.Time.Instant
import RunBoard.Text.Digits

/-!
# Writing instants

Three layouts: the stored one with whole milliseconds, the exchange layout of RFC 3339 with as many
places as the instant needs, in steps of three, and the displayed one with whole seconds.  A leap
second is written as the second behind the one that it follows, and so as second 60 where it ends a
minute.
-/

namespace RunBoard.Time

open RunBoard.Text

/-- A year with four digits; outside of 0 to 9999 it has a sign and may have more digits. -/
def yearDigits (year : Int) : List Char :=
  if 0 ≤ year ∧ year ≤ 9999 then fixedDigits 4 year.toNat
  else (if year < 0 then '-' else '+') :: paddedDigits 4 year.natAbs

/-- A date as year, month and day, joined by hyphens. -/
def dateDigits (d : Date) : List Char :=
  yearDigits d.year ++ '-' :: (fixedDigits 2 d.month ++ '-' :: fixedDigits 2 d.day)

/-- The second that is shown, in a leap second the one behind `second`. -/
def Civil.shownSecond (c : Civil) : Nat :=
  c.second + c.nanos / nanosPerSecond

/-- The nanoseconds within the second that is shown. -/
def Civil.shownNanos (c : Civil) : Nat :=
  c.nanos % nanosPerSecond

/-- A time of the day as hours, minutes and seconds, joined by colons. -/
def timeDigits (c : Civil) : List Char :=
  fixedDigits 2 c.hour ++ ':' :: (fixedDigits 2 c.minute ++ ':' :: fixedDigits 2 c.shownSecond)

/-- The places behind the second in the exchange layout: none, three, six or nine. -/
def fractionDigits (nanos : Nat) : List Char :=
  if nanos = 0 then []
  else if nanos % 1000000 = 0 then '.' :: fixedDigits 3 (nanos / 1000000)
  else if nanos % 1000 = 0 then '.' :: fixedDigits 6 (nanos / 1000)
  else '.' :: fixedDigits 9 nanos

namespace Instant

/-- The stored layout, cut to whole milliseconds. -/
def stored (t : Instant) : String :=
  let c := t.civil
  String.ofList (dateDigits c.date ++ ' ' :: (timeDigits c ++
    '.' :: (fixedDigits 3 (c.shownNanos / 1000000) ++ ['Z'])))

/-- The exchange layout of RFC 3339, without an offset from universal time. -/
def exchange (t : Instant) : String :=
  let c := t.civil
  String.ofList (dateDigits c.date ++ 'T' :: (timeDigits c ++
    (fractionDigits c.shownNanos ++ ['+', '0', '0', ':', '0', '0'])))

/-- The displayed layout, cut to whole seconds. -/
def displayed (t : Instant) : String :=
  let c := t.civil
  String.ofList (dateDigits c.date ++ ' ' :: timeDigits c)

end Instant

end RunBoard.Time
