import Mathlib.Tactic.Common
import RunBoard.Time.Instant

/-!
# Dates and day numbers

The date with a number exists and has that number.  So a moment of the calendar at which an instant
is reached exists, and it is the moment of that instant.

A leap second can be stored behind every second, but clocks show second 60 only behind the last
second of a minute.  The instant that they show otherwise is the one a second later.
-/

namespace RunBoard.Time

/-! ### Months and days -/

lemma daysBeforeMonth_succ (leap : Bool) {month : Nat} (h : 1 ≤ month) :
    daysBeforeMonth leap (month + 1) = daysBeforeMonth leap month + daysInMonth leap month := by
  obtain ⟨month, rfl⟩ := Nat.exists_eq_add_of_le' h
  rfl

lemma daysBeforeMonth_twelve (leap : Bool) :
    daysBeforeMonth leap 12 + daysInMonth leap 12 = if leap then 366 else 365 := by
  cases leap <;> rfl

/-- The search for the month ends in a month of the year, and with a day of that month. -/
lemma monthAndDay_spec {leap : Bool} {months month rest m d : Nat} (first : 1 ≤ month)
    (last : month + months = 12)
    (inside : daysBeforeMonth leap month + rest < if leap then 366 else 365)
    (h : monthAndDay leap months month rest = (m, d)) :
    (1 ≤ m ∧ m ≤ 12) ∧ (1 ≤ d ∧ d ≤ daysInMonth leap m) ∧
      daysBeforeMonth leap m + d = daysBeforeMonth leap month + rest + 1 := by
  induction months generalizing month rest with
  | zero =>
    obtain rfl : month = 12 := last
    rw [← daysBeforeMonth_twelve] at inside
    obtain ⟨rfl, rfl⟩ := Prod.mk.inj h
    omega
  | succ months ih =>
    rw [monthAndDay] at h
    split at h
    · obtain ⟨rfl, rfl⟩ := Prod.mk.inj h
      omega
    · have hnext := daysBeforeMonth_succ leap first
      have hfound := ih (by omega) (by omega) (by omega) h
      omega

/-! ### Dates -/

/-- The date with a number exists and has this number. -/
lemma exists_ofDayNumber (n : Int) :
    (Date.ofDayNumber n).exists = true ∧ (Date.ofDayNumber n).dayNumber = n := by
  obtain ⟨hfirst, hlast⟩ := daysBeforeYear_yearOfDay n
  rw [daysBeforeYear_succ, daysInYear] at hlast
  have hinside : daysBeforeMonth (isLeapYear (yearOfDay n)) 1 +
      (n - daysBeforeYear (yearOfDay n)).toNat <
        if isLeapYear (yearOfDay n) then 366 else 365 := by
    rw [daysBeforeMonth]
    by_cases hleap : isLeapYear (yearOfDay n) = true
    · rw [if_pos hleap] at hlast ⊢
      omega
    · rw [if_neg hleap] at hlast ⊢
      omega
  cases hfound : monthAndDay (isLeapYear (yearOfDay n)) 11 1
      (n - daysBeforeYear (yearOfDay n)).toNat with
  | mk m d =>
    obtain ⟨hmonth, hday, hsum⟩ := monthAndDay_spec (by decide) (by decide) hinside hfound
    simp only [Date.ofDayNumber, Date.exists, Date.dayNumber, hfound]
    rw [daysBeforeMonth] at hsum
    refine ⟨by simp [hmonth, hday], ?_⟩
    omega

/-! ### Moments of the calendar -/

/-- A moment of the calendar as clocks show it; only a leap second has a billion nanoseconds or
more, and it comes behind second 59. -/
structure Civil.Valid (c : Civil) : Prop where
  date : c.date.exists = true
  hour : c.hour ≤ 23
  minute : c.minute ≤ 59
  second : c.second ≤ 59
  nanos : c.nanos < nanosPerSecond ∨ c.nanos < 2 * nanosPerSecond ∧ c.second = 59

/-- An instant that can be stored: its year is one of those that are told apart, and it lies in a
second or in a leap second behind it, whichever second that is. -/
structure Instant.Representable (t : Instant) : Prop where
  earliest : earliestYear ≤ t.civil.date.year
  latest : t.civil.date.year ≤ latestYear
  nanos : t.nanos < 2 * nanosPerSecond

namespace Instant

variable {t : Instant}

/-- The instant that clocks show.  A leap second that does not come behind the last second of a
minute is shown as the second that follows. -/
def shown (t : Instant) : Instant :=
  if nanosPerSecond ≤ t.nanos ∧ t.seconds % 60 ≠ 59 then
    ⟨t.seconds + 1, t.nanos - nanosPerSecond⟩
  else t

lemma shown_eq_self (h : t.nanos < nanosPerSecond ∨ t.seconds % 60 = 59) : t.shown = t := by
  rw [shown, if_neg]
  omega

lemma valid_civil_shown (h : t.Representable) : t.shown.civil.Valid where
  date := (exists_ofDayNumber _).1
  hour := by
    simp only [civil]
    omega
  minute := by
    simp only [civil]
    omega
  second := by
    simp only [civil]
    omega
  nanos := by
    have hnanos := h.nanos
    unfold shown
    split <;> simp only [civil] <;> omega

/-- The moment at which an instant is reached is the moment of this instant, whatever is said of the
nanoseconds. -/
lemma instant_civil (t : Instant) (nanos : Nat) :
    Civil.instant { t.civil with nanos } 0 = ⟨t.seconds, nanos⟩ := by
  simp only [Civil.instant, civil, (exists_ofDayNumber _).2, Instant.mk.injEq, and_true]
  omega

end Instant

end RunBoard.Time
