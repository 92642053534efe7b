import Mathlib.Tactic.Ring
import RunBoard.Proofs.Text.Numerals
import RunBoard.Proofs.Time.Calendar
import RunBoard.Time.Printer
import RunBoard.Time.Reader

/-!
# Reading the stored layout back

An instant that is written in the stored layout is read back as clocks show it, cut to whole
milliseconds.  With a year of four digits the text is also one in the exchange layout and is read as
such; a year with a sign is none there, and the stored layout takes the text.

Each numeral of the text is read on its own, whatever follows it; this is said first, then the two
layouts are gone through from front to back.
-/

namespace RunBoard.Time

open RunBoard.Text

variable {width n low high : Nat} {ds rest : List Char}

/-! ### Numerals at the front of a text -/

/-- Digits are read up to where they end, or as many as may be. -/
lemma upTo_append (hne : ds ≠ []) (hdigits : ∀ c ∈ ds, c.isDigit = true) (hlen : ds.length ≤ width)
    (hstop : (rest.take (width - ds.length)).takeWhile Char.isDigit = []) :
    upTo width (ds ++ rest) = .ok (valueFrom 0 ds, rest) := by
  have htake : ((ds ++ rest).take width).takeWhile Char.isDigit = ds := by
    rw [List.take_append, List.take_of_length_le hlen, List.takeWhile_append_of_pos hdigits, hstop,
      List.append_nil]
  simp only [upTo, htake, List.drop_left]
  rw [if_neg (by simpa using hne)]

lemma upTo_fixedDigits (hwidth : 0 < width) (h : n < 10 ^ width) :
    upTo width (fixedDigits width n ++ rest) = .ok (n, rest) := by
  rw [upTo_append (fixedDigits_ne_nil hwidth n) (fun _ => isDigit_of_mem_fixedDigits) (by simp)
    (by simp), valueFrom_fixedDigits_of_lt h]

lemma exactly_fixedDigits (hwidth : 0 < width) (h : n < 10 ^ width) :
    exactly width (fixedDigits width n ++ rest) = .ok (n, rest) := by
  simp [exactly, upTo_fixedDigits hwidth h, bind, Except.bind, pure, Except.pure, Nat.add_comm]

lemma within_ok (hlow : low ≤ n) (hhigh : n ≤ high) :
    within low high (.ok (n, rest)) = .ok (n, rest) := by
  simp [within, hlow, hhigh, bind, Except.bind, pure, Except.pure]

lemma isBlank_of_isDigit {c : Char} (h : c.isDigit = true) : isBlank c = false := by
  obtain ⟨hlow, hhigh⟩ := Char.isDigit_iff_toNat.mp h
  simp only [Char.reduceToNat] at hlow hhigh
  simp only [isBlank, Bool.or_eq_false_iff, Bool.and_eq_false_iff, decide_eq_false_iff_not,
    beq_eq_false_iff_ne]
  omega

/-- A numeral has no blanks in front. -/
lemma skipBlanks_append (hne : ds ≠ []) (hdigits : ∀ c ∈ ds, c.isDigit = true) :
    skipBlanks (ds ++ rest) = ds ++ rest := by
  cases ds with
  | nil => exact absurd rfl hne
  | cons c ds => exact skipBlanks_cons_of_not (isBlank_of_isDigit (hdigits c List.mem_cons_self))

lemma skipBlanks_fixedDigits (hwidth : 0 < width) (n : Nat) (rest : List Char) :
    skipBlanks (fixedDigits width n ++ rest) = fixedDigits width n ++ rest :=
  skipBlanks_append (fixedDigits_ne_nil hwidth n) fun _ => isDigit_of_mem_fixedDigits

lemma field_fixedDigits (hwidth : 0 < width) (h : n < 10 ^ width) (hlow : low ≤ n)
    (hhigh : n ≤ high) :
    field width low high (fixedDigits width n ++ rest) = .ok (n, rest) := by
  rw [field, skipBlanks_fixedDigits hwidth, upTo_fixedDigits hwidth h, within_ok hlow hhigh]

lemma expect_cons (c : Char) (rest : List Char) : expect c (c :: rest) = .ok rest :=
  if_pos rfl

/-- Nothing is read as a digit where no digit stands. -/
lemma span_of_head (hstop : ∀ c ∈ rest.head?, c.isDigit = false) :
    rest.takeWhile Char.isDigit = [] ∧ rest.dropWhile Char.isDigit = rest := by
  cases rest with
  | nil => exact ⟨rfl, rfl⟩
  | cons c rest => simp [hstop c rfl]

/-- Places behind the point are read up to where they end, as so many nanoseconds. -/
lemma fraction_fixedDigits (hwidth : 0 < width) (hnine : width ≤ 9) (h : n < 10 ^ width)
    (hstop : ∀ c ∈ rest.head?, c.isDigit = false) :
    fraction ('.' :: (fixedDigits width n ++ rest)) = .ok (n * Number.tenTo (9 - width), rest) := by
  have hfirst : ∀ c ∈ (rest.take (9 - width)).head?, c.isDigit = false := by
    intro c hc
    rw [List.head?_take] at hc
    split at hc
    · cases hc
    · exact hstop c hc
  have hread : upTo 9 (fixedDigits width n ++ rest) = .ok (n, rest) := by
    rw [upTo_append (fixedDigits_ne_nil hwidth n) (fun _ => isDigit_of_mem_fixedDigits)
      (by simpa using hnine) (by simpa using (span_of_head hfirst).1),
      valueFrom_fixedDigits_of_lt h]
  have hplaces : width + rest.length - rest.length = width := by omega
  simp only [fraction, hread, bind, Except.bind, pure, Except.pure, List.length_append,
    length_fixedDigits, hplaces, (span_of_head hstop).2]

/-- Three places are whole milliseconds. -/
lemma fraction_millis (h : n < 1000) :
    fraction ('.' :: (fixedDigits 3 n ++ ['Z'])) = .ok (n * 1000000, ['Z']) :=
  fraction_fixedDigits (by decide) (by decide) h (by rintro c ⟨⟩; rfl)

/-! ### The two layouts -/

/-- The text of a moment in the stored layout. -/
def Civil.storedChars (c : Civil) : List Char :=
  dateDigits c.date ++ ' ' :: (timeDigits c ++
    '.' :: (fixedDigits 3 (c.shownNanos / 1000000) ++ ['Z']))

namespace Civil

variable {c : Civil}

/-- What is shown of a moment is the moment, cut to whole steps of so many nanoseconds. -/
lemma civilOf_shown (h : c.Valid) {step : Nat} (hstep : 0 < step) (hdvd : step ∣ nanosPerSecond) :
    civilOf c.date.year c.date.month c.date.day c.hour c.minute c.shownSecond
        (c.shownNanos / step * step) =
      { c with nanos := c.nanos / step * step } := by
  have hsecond := h.second
  have hnanos := h.nanos
  -- the steps of a leap second are those of a second, and of the second before it
  have hsteps : c.nanos / step * step =
      c.shownNanos / step * step + nanosPerSecond * (c.nanos / nanosPerSecond) := by
    obtain ⟨steps, hsteps⟩ := hdvd
    calc c.nanos / step * step
        = (c.shownNanos + step * (steps * (c.nanos / nanosPerSecond))) / step * step := by
          rw [← Nat.mul_assoc, ← hsteps, shownNanos, Nat.mod_add_div]
      _ = c.shownNanos / step * step + nanosPerSecond * (c.nanos / nanosPerSecond) := by
          rw [Nat.add_mul_div_left _ _ hstep, Nat.add_mul, hsteps]
          ring
  have hleap : c.nanos / nanosPerSecond = 0 ∨ c.nanos / nanosPerSecond = 1 ∧ 59 = c.second := by
    simp only [nanosPerSecond] at hnanos ⊢
    omega
  have hwhole : c.shownSecond = c.second + c.nanos / nanosPerSecond := rfl
  rw [hsteps]
  unfold civilOf
  rcases hleap with hzero | ⟨hone, hlast⟩
  · rw [if_neg (by omega), hwhole, hzero, Nat.mul_zero]
    rfl
  · -- second 60 is read as the billion nanoseconds behind second 59 that it was written for
    rw [if_pos (by omega), hone, Nat.mul_one, ← hlast]

/-- The numerals of a moment have as many digits as there is room for. -/
lemma bounds (h : c.Valid) :
    (1 ≤ c.date.month ∧ c.date.month ≤ 12) ∧ (1 ≤ c.date.day ∧ c.date.day ≤ 31) ∧
      c.shownSecond ≤ 60 ∧ c.shownNanos / 1000000 < 1000 := by
  have hdate := h.date
  have hsecond := h.second
  have hnanos := h.nanos
  simp only [Date.exists, Bool.and_eq_true, decide_eq_true_eq] at hdate
  obtain ⟨⟨⟨hmonth, hmonth'⟩, hday⟩, hday'⟩ := hdate
  have hlong : ∀ leap month, daysInMonth leap month ≤ 31 := by
    intro leap month
    unfold daysInMonth
    split <;> first | omega | (split <;> omega)
  have hlast := hlong (isLeapYear c.date.year) c.date.month
  simp only [nanosPerSecond] at hnanos
  simp only [shownSecond, shownNanos, nanosPerSecond]
  omega

end Civil

variable {c : Civil}

/-- The characters that may stand between date and time in the exchange layout. -/
def separators : List Char := ['T', 't', ' ']

lemma separator_cons {sep : Char} (h : sep ∈ separators) (rest : List Char) :
    separator (sep :: rest) = .ok rest := by
  simp only [separators, List.mem_cons, List.not_mem_nil, or_false] at h
  rcases h with rfl | rfl | rfl <;> rfl

/-- With a year of four digits, date and time are read in the exchange layout; what stands for the
fraction and for the offset behind them is read on its own. -/
lemma readExchange_append (h : c.Valid) (hyear : 0 ≤ c.date.year ∧ c.date.year ≤ 9999) {sep : Char}
    (hsep : sep ∈ separators) {tail zone : List Char} {nanos : Nat} {ahead : Int}
    (hfraction : fraction tail = .ok (nanos, zone)) (hzone : offset zone = .ok (ahead, [])) :
    readExchange (dateDigits c.date ++ sep :: (timeDigits c ++ tail)) =
      .ok ((civilOf c.date.year c.date.month c.date.day c.hour c.minute c.shownSecond nanos).instant
        ahead) := by
  obtain ⟨⟨hmonth, hmonth'⟩, ⟨hday, hday'⟩, hsecond, -⟩ := c.bounds h
  have hyear4 : c.date.year.toNat < 10 ^ 4 := by omega
  have hcast : (c.date.year.toNat : Int) = c.date.year := Int.toNat_of_nonneg hyear.1
  have hdate : (civilOf c.date.year c.date.month c.date.day c.hour c.minute c.shownSecond
      nanos).date.exists = true := by
    have hsame : (civilOf c.date.year c.date.month c.date.day c.hour c.minute c.shownSecond
        nanos).date = c.date := by
      unfold civilOf
      split <;> rfl
    rw [hsame, h.date]
  have hhour := h.hour
  have hminute := h.minute
  simp only [readExchange, dateDigits, yearDigits, hyear, and_self, if_true, timeDigits,
    List.append_assoc, List.cons_append, bind, Except.bind, exactly_fixedDigits (by decide) hyear4,
    expect_cons]
  rw [exactly_fixedDigits (by decide) (by omega), within_ok hmonth hmonth']
  simp only [expect_cons]
  rw [exactly_fixedDigits (by decide) (by omega), within_ok hday hday']
  simp only [separator_cons hsep]
  rw [exactly_fixedDigits (by decide) (by omega), within_ok (Nat.zero_le _) hhour]
  simp only [expect_cons]
  rw [exactly_fixedDigits (by decide) (by omega), within_ok (Nat.zero_le _) hminute]
  simp only [expect_cons]
  rw [exactly_fixedDigits (by decide) (by omega), within_ok (Nat.zero_le _) hsecond]
  simp only [hfraction, hzone, List.isEmpty_nil, if_true, hcast, hdate, pure, Except.pure]

/-- With a year of four digits the stored layout is one in the exchange layout. -/
lemma readExchange_storedChars (h : c.Valid) (hyear : 0 ≤ c.date.year ∧ c.date.year ≤ 9999) :
    readExchange c.storedChars =
      .ok (Civil.instant { c with nanos := c.nanos / 1000000 * 1000000 } 0) := by
  have hmillis : c.shownNanos / 1000000 < 1000 := (c.bounds h).2.2.2
  rw [Civil.storedChars, readExchange_append h hyear (by decide) (fraction_millis hmillis) rfl,
    c.civilOf_shown h (by decide) (by decide)]

/-- A year with a sign is none in the exchange layout. -/
lemma readExchange_sign {sign : Char} (hsign : sign.isDigit = false) (rest : List Char) :
    ∃ fault, readExchange (sign :: rest) = .error fault := by
  have hread : upTo 4 (sign :: rest) = .error .invalid := by
    simp [upTo, hsign]
  exact ⟨.invalid, by simp [readExchange, exactly, hread, bind, Except.bind]⟩

/-- A year with a sign is read up to where its digits end. -/
lemma year_sign {y : Int} (hyear : ¬(0 ≤ y ∧ y ≤ 9999)) (hearliest : earliestYear ≤ y)
    (hlatest : y ≤ latestYear) (rest : List Char) :
    year (yearDigits y ++ '-' :: rest) = .ok (y, '-' :: rest) := by
  have hread : ∀ n : Nat, upTo (paddedDigits 4 n ++ '-' :: rest).length
      (paddedDigits 4 n ++ '-' :: rest) = .ok (n, '-' :: rest) := by
    intro n
    rw [upTo_append (paddedDigits_ne_nil 4 n) (fun _ => isDigit_of_mem_paddedDigits) (by simp)
      (by simp [Char.isDigit]), valueFrom_paddedDigits]
  simp only [earliestYear] at hearliest
  simp only [latestYear] at hlatest
  by_cases hneg : y < 0
  · have hskip : skipBlanks ('-' :: (paddedDigits 4 y.natAbs ++ '-' :: rest)) =
        '-' :: (paddedDigits 4 y.natAbs ++ '-' :: rest) := skipBlanks_cons_of_not rfl
    have hback : -(y.natAbs : Int) = y := by omega
    simp only [year, yearDigits, if_neg hyear, if_pos hneg, List.cons_append, hskip, hread, bind,
      Except.bind, pure, Except.pure, if_true, hback]
    rw [if_pos (by omega)]
  · have hskip : skipBlanks ('+' :: (paddedDigits 4 y.natAbs ++ '-' :: rest)) =
        '+' :: (paddedDigits 4 y.natAbs ++ '-' :: rest) := skipBlanks_cons_of_not rfl
    have hback : (y.natAbs : Int) = y := by omega
    simp only [year, yearDigits, if_neg hyear, if_neg hneg, List.cons_append, hskip, hread, bind,
      Except.bind, pure, Except.pure, Bool.false_eq_true, if_false, hback]
    rw [if_pos (by omega)]

/-- With a year that has a sign the text is one in the stored layout. -/
lemma readStored_storedChars (h : c.Valid) (hyear : ¬(0 ≤ c.date.year ∧ c.date.year ≤ 9999))
    (hearliest : earliestYear ≤ c.date.year) (hlatest : c.date.year ≤ latestYear) :
    readStored c.storedChars =
      .ok (Civil.instant { c with nanos := c.nanos / 1000000 * 1000000 } 0) := by
  obtain ⟨⟨hmonth, hmonth'⟩, ⟨hday, hday'⟩, hsecond, hmillis⟩ := c.bounds h
  have hcivil := @Civil.civilOf_shown c h 1000000 (by decide) (by decide)
  have hhour := h.hour
  have hminute := h.minute
  have hskip : ∀ n rest, skipBlanks (' ' :: (fixedDigits 2 n ++ rest)) =
      fixedDigits 2 n ++ rest := skipBlanks_fixedDigits (by decide)
  simp only [readStored, Civil.storedChars, dateDigits, timeDigits, List.append_assoc,
    List.cons_append, year_sign hyear hearliest hlatest, bind, Except.bind, expect_cons]
  rw [field_fixedDigits (by decide) (by omega) hmonth hmonth']
  simp only [expect_cons]
  rw [field_fixedDigits (by decide) (by omega) hday hday']
  simp only [hskip]
  rw [field_fixedDigits (by decide) (by omega) (Nat.zero_le _) hhour]
  simp only [expect_cons]
  rw [field_fixedDigits (by decide) (by omega) (Nat.zero_le _) hminute]
  simp only [expect_cons]
  rw [field_fixedDigits (by decide) (by omega) (Nat.zero_le _) hsecond]
  simp only [fraction_millis hmillis, expect_cons, List.isEmpty_nil, if_true, hcivil, h.date,
    hearliest, hlatest, and_self, pure, Except.pure]

/-! ### Instants -/

namespace Instant

variable {t : Instant}

lemma stored_eq (t : Instant) : t.stored = String.ofList t.civil.storedChars := rfl

/-- The stored layout neither begins nor ends with a blank. -/
lemma trim_stored (t : Instant) : trim t.stored = t.stored := by
  have hfront : skipBlanks t.civil.storedChars = t.civil.storedChars := by
    simp only [Civil.storedChars, dateDigits, yearDigits]
    split
    · rw [List.append_assoc]
      exact skipBlanks_fixedDigits (by decide) _ _
    · split <;> exact skipBlanks_cons_of_not rfl
  have hback : ∃ cs, t.civil.storedChars = cs ++ ['Z'] := by
    refine ⟨dateDigits t.civil.date ++ ' ' :: (timeDigits t.civil ++
      '.' :: fixedDigits 3 (t.civil.shownNanos / 1000000)), ?_⟩
    simp [Civil.storedChars]
  obtain ⟨cs, hcs⟩ := hback
  have htrim : trimBlanks t.civil.storedChars = t.civil.storedChars := by
    rw [trimBlanks, hfront, hcs, List.reverse_append, List.reverse_singleton, List.singleton_append,
      skipBlanks_cons_of_not rfl, List.reverse_cons, List.reverse_reverse]
  rw [trim, stored_eq, String.toList_ofList, htrim]

lemma stored_ne_empty (t : Instant) : t.stored ≠ "" := by
  intro h
  have hchars : t.civil.storedChars = [] := by
    rw [← String.toList_ofList (l := t.civil.storedChars), ← stored_eq, h, String.toList_empty]
  simp [Civil.storedChars] at hchars

/-- What clocks show at an instant is the moment of the instant that they show. -/
lemma civil_shown (t : Instant) :
    t.shown.civil.date = t.civil.date ∧ timeDigits t.shown.civil = timeDigits t.civil ∧
      t.shown.civil.shownNanos = t.civil.shownNanos := by
  unfold shown
  split
  · rename_i hleap
    obtain ⟨hnanos, hsecond⟩ := hleap
    -- the second that follows is one of the same minute
    have hday : (t.seconds + 1) / 86400 = t.seconds / 86400 := by omega
    have hhour : ((t.seconds + 1) % 86400).toNat / 3600 = (t.seconds % 86400).toNat / 3600 := by
      omega
    have hminute : ((t.seconds + 1) % 86400).toNat / 60 = (t.seconds % 86400).toNat / 60 := by
      omega
    have hlater : ((t.seconds + 1) % 86400).toNat % 60 = (t.seconds % 86400).toNat % 60 + 1 := by
      omega
    have hwhole : t.nanos / nanosPerSecond = (t.nanos - nanosPerSecond) / nanosPerSecond + 1 :=
      Nat.div_eq_sub_div (by decide) hnanos
    refine ⟨?_, ?_, (Nat.mod_eq_sub_mod hnanos).symm⟩
    · simp only [civil, hday]
    · simp only [timeDigits, Civil.shownSecond, civil, hhour, hminute, hlater, hwhole,
        Nat.add_assoc, Nat.add_comm 1]
  · exact ⟨rfl, rfl, rfl⟩

lemma stored_shown (t : Instant) : t.shown.stored = t.stored := by
  obtain ⟨hdate, htime, hnanos⟩ := t.civil_shown
  rw [stored_eq, stored_eq, Civil.storedChars, Civil.storedChars, hdate, htime, hnanos]

/-- The stored layout is read back as clocks show it, cut to whole milliseconds. -/
lemma read_stored (h : t.Representable) : Instant.read t.stored = .ok t.shown.toMillis := by
  have hvalid := valid_civil_shown h
  have hdate := t.civil_shown.1
  have hback : Civil.instant
      { t.shown.civil with nanos := t.shown.civil.nanos / 1000000 * 1000000 } 0 =
        t.shown.toMillis := instant_civil t.shown _
  rw [← stored_shown, Instant.read, stored_eq, String.toList_ofList]
  by_cases hyear : 0 ≤ t.shown.civil.date.year ∧ t.shown.civil.date.year ≤ 9999
  · rw [readExchange_storedChars hvalid hyear, hback]
  · -- the exchange layout fails at the sign, and the stored layout is tried
    have hstored := readStored_storedChars hvalid hyear (hdate ▸ h.earliest) (hdate ▸ h.latest)
    have hfails : ∃ fault, readExchange t.shown.civil.storedChars = .error fault := by
      simp only [Civil.storedChars, dateDigits, yearDigits, if_neg hyear, List.cons_append]
      split <;> exact readExchange_sign rfl _
    obtain ⟨fault, hfault⟩ := hfails
    rw [hfault]
    exact hstored.trans (congrArg _ hback)

/-- Cutting an instant to whole milliseconds does not change its stored layout. -/
lemma stored_toMillis (t : Instant) : t.toMillis.stored = t.stored := by
  have hsecond : t.toMillis.civil.shownSecond = t.civil.shownSecond := by
    simp only [Civil.shownSecond, civil, toMillis, nanosPerSecond]
    omega
  have hnanos : t.toMillis.civil.shownNanos / 1000000 = t.civil.shownNanos / 1000000 := by
    simp only [Civil.shownNanos, civil, toMillis, nanosPerSecond]
    omega
  rw [stored_eq, stored_eq, Civil.storedChars, Civil.storedChars, timeDigits, timeDigits, hsecond,
    hnanos]
  rfl

end Instant

end RunBoard.Time
