import RunBoard.Proofs.Outcome
import RunBoard.Proofs.Time.Layouts

/-!
# One text, one instant

An instant can be written in the exchange layout as clocks show it that are some minutes ahead of
universal time, or behind it, and the text is read as this instant, whatever the clocks show.  Only
a leap second that does not end a minute has the text of another instant, that of the second that
follows, and is read as the latter.  And a text that can be read in both layouts is read as the same
instant in both, so that it does not matter which of them is tried first.

For the latter the two readers go through the text side by side.  Where the strict one takes a
numeral the lenient one takes the same, since there are no blanks in front of it and neither reads
more digits than the other.  Of the characters between date and time only a blank is passed over by
the lenient reader, and of the offsets it only takes that of universal time.
-/

namespace RunBoard.Time

open RunBoard.Text

variable {width n low high : Nat} {cs rest : List Char} {t u : Instant} {minutes : Int}

/-! ### Clocks ahead of universal time -/

/-- How far clocks are ahead, as a sign, hours and minutes. -/
def offsetDigits (minutes : Int) : List Char :=
  (if minutes < 0 then '-' else '+') ::
    (fixedDigits 2 (minutes.natAbs / 60) ++ ':' :: fixedDigits 2 (minutes.natAbs % 60))

lemma head?_offsetDigits {c : Char} (h : c ∈ (offsetDigits minutes).head?) : c = '-' ∨ c = '+' := by
  obtain rfl : (if minutes < 0 then '-' else '+') = c := Option.some.inj h
  split
  · exact Or.inl rfl
  · exact Or.inr rfl

/-- Behind a sign hours and minutes are read. -/
lemma offset_sign {sign : Char} (hsign : sign = '+' ∨ sign = '-') {hour minute : Nat}
    (hhour : hour ≤ 23) (hminute : minute ≤ 59) :
    offset (sign :: (fixedDigits 2 hour ++ ':' :: fixedDigits 2 minute)) =
      .ok (if sign = '+' then ((hour * 3600 + minute * 60 : Nat) : Int)
        else -((hour * 3600 + minute * 60 : Nat) : Int), []) := by
  have hlast : exactly 2 (fixedDigits 2 minute) = .ok (minute, []) := by
    rw [← List.append_nil (fixedDigits 2 minute), exactly_fixedDigits (by decide) (by omega)]
  have hsigns : sign = '+' ∨ sign = '-' ∨ sign = '−' := by tauto
  rw [offset, if_pos hsigns]
  · simp only [bind, Except.bind]
    rw [exactly_fixedDigits (by decide) (by omega)]
    simp only [expect_cons, hlast, within_ok (Nat.zero_le _) hminute, if_pos hhour]
    rfl
  · rintro rfl
    revert hsign
    decide
  · rintro rfl
    revert hsign
    decide

/-- An offset below a day is read back, in seconds. -/
lemma offset_offsetDigits (h : minutes.natAbs < 24 * 60) :
    offset (offsetDigits minutes) = .ok (60 * minutes, []) := by
  have hhour : minutes.natAbs / 60 ≤ 23 := by omega
  have hminute : minutes.natAbs % 60 ≤ 59 := by omega
  unfold offsetDigits
  by_cases hneg : minutes < 0
  · rw [if_pos hneg, offset_sign (Or.inr rfl) hhour hminute, if_neg (by decide)]
    congr 2
    omega
  · rw [if_neg hneg, offset_sign (Or.inl rfl) hhour hminute, if_pos rfl]
    congr 2
    omega

/-- Where there is no point there are no places. -/
lemma fraction_of_head (h : ∀ c ∈ cs.head?, c ≠ '.') : fraction cs = .ok (0, cs) := by
  unfold fraction
  split
  · exact absurd rfl (h '.' rfl)
  · rfl

/-- The places behind the second are read as the nanoseconds that they were written for. -/
lemma fraction_fractionDigits (h : n < nanosPerSecond) :
    fraction (fractionDigits n ++ offsetDigits minutes) = .ok (n, offsetDigits minutes) := by
  have hstop : ∀ c ∈ (offsetDigits minutes).head?, c.isDigit = false ∧ c ≠ '.' := by
    intro c hc
    rcases head?_offsetDigits hc with rfl | rfl <;> decide
  have hplaces : ∀ {width places : Nat}, 0 < width → width ≤ 9 → places < 10 ^ width →
      places * Number.tenTo (9 - width) = n →
        fraction ('.' :: fixedDigits width places ++ offsetDigits minutes) =
          .ok (n, offsetDigits minutes) := by
    intro width places hwidth hnine hfits hn
    rw [List.cons_append,
      fraction_fixedDigits hwidth hnine hfits fun c hc => (hstop c hc).1, hn]
  have hmillion : Number.tenTo (9 - 3) = 1000000 := rfl
  have hthousand : Number.tenTo (9 - 6) = 1000 := rfl
  have hone : Number.tenTo (9 - 9) = 1 := rfl
  simp only [nanosPerSecond] at h
  unfold fractionDigits
  by_cases hzero : n = 0
  · rw [if_pos hzero, hzero, List.nil_append, fraction_of_head fun c hc => (hstop c hc).2]
  rw [if_neg hzero]
  by_cases hmillis : n % 1000000 = 0
  · rw [if_pos hmillis]
    exact hplaces (by decide) (by decide) (by omega) (by rw [hmillion]; omega)
  rw [if_neg hmillis]
  by_cases hmicros : n % 1000 = 0
  · rw [if_pos hmicros]
    exact hplaces (by decide) (by decide) (by omega) (by rw [hthousand]; omega)
  · rw [if_neg hmicros]
    exact hplaces (by decide) (by decide) (by omega) (by rw [hone]; omega)

namespace Instant

/-- The instant whose moment in universal time is what clocks show that are so many minutes
ahead. -/
def ahead (t : Instant) (minutes : Int) : Instant :=
  ⟨t.seconds + 60 * minutes, t.nanos⟩

/-- The exchange layout of RFC 3339, as clocks show an instant that are so many minutes ahead. -/
def exchangeOn (t : Instant) (minutes : Int) (separator : Char) : String :=
  let c := (t.ahead minutes).civil
  String.ofList (dateDigits c.date ++ separator :: (timeDigits c ++
    (fractionDigits c.shownNanos ++ offsetDigits minutes)))

@[simp] lemma ahead_zero (t : Instant) : t.ahead 0 = t := by
  simp [ahead]

/-- Universal time is what clocks show that are not ahead. -/
lemma exchangeOn_zero (t : Instant) : t.exchangeOn 0 'T' = t.exchange := by
  rw [exchangeOn, ahead_zero]
  rfl

/-- What is shown by clocks that are ahead is the moment of the instant. -/
lemma instant_ahead (t : Instant) (minutes : Int) :
    (t.ahead minutes).civil.instant (60 * minutes) = t := by
  have hshown : (t.ahead minutes).civil.instant 0 = t.ahead minutes :=
    instant_civil (t.ahead minutes) t.nanos
  have hoffset : ∀ (c : Civil) offset, c.instant offset =
      ⟨(c.instant 0).seconds - offset, c.nanos⟩ := by
    intro c offset
    simp only [Civil.instant, Int.sub_zero]
  rw [hoffset, hshown, ahead, Int.add_sub_cancel]
  rfl

/-- Clocks that are whole minutes apart show leap seconds alike. -/
lemma shown_ahead (t : Instant) (minutes : Int) :
    (t.ahead minutes).shown = t.shown.ahead minutes := by
  have hsecond : (t.seconds + 60 * minutes) % 60 = t.seconds % 60 := by omega
  simp only [shown, ahead, hsecond]
  split
  · rw [Int.add_right_comm]
  · rfl

lemma exchangeOn_shown (t : Instant) (minutes : Int) (separator : Char) :
    t.shown.exchangeOn minutes separator = t.exchangeOn minutes separator := by
  obtain ⟨hdate, htime, hnanos⟩ := (t.ahead minutes).civil_shown
  simp only [exchangeOn, ← shown_ahead, hdate, htime, hnanos]

/-- A text in the exchange layout is read as the instant that clocks show, on whichever clocks. -/
lemma read_exchangeOn (h : t.Representable)
    (hyear : 0 ≤ (t.ahead minutes).civil.date.year ∧ (t.ahead minutes).civil.date.year ≤ 9999)
    (hminutes : minutes.natAbs < 24 * 60) {sep : Char} (hsep : sep ∈ separators) :
    Instant.read (t.exchangeOn minutes sep) = .ok t.shown := by
  have hahead : (t.ahead minutes).Representable := by
    refine ⟨?_, ?_, h.nanos⟩
    · simp only [earliestYear]
      omega
    · simp only [latestYear]
      omega
  have hvalid := valid_civil_shown hahead
  rw [← (t.ahead minutes).civil_shown.1] at hyear
  rw [shown_ahead] at hvalid hyear
  have hplaces : (t.shown.ahead minutes).civil.shownNanos < nanosPerSecond :=
    Nat.mod_lt _ (by decide)
  have hback := @Civil.civilOf_shown _ hvalid 1 (by decide) (by decide)
  simp only [Nat.div_one, Nat.mul_one] at hback
  rw [← exchangeOn_shown, Instant.read, exchangeOn, String.toList_ofList,
    readExchange_append hvalid hyear hsep (fraction_fractionDigits hplaces)
      (offset_offsetDigits hminutes), hback]
  exact congrArg _ (instant_ahead t.shown minutes)

end Instant

/-! ### The two layouts side by side -/

lemma within_eq_ok_iff {found : Except Fault (Nat × List Char)} :
    within low high found = .ok (n, rest) ↔ found = .ok (n, rest) ∧ low ≤ n ∧ n ≤ high := by
  simp only [within, bind_eq_ok_iff, ite_error_eq_ok_iff, Prod.exists]
  constructor
  · rintro ⟨m, rest', hfound, hbounds, hsame⟩
    cases hsame
    exact ⟨hfound, hbounds⟩
  · rintro ⟨hfound, hbounds⟩
    exact ⟨n, rest, hfound, hbounds, rfl⟩

lemma expect_eq_ok {c : Char} (h : expect c cs = .ok rest) : cs = c :: rest := by
  cases cs with
  | nil => cases h
  | cons d cs =>
    rw [expect] at h
    split at h
    · rename_i hsame
      rw [hsame, Except.ok.inj h]
    · cases h

/-- A numeral begins with a digit. -/
lemma head_of_upTo {c : Char} (h : upTo width (c :: cs) = .ok (n, rest)) : c.isDigit = true := by
  by_contra hdigit
  rw [upTo, if_pos] at h
  · cases h
  · cases width <;> simp [hdigit]

/-- The strict reader takes what the lenient one takes, and there are no blanks in front of it. -/
lemma exactly_eq_ok (h : exactly width cs = .ok (n, rest)) :
    upTo width cs = .ok (n, rest) ∧ skipBlanks cs = cs := by
  have hread : upTo width cs = .ok (n, rest) := by
    simp only [exactly, bind_eq_ok_iff, ite_error_eq_ok_iff, Prod.exists] at h
    obtain ⟨m, rest', hread, -, hsame⟩ := h
    rw [hread, Except.ok.inj hsame]
  refine ⟨hread, ?_⟩
  cases cs with
  | nil => rfl
  | cons c cs => exact skipBlanks_cons_of_not (isBlank_of_isDigit (head_of_upTo hread))

/-- A field in which the strict reader takes a numeral is read as this numeral. -/
lemma field_of_exactly (h : within low high (exactly width cs) = .ok (n, rest)) :
    field width low high cs = .ok (n, rest) := by
  obtain ⟨hexact, hbounds⟩ := within_eq_ok_iff.mp h
  obtain ⟨hread, hskip⟩ := exactly_eq_ok hexact
  rw [field, hskip, within_eq_ok_iff]
  exact ⟨hread, hbounds⟩

/-- A year that the strict reader takes is read as this year. -/
lemma year_of_exactly {y : Int} {rest' : List Char} (h : exactly 4 cs = .ok (n, rest))
    (h' : year cs = .ok (y, rest')) : y = n ∧ rest' = rest := by
  obtain ⟨hread, hskip⟩ := exactly_eq_ok h
  simp only [year, hskip] at h'
  split at h'
  · exact absurd (head_of_upTo hread) (by decide)
  · exact absurd (head_of_upTo hread) (by decide)
  · simp only [hread, bind, Except.bind, pure, Except.pure] at h'
    cases h'
    exact ⟨rfl, rfl⟩

lemma separator_eq_ok (h : separator cs = .ok rest) : ∃ sep ∈ separators, cs = sep :: rest := by
  unfold separator at h
  split at h <;> cases h
  · exact ⟨'T', by decide, rfl⟩
  · exact ⟨'t', by decide, rfl⟩
  · exact ⟨' ', by decide, rfl⟩

/-- Behind a letter between date and time the lenient reader finds no hours, and behind a blank it
finds those that the strict reader finds. -/
lemma field_of_separator {hour : Nat} {hours rest' : List Char} (h : separator cs = .ok hours)
    (hstrict : within low high (exactly width hours) = .ok (n, rest))
    (hlenient : field width low high (skipBlanks cs) = .ok (hour, rest')) :
    hour = n ∧ rest' = rest := by
  have hletter : ∀ c, isBlank c = false → c.isDigit = false →
      field width low high (skipBlanks (c :: hours)) ≠ .ok (hour, rest') := by
    intro c hblank hdigit hfield
    rw [field, skipBlanks_cons_of_not hblank, skipBlanks_cons_of_not hblank,
      within_eq_ok_iff] at hfield
    rw [head_of_upTo hfield.1] at hdigit
    cases hdigit
  obtain ⟨sep, hsep, rfl⟩ := separator_eq_ok h
  simp only [separators, List.mem_cons, List.not_mem_nil, or_false] at hsep
  rcases hsep with rfl | rfl | rfl
  · exact absurd hlenient (hletter 'T' rfl rfl)
  · exact absurd hlenient (hletter 't' rfl rfl)
  · have hskip : skipBlanks (' ' :: hours) = hours :=
      (exactly_eq_ok (within_eq_ok_iff.mp hstrict).1).2
    rw [hskip, field_of_exactly hstrict] at hlenient
    cases hlenient
    exact ⟨rfl, rfl⟩

/-- The only offset that the lenient reader takes is that of universal time. -/
lemma offset_of_expect {ahead : Int} {rest' : List Char} (h : offset cs = .ok (ahead, rest))
    (h' : expect 'Z' cs = .ok rest') : ahead = 0 := by
  rw [expect_eq_ok h'] at h
  cases h
  rfl

/-- A text that can be read in both layouts is read as the same instant in both. -/
lemma readStored_of_readExchange (h : readExchange cs = .ok t) (h' : readStored cs = .ok u) :
    t = u := by
  simp only [readExchange, bind_eq_ok_iff, Prod.exists] at h
  obtain ⟨y, cs₁, hyear, cs₂, hdash, month, cs₃, hmonth, cs₄, hdash', day, cs₅, hday, cs₆, hsep,
    hour, cs₇, hhour, cs₈, hcolon, minute, cs₉, hminute, cs₁₀, hcolon', second, cs₁₁, hsecond,
    nanos, cs₁₂, hnanos, ahead, cs₁₃, hzone, hend⟩ := h
  -- the lenient reader follows up to the offset, and there it finds that of universal time
  obtain ⟨⟨y', _⟩, hlenient, -⟩ := bind_eq_ok_iff.mp h'
  obtain ⟨rfl, rfl⟩ := year_of_exactly hyear hlenient
  rw [readStored, hlenient] at h'
  simp only [hdash, field_of_exactly hmonth, hdash', field_of_exactly hday, bind,
    Except.bind] at h'
  cases hfield : field 2 0 23 (skipBlanks cs₅) with
  | error fault =>
    rw [hfield] at h'
    cases h'
  | ok found =>
    obtain ⟨rfl, rfl⟩ := field_of_separator hsep hhour hfield
    simp only [hfield, hcolon, field_of_exactly hminute, hcolon', field_of_exactly hsecond,
      hnanos] at h'
    cases huniversal : expect 'Z' cs₁₂ with
    | error fault =>
      rw [huniversal] at h'
      cases h'
    | ok _ =>
      obtain rfl := offset_of_expect hzone huniversal
      simp only [huniversal] at h'
      obtain ⟨-, hend⟩ := ite_error_eq_ok_iff.mp hend
      obtain ⟨-, hend⟩ := ite_error_eq_ok_iff.mp hend
      obtain ⟨-, hend'⟩ := ite_error_eq_ok_iff.mp h'
      obtain ⟨-, hend'⟩ := ite_error_eq_ok_iff.mp hend'
      exact Except.ok.inj (hend.symm.trans hend')

/-- What a text is read as does not depend on which layout is tried first. -/
lemma Instant.read_eq_ok_iff {text : String} :
    Instant.read text = .ok t ↔
      readExchange text.toList = .ok t ∨ readStored text.toList = .ok t := by
  rw [Instant.read]
  cases hexchange : readExchange text.toList with
  | error fault => simp
  | ok s =>
    refine ⟨Or.inl, ?_⟩
    rintro (hsame | hstored)
    · exact hsame
    · rw [readStored_of_readExchange hexchange hstored]

/-! ### The theorem -/

/-- **One text, one instant.**  An instant of the years 0 to 9999, also one in a leap second, is
read back from its exchange layout as clocks show it: as the very instant, unless it lies in a leap
second that does not come behind the last second of a minute, and then as the one a second later.
So it is when the text tells what clocks show that are less than a day ahead or behind, as long as
the year that they show has four digits, and whichever of the separators stands between date and
time.  A text that is taken in both layouts is read as the same instant in both, so that a text is
read as what it is taken for in either of them. -/
theorem reads_as_shown_in_every_layout :
    (∀ t : Instant, t.Representable → 0 ≤ t.civil.date.year ∧ t.civil.date.year ≤ 9999 →
      Instant.read t.exchange = .ok t.shown) ∧
    (∀ (t : Instant) (minutes : Int), t.Representable → minutes.natAbs < 24 * 60 →
      0 ≤ (t.ahead minutes).civil.date.year ∧ (t.ahead minutes).civil.date.year ≤ 9999 →
      ∀ sep ∈ separators, Instant.read (t.exchangeOn minutes sep) = .ok t.shown) ∧
    (∀ t : Instant, t.nanos < nanosPerSecond ∨ t.seconds % 60 = 59 → t.shown = t) ∧
    (∀ cs t u, readExchange cs = .ok t → readStored cs = .ok u → t = u) ∧
    ∀ text t, Instant.read text = .ok t ↔
      readExchange text.toList = .ok t ∨ readStored text.toList = .ok t := by
  have hclocks : ∀ (t : Instant) (minutes : Int), t.Representable → minutes.natAbs < 24 * 60 →
      0 ≤ (t.ahead minutes).civil.date.year ∧ (t.ahead minutes).civil.date.year ≤ 9999 →
      ∀ sep ∈ separators, Instant.read (t.exchangeOn minutes sep) = .ok t.shown :=
    fun t minutes h hminutes hyear sep hsep => Instant.read_exchangeOn h hyear hminutes hsep
  refine ⟨fun t h hyear => ?_, hclocks, fun _ => Instant.shown_eq_self, fun _ _ _ =>
    readStored_of_readExchange, fun _ _ => Instant.read_eq_ok_iff⟩
  rw [← Instant.exchangeOn_zero]
  exact hclocks t 0 h (by decide) (by rwa [Instant.ahead_zero]) 'T' (by decide)

/-- The leap second at the end of 2016, on clocks that are five and a half hours ahead and so show
the next year; one behind another second than the last of a minute, on clocks that are an hour
behind; and a text that is taken in both layouts. -/
theorem reads_as_shown_in_every_layout_of_leapSeconds :
    let t : Instant := ⟨1483228799, 1500000001⟩
    let u : Instant := ⟨5, 1500000000⟩
    t.exchange = "2016-12-31T23:59:60.500000001+00:00" ∧ Instant.read t.exchange = .ok t ∧
    t.exchangeOn 330 ' ' = "2017-01-01 05:29:60.500000001+05:30" ∧
    Instant.read (t.exchangeOn 330 ' ') = .ok t ∧
    Instant.read u.exchange = .ok ⟨6, 500000000⟩ ∧
    u.exchangeOn (-60) 't' = "1969-12-31t23:00:06.500-01:00" ∧
    Instant.read (u.exchangeOn (-60) 't') = .ok ⟨6, 500000000⟩ ∧
    readExchange "2016-12-31 23:59:60.5Z".toList = .ok ⟨1483228799, 1500000000⟩ ∧
    readStored "2016-12-31 23:59:60.5Z".toList = .ok ⟨1483228799, 1500000000⟩ ∧
    Instant.read "2016-12-31 23:59:60.5Z" = .ok ⟨1483228799, 1500000000⟩ := by
  intro t u
  obtain ⟨hexchange, hclocks, hsame, -, hread⟩ := reads_as_shown_in_every_layout
  have ht : t.Representable := ⟨by decide +kernel, by decide +kernel, by decide +kernel⟩
  have hu : u.Representable := ⟨by decide +kernel, by decide +kernel, by decide +kernel⟩
  have hshown : t.shown = t := hsame t (Or.inr rfl)
  have hnext : u.shown = ⟨6, 500000000⟩ := by decide +kernel
  have htext : readExchange "2016-12-31 23:59:60.5Z".toList = .ok ⟨1483228799, 1500000000⟩ := rfl
  refine ⟨by decide +kernel, ?_, by decide +kernel, ?_, ?_, by decide +kernel, ?_, htext, rfl,
    (hread _ _).mpr (Or.inl htext)⟩
  · rw [hexchange t ht (by decide +kernel), hshown]
  · rw [hclocks t 330 ht (by decide) (by decide +kernel) ' ' (by decide), hshown]
  · rw [hexchange u hu (by decide +kernel), hnext]
  · rw [hclocks u (-60) hu (by decide) (by decide +kernel) 't' (by decide), hnext]

/-- Six and a half seconds into 1970 have the text of a leap second behind second 5, so that only
one of the two can be read back. -/
theorem exchange_of_leapSecond_within_minute :
    Instant.Representable ⟨5, 1500000000⟩ ∧ (Instant.civil ⟨5, 1500000000⟩).date.year = 1970 ∧
    Instant.exchange ⟨5, 1500000000⟩ = "1970-01-01T00:00:06.500+00:00" ∧
    Instant.exchange ⟨6, 500000000⟩ = "1970-01-01T00:00:06.500+00:00" ∧
    Instant.read (Instant.exchange ⟨5, 1500000000⟩) = .ok ⟨6, 500000000⟩ ∧
    Instant.read (Instant.exchange ⟨5, 1500000000⟩) ≠ .ok ⟨5, 1500000000⟩ := by
  have hread : Instant.read (Instant.exchange ⟨5, 1500000000⟩) = .ok ⟨6, 500000000⟩ := by
    decide +kernel
  refine ⟨⟨by decide +kernel, by decide +kernel, by decide +kernel⟩, by decide +kernel,
    by decide +kernel, by decide +kernel, hread, ?_⟩
  rw [hread]
  decide

end RunBoard.Time
