import Mathlib.Algebra.Group.Nat.Defs
import Mathlib.Tactic.Common
import RunBoard.Text.Digits

/-!
# Reading numerals back

The value of the digits that a number is written with is the number, whether they are as many as it
needs, have zeros in front, or fill a fixed number of places.
-/

namespace RunBoard.Text

variable {c : Char}

/-! ### A fixed number of places -/

lemma isDigit_of_mem_fixedDigits {width n : Nat} (h : c ∈ fixedDigits width n) :
    c.isDigit = true := by
  induction width generalizing n with
  | zero => exact absurd h List.not_mem_nil
  | succ width ih =>
    rcases List.mem_append.mp h with h | h
    · exact ih h
    · obtain rfl := List.mem_singleton.mp h
      rw [Nat.isDigit_digitChar, decide_eq_true_eq]
      exact Nat.mod_lt _ (by decide)

lemma fixedDigits_ne_nil {width : Nat} (hwidth : 0 < width) (n : Nat) :
    fixedDigits width n ≠ [] := by
  intro hnil
  have hlength := length_fixedDigits width n
  rw [hnil] at hlength
  exact absurd hlength (Nat.ne_of_lt hwidth)

lemma valueFrom_fixedDigits (width n : Nat) :
    valueFrom 0 (fixedDigits width n) = n % 10 ^ width := by
  unfold valueFrom
  induction width generalizing n with
  | zero => simp [fixedDigits, Nat.mod_one]
  | succ width ih =>
    have hlast : n % 10 < 10 := Nat.mod_lt _ (by decide)
    rw [fixedDigits, Nat.ofDigitChars_append, ih, Nat.ofDigitChars_cons_digitChar_of_lt_ten hlast,
      Nat.ofDigitChars_nil, Nat.pow_succ', Nat.mod_mul]
    omega

lemma valueFrom_fixedDigits_of_lt {width n : Nat} (h : n < 10 ^ width) :
    valueFrom 0 (fixedDigits width n) = n := by
  rw [valueFrom_fixedDigits, Nat.mod_eq_of_lt h]

/-! ### As many digits as needed -/

lemma isDigit_of_mem_decimalDigits {n : Nat} (h : c ∈ decimalDigits n) : c.isDigit = true :=
  Nat.isDigit_of_mem_toDigits (by decide) (by decide) h

lemma valueFrom_decimalDigits (n : Nat) : valueFrom 0 (decimalDigits n) = n :=
  Nat.ofDigitChars_toDigits (by decide) (by decide)

lemma isDigit_of_mem_paddedDigits {width n : Nat} (h : c ∈ paddedDigits width n) :
    c.isDigit = true := by
  rcases List.mem_append.mp h with h | h
  · obtain rfl := List.eq_of_mem_replicate h
    rfl
  · exact isDigit_of_mem_decimalDigits h

lemma valueFrom_paddedDigits (width n : Nat) : valueFrom 0 (paddedDigits width n) = n := by
  rw [valueFrom, paddedDigits, Nat.ofDigitChars_append, Nat.ofDigitChars_replicate_zero,
    Nat.mul_zero]
  exact valueFrom_decimalDigits n

lemma paddedDigits_ne_nil (width n : Nat) : paddedDigits width n ≠ [] := by
  simp [paddedDigits, decimalDigits, Nat.toDigits_ne_nil]

end RunBoard.Text
