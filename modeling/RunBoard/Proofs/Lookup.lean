import Mathlib.Tactic.Common

/-!
# What is found in a list of pairs

`List.lookup` gives what stands beside the first key that is equal to a given one.  So it does not
hang on pairs of other keys, and of a key that is given once whatever stands beside it is found.
-/

namespace RunBoard

variable {κ α β : Type} [BEq κ] {key k : κ} {a : α} {pairs : List (κ × α)}

lemma lookup_map (f : α → β) :
    (pairs.map fun p => (p.1, f p.2)).lookup key = (pairs.lookup key).map f := by
  induction pairs with
  | nil => rfl
  | cons p pairs ih =>
    rw [List.map_cons, List.lookup_cons, List.lookup_cons, ih]
    cases key == p.1 <;> rfl

variable [LawfulBEq κ]

lemma lookup_cons_of_ne (h : key ≠ k) : ((k, a) :: pairs).lookup key = pairs.lookup key := by
  rw [List.lookup_cons, beq_false_of_ne h]

lemma mem_of_lookup_eq_some (h : pairs.lookup key = some a) : (key, a) ∈ pairs := by
  obtain ⟨before, after, rfl, -⟩ := List.lookup_eq_some_iff.mp h
  exact List.mem_append_right before List.mem_cons_self

/-- What stands beside a key that is given once is found by this key. -/
lemma lookup_of_mem (once : (pairs.map Prod.fst).count key ≤ 1) (h : (key, a) ∈ pairs) :
    pairs.lookup key = some a := by
  induction pairs with
  | nil => cases h
  | cons p pairs ih =>
    obtain ⟨k, b⟩ := p
    rw [List.map_cons] at once
    rcases List.mem_cons.mp h with heq | hlater
    · obtain ⟨rfl, rfl⟩ := Prod.mk.inj heq
      exact List.lookup_cons_self
    · have hne : key ≠ k := by
        rintro rfl
        have hagain : 0 < (pairs.map Prod.fst).count key :=
          List.count_pos_iff.mpr (List.mem_map_of_mem hlater)
        rw [List.count_cons_self] at once
        omega
      rw [lookup_cons_of_ne hne, ih (Nat.le_trans List.count_le_count_cons once) hlater]

/-- Pairs that are dropped are not those of a key that is kept. -/
lemma lookup_filter {kept : κ × α → Bool} (h : ∀ a, kept (key, a) = true) :
    (pairs.filter kept).lookup key = pairs.lookup key := by
  induction pairs with
  | nil => rfl
  | cons p pairs ih =>
    obtain ⟨k, a⟩ := p
    rw [List.filter_cons]
    split
    · rw [List.lookup_cons, List.lookup_cons, ih]
    · rename_i hdropped
      have hne : key ≠ k := by
        rintro rfl
        exact hdropped (h a)
      rw [lookup_cons_of_ne hne, ih]

end RunBoard
