import Mathlib.Tactic.Common

/-!
# What readers and decoders come to

A reader comes to a value or to a fault.  Readers that are put together come to a value only if each
of them does, and a guarded one only if its condition holds.  Where it does not matter which fault
is told, two readers are compared by what is left of them when faults are not told apart.
-/

namespace RunBoard

variable {ε α β : Type} {x : Except ε α} {f : α → Except ε β} {a : α} {b : β} {e : ε}

lemma bind_eq_ok_iff : (x >>= f) = .ok b ↔ ∃ a, x = .ok a ∧ f a = .ok b := by
  cases x <;> simp [bind, Except.bind]

lemma ite_error_eq_ok_iff {p : Prop} [Decidable p] :
    (if p then x else .error e) = .ok a ↔ p ∧ x = .ok a := by
  split <;> simp [*]

lemma toOption_bind : (x >>= f).toOption = x.toOption.bind fun a => (f a).toOption := by
  cases x <;> rfl

lemma toOption_map (g : α → β) : (x.map g).toOption = x.toOption.map g := by
  cases x <;> rfl

lemma toOption_ok : (.ok a : Except ε α).toOption = some a := rfl

lemma toOption_eq_some_iff : x.toOption = some a ↔ x = .ok a := by
  cases x <;> simp [Except.toOption]

lemma toOption_eq_none_iff : x.toOption = none ↔ ∀ a, x ≠ .ok a := by
  cases x <;> simp [Except.toOption]

/-- The fault that a reader comes to, if it comes to one. -/
def fault? : Except ε α → Option ε
  | .ok _ => none
  | .error e => some e

lemma fault?_eq_some_iff : fault? x = some e ↔ x = .error e := by
  cases x <;> simp [fault?]

end RunBoard
