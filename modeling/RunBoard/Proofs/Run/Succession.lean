import Mathlib.Tactic.Common
import RunBoard.Proofs.Board.Rows

/-!
# Records of one run in succession

A record *agrees* with another one if both tell the same, except perhaps for the related records
that came with them.  It *precedes* another one if the other was written later and its status can
be reached.  `Run.accepts` looks at the status and the stamp alone; so it takes every record that
the one at hand precedes or agrees with, and none that precedes the one at hand.
-/

namespace RunBoard

open RunBoard.Time

namespace Run

variable {r r' s s' t : Run}

/-! ### Agreeing records -/

/-- Two records that tell the same but for the related records that came with them. -/
def Agrees (r s : Run) : Prop :=
  { r with expansion := none } = { s with expansion := none }

namespace Agrees

@[refl] lemma refl (r : Run) : r.Agrees r := rfl

@[symm] lemma symm (h : r.Agrees s) : s.Agrees r := Eq.symm h

@[trans] lemma trans (h : r.Agrees s) (h' : s.Agrees t) : r.Agrees t := Eq.trans h h'

lemma id_eq (h : r.Agrees s) : r.id = s.id := (congrArg Run.id h :)

lemma status_eq (h : r.Agrees s) : r.status = s.status := (congrArg Run.status h :)

lemma updated_eq (h : r.Agrees s) : r.updated = s.updated := (congrArg Run.updated h :)

lemma isInFlight_eq (h : r.Agrees s) : r.isInFlight = s.isInFlight := by
  unfold isInFlight
  rw [h.status_eq]

end Agrees

lemma agrees_keepExpansion (r old : Run) : (r.keepExpansion old).Agrees r := by
  unfold keepExpansion
  split <;> rfl

/-! ### The order of stamps -/

lemma newerThan_iff :
    r.newerThan s = true ↔
      ∃ t u, r.updated = some t ∧ s.updated = some u ∧ u.before t = true := by
  unfold newerThan
  cases hr : r.updated <;> cases hs : s.updated <;> simp

lemma newerThan_trans (h : r.newerThan s = true) (h' : s.newerThan t = true) :
    r.newerThan t = true := by
  obtain ⟨a, b, ha, hb, hba⟩ := newerThan_iff.mp h
  obtain ⟨b', c, hb', hc, hcb⟩ := newerThan_iff.mp h'
  obtain rfl : b = b' := Option.some.inj (hb.symm.trans hb')
  exact newerThan_iff.mpr ⟨a, c, ha, hc, Instant.before_trans hcb hba⟩

lemma not_newerThan_self (r : Run) : r.newerThan r = false := by
  unfold newerThan
  cases r.updated with
  | none => rfl
  | some t => exact Instant.not_before_self t

lemma not_newerThan_of_newerThan (h : r.newerThan s = true) : s.newerThan r = false := by
  rw [Bool.eq_false_iff]
  intro h'
  have hself := newerThan_trans h h'
  rw [not_newerThan_self] at hself
  exact Bool.false_ne_true hself

/-! ### What a record accepts -/

lemma accepts_iff :
    r.accepts s = true ↔ r.status.canBecome s.status = true ∧ r.newerThan s = false := by
  simp [accepts]

/-- Whether a record is accepted depends on the status and the stamp of both. -/
lemma accepts_congr (hr : r.Agrees r') (hs : s.Agrees s') : r.accepts s = r'.accepts s' := by
  unfold accepts newerThan
  rw [hr.status_eq, hr.updated_eq, hs.status_eq, hs.updated_eq]

lemma Agrees.accepts (h : r.Agrees s) : r.accepts s = true := by
  rw [accepts_congr h (.refl s), accepts_iff]
  exact ⟨Status.canBecome_self s.status, not_newerThan_self s⟩

/-- The stamp of `s` is not before that of `r`, if both have one. -/
def NotBack (r s : Run) : Prop :=
  ∀ t u, r.updated = some t → s.updated = some u → u.before t = false

lemma notBack_of_accepts (h : r.accepts s = true) : r.NotBack s := by
  intro t u ht hu
  have hnot := (accepts_iff.mp h).2
  simpa [newerThan, ht, hu] using hnot

/-- Stamps that do not go back can be chained as long as there are any. -/
lemma NotBack.trans (hs : s.updated.isSome = true) (h : r.NotBack s) (h' : s.NotBack t) :
    r.NotBack t := by
  intro a c ha hc
  obtain ⟨b, hb⟩ := Option.isSome_iff_exists.mp hs
  have hba : b.before a = false := h a b ha hb
  have hcb : c.before b = false := h' b c hb hc
  rw [Bool.eq_false_iff, Ne, Instant.before_iff] at *
  omega

/-- `r.Precedes s`: the run may go on from `r` to `s`, which was written later. -/
def Precedes (r s : Run) : Prop :=
  s.newerThan r = true ∧ r.status.canBecome s.status = true

namespace Precedes

lemma trans (h : r.Precedes s) (h' : s.Precedes t) : r.Precedes t :=
  ⟨newerThan_trans h'.1 h.1, Status.canBecome_trans h.2 h'.2⟩

lemma accepts (h : r.Precedes s) : r.accepts s = true :=
  accepts_iff.mpr ⟨h.2, not_newerThan_of_newerThan h.1⟩

/-- An earlier record does not come back. -/
lemma rejects (h : r.Precedes s) : s.accepts r = false := by
  simp [Run.accepts, h.1]

lemma asymm (h : r.Precedes s) : ¬ s.Precedes r := by
  intro h'
  have haccepts := h'.accepts
  rw [h.rejects] at haccepts
  exact Bool.false_ne_true haccepts

lemma congr (hr : r.Agrees r') (hs : s.Agrees s') (h : r.Precedes s) : r'.Precedes s' := by
  unfold Precedes newerThan at h ⊢
  rwa [← hr.status_eq, ← hr.updated_eq, ← hs.status_eq, ← hs.updated_eq]

/-- A record that was written later tells something else. -/
lemma not_agrees (h : r.Precedes s) : ¬ r.Agrees s := by
  intro hagrees
  have hself : s.Precedes s := h.congr hagrees (.refl s)
  exact hself.asymm hself

end Precedes

instance : Trans Precedes Precedes Precedes := ⟨Precedes.trans⟩

end Run

end RunBoard
