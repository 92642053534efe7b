import Mathlib.Tactic.Common
import Mathlib.Data.List.Nodup
import RunBoard.Board.Loading

/-!
# The rows of a page

What looking up, replacing, removing and settling rows do to the rows of a page.  A page that lists
each run once stays such a page, and on it the row of a run is the only one with its identifier.
-/

namespace RunBoard

/-- A page lists each run once. -/
def Distinct (rows : List Run) : Prop :=
  (rows.map Run.id).Nodup

namespace Distinct

variable {rows : List Run} {r r' : Run}

lemma eq_of_id_eq (h : Distinct rows) (hr : r ∈ rows) (hr' : r' ∈ rows) (hid : r.id = r'.id) :
    r = r' :=
  List.inj_on_of_nodup_map h hr hr' hid

lemma cons_iff : Distinct (r :: rows) ↔ (∀ r' ∈ rows, r'.id ≠ r.id) ∧ Distinct rows := by
  simp [Distinct]

lemma filter (h : Distinct rows) (p : Run → Bool) : Distinct (rows.filter p) :=
  List.Nodup.sublist (List.filter_sublist.map _) h

end Distinct

namespace Subscriptions

variable {rows : List Run} {id : RunId} {r r' row record : Run}

lemma rowOf?_eq_some (h : rowOf? rows id = some row) : row ∈ rows ∧ row.id = id := by
  have hid := List.find?_some h
  exact ⟨List.mem_of_find?_eq_some h, by simpa using hid⟩

lemma rowOf?_eq_none_iff : rowOf? rows id = none ↔ ∀ r ∈ rows, r.id ≠ id := by
  simp [rowOf?]

/-! ### Removing a row -/

lemma removeRow_cons_self (h : r.id = id) : removeRow (r :: rows) id = rows := by
  simp [removeRow, h]

lemma removeRow_cons_of_ne (h : r.id ≠ id) : removeRow (r :: rows) id = r :: removeRow rows id := by
  simp [removeRow, h]

lemma distinct_removeRow (h : Distinct rows) (id : RunId) : Distinct (removeRow rows id) :=
  List.Nodup.sublist (List.eraseP_sublist.map _) h

lemma mem_removeRow (h : Distinct rows) : r ∈ removeRow rows id ↔ r ∈ rows ∧ r.id ≠ id := by
  induction rows with
  | nil => simp [removeRow]
  | cons a rows ih =>
    obtain ⟨hnew, hrows⟩ := Distinct.cons_iff.mp h
    by_cases ha : a.id = id
    · rw [removeRow_cons_self ha]
      constructor
      · intro hr
        exact ⟨List.mem_cons_of_mem _ hr, ha ▸ hnew r hr⟩
      · rintro ⟨hr, hne⟩
        rcases List.mem_cons.mp hr with rfl | hr
        · exact absurd ha hne
        · exact hr
    · rw [removeRow_cons_of_ne ha, List.mem_cons, ih hrows, List.mem_cons]
      constructor
      · rintro (rfl | ⟨hr, hne⟩)
        · exact ⟨Or.inl rfl, ha⟩
        · exact ⟨Or.inr hr, hne⟩
      · rintro ⟨rfl | hr, hne⟩
        · exact Or.inl rfl
        · exact Or.inr ⟨hr, hne⟩

lemma rowOf?_removeRow {j : RunId} (hne : id ≠ j) :
    rowOf? (removeRow rows j) id = rowOf? rows id := by
  induction rows with
  | nil => rfl
  | cons a rows ih =>
    by_cases ha : a.id = j
    · have hid : a.id ≠ id := fun h => hne (h.symm.trans ha)
      simp [removeRow, rowOf?, ha, hne.symm]
    · rw [removeRow_cons_of_ne ha]
      unfold rowOf? at ih ⊢
      rw [List.find?_cons, List.find?_cons, ih]

lemma rowOf?_removeRow_self (h : Distinct rows) (id : RunId) :
    rowOf? (removeRow rows id) id = none :=
  rowOf?_eq_none_iff.mpr fun _ hr => ((mem_removeRow h).mp hr).2

lemma length_removeRow (h : rowOf? rows id = some row) :
    (removeRow rows id).length + 1 = rows.length := by
  obtain ⟨hmem, hid⟩ := rowOf?_eq_some h
  have hlength : (removeRow rows id).length = rows.length - 1 :=
    List.length_eraseP_of_mem hmem (by simpa using hid)
  have hpos : 0 < rows.length := List.length_pos_of_mem hmem
  omega

lemma rowOf?_filter_of_notMem {ids : List RunId} (h : id ∉ ids) :
    rowOf? (rows.filter fun r => r.id ∉ ids) id = rowOf? rows id := by
  unfold rowOf?
  rw [List.find?_filter]
  congr 1
  funext r
  by_cases hr : r.id = id <;> simp [hr, h]

/-! ### Replacing a row -/

lemma replaceRow_cons_self (h : r'.id = r.id) : replaceRow (r' :: rows) r = r :: rows :=
  if_pos h

lemma replaceRow_cons_of_ne (h : r'.id ≠ r.id) :
    replaceRow (r' :: rows) r = r' :: replaceRow rows r :=
  if_neg h

@[simp] lemma map_id_replaceRow (rows : List Run) (record : Run) :
    (replaceRow rows record).map Run.id = rows.map Run.id := by
  induction rows with
  | nil => rfl
  | cons a rows ih =>
    by_cases ha : a.id = record.id <;> simp [replaceRow, ha, ih]

@[simp] lemma length_replaceRow (rows : List Run) (record : Run) :
    (replaceRow rows record).length = rows.length := by
  have hids := congrArg List.length (map_id_replaceRow rows record)
  rwa [List.length_map, List.length_map] at hids

lemma distinct_replaceRow : Distinct (replaceRow rows record) ↔ Distinct rows := by
  simp [Distinct]

lemma mem_replaceRow (h : Distinct rows) :
    r ∈ replaceRow rows record ↔
      (r = record ∧ ∃ row ∈ rows, row.id = record.id) ∨ (r ∈ rows ∧ r.id ≠ record.id) := by
  induction rows with
  | nil => simp [replaceRow]
  | cons a rows ih =>
    obtain ⟨hnew, hrows⟩ := Distinct.cons_iff.mp h
    by_cases ha : a.id = record.id
    · rw [replaceRow_cons_self ha, List.mem_cons]
      constructor
      · rintro (rfl | hr)
        · exact Or.inl ⟨rfl, a, List.mem_cons_self, ha⟩
        · exact Or.inr ⟨List.mem_cons_of_mem _ hr, ha ▸ hnew r hr⟩
      · rintro (⟨rfl, -⟩ | ⟨hr, hne⟩)
        · exact Or.inl rfl
        · rcases List.mem_cons.mp hr with rfl | hr
          · exact absurd ha hne
          · exact Or.inr hr
    · rw [replaceRow_cons_of_ne ha, List.mem_cons, ih hrows]
      constructor
      · rintro (rfl | ⟨rfl, row, hrow, hid⟩ | ⟨hr, hne⟩)
        · exact Or.inr ⟨List.mem_cons_self, ha⟩
        · exact Or.inl ⟨rfl, row, List.mem_cons_of_mem _ hrow, hid⟩
        · exact Or.inr ⟨List.mem_cons_of_mem _ hr, hne⟩
      · rintro (⟨rfl, row, hrow, hid⟩ | ⟨hr, hne⟩)
        · rcases List.mem_cons.mp hrow with rfl | hrow
          · exact absurd hid ha
          · exact Or.inr (Or.inl ⟨rfl, row, hrow, hid⟩)
        · rcases List.mem_cons.mp hr with rfl | hr
          · exact Or.inl rfl
          · exact Or.inr (Or.inr ⟨hr, hne⟩)

lemma rowOf?_replaceRow (rows : List Run) (record : Run) (id : RunId) :
    rowOf? (replaceRow rows record) id =
      if id = record.id then (rowOf? rows id).map fun _ => record else rowOf? rows id := by
  induction rows with
  | nil => simp [replaceRow, rowOf?]
  | cons a rows ih =>
    unfold rowOf? at ih ⊢
    by_cases ha : a.id = record.id
    · by_cases hid : id = record.id
      · simp [replaceRow, ha, hid]
      · simp [replaceRow, ha, hid, Ne.symm hid]
    · by_cases hid : id = record.id
      · subst hid
        simpa [replaceRow, ha] using ih
      · rw [if_neg hid] at ih ⊢
        rw [replaceRow_cons_of_ne ha, List.find?_cons, List.find?_cons, ih]

/-! ### Taking in a patch -/

variable {s : Subscriptions} {patch : Patch} {detail : Detail}

/-- What can become of a patch. -/
inductive Merges (s : Subscriptions) (patch : Patch) (rows : List Run) (detail : Detail) :
    Merged → Prop
  | notSubscribed (hlive : patch.record.id ∉ s) :
      Merges s patch rows detail ⟨rows, detail, .ignored .notSubscribed⟩
  | notOnPage (hlive : patch.record.id ∈ s) (hrow : ∀ r ∈ rows, r.id ≠ patch.record.id) :
      Merges s patch rows detail ⟨rows, detail, .ignored .notOnPage⟩
  | removed {row : Run} (hlive : patch.record.id ∈ s)
      (hrow : rowOf? rows patch.record.id = some row) (hdelete : patch.action = .delete) :
      Merges s patch rows detail ⟨removeRow rows patch.record.id, detail, .removed⟩
  | applied {row : Run} (hlive : patch.record.id ∈ s)
      (hrow : rowOf? rows patch.record.id = some row) (hkeep : patch.action ≠ .delete)
      (haccepts : row.accepts patch.record = true) :
      Merges s patch rows detail
        ⟨replaceRow rows (patch.record.keepExpansion row),
          detail.merge (patch.record.keepExpansion row),
          .applied (patch.record.keepExpansion row).isTerminal⟩
  | stale {row : Run} (hlive : patch.record.id ∈ s)
      (hrow : rowOf? rows patch.record.id = some row) (hkeep : patch.action ≠ .delete)
      (haccepts : row.accepts patch.record = false) :
      Merges s patch rows detail ⟨rows, detail, .ignored .stale⟩

lemma merges_merge (s : Subscriptions) (patch : Patch) (rows : List Run) (detail : Detail) :
    s.Merges patch rows detail (s.merge patch rows detail) := by
  unfold merge
  by_cases hlive : patch.record.id ∈ s
  · simp only [hlive, not_true_eq_false, if_false]
    cases hrow : rowOf? rows patch.record.id with
    | none => exact .notOnPage hlive (rowOf?_eq_none_iff.mp hrow)
    | some row =>
      by_cases hdelete : patch.action = .delete
      · simpa only [hdelete, if_true] using .removed hlive hrow hdelete
      · by_cases haccepts : row.accepts patch.record = true
        · simpa only [hdelete, haccepts, if_true, if_false] using
            .applied hlive hrow hdelete haccepts
        · simpa only [hdelete, haccepts, if_false] using
            .stale hlive hrow hdelete (Bool.eq_false_iff.mpr haccepts)
  · simpa only [hlive, not_false_eq_true, if_true] using .notSubscribed hlive

end Subscriptions

namespace Run

/-- A record that tells nothing but the identifier and the status of a run. -/
def bare (id : RunId) (status : Status) : Run :=
  ⟨id, "", status, none, none, none, .null, "", none, none, none⟩

/-- Such a record with a stamp. -/
def stamped (id : RunId) (status : Status) (second : Int) : Run :=
  { bare id status with updated := some ⟨second, 0⟩ }

@[simp] lemma keepExpansion_id (r old : Run) : (r.keepExpansion old).id = r.id := by
  unfold keepExpansion
  split <;> rfl

@[simp] lemma isTerminal_eq (r : Run) : r.isTerminal = !r.isInFlight := rfl

end Run

namespace Board

/-! ### The rows of a fetched page -/

@[simp] lemma settleRow_id (rows : List Run) (fetched : Run) :
    (settleRow rows fetched).id = fetched.id := by
  unfold settleRow
  cases hrow : Subscriptions.rowOf? rows fetched.id with
  | none => rfl
  | some held =>
    obtain ⟨-, hid⟩ := Subscriptions.rowOf?_eq_some hrow
    by_cases haccepts : held.accepts fetched = true
    · simp [haccepts]
    · simpa [haccepts] using hid

lemma settleRow_of_held {rows : List Run} {fetched held : Run}
    (h : Subscriptions.rowOf? rows fetched.id = some held) :
    settleRow rows fetched = if held.accepts fetched then fetched else held := by
  simp [settleRow, h]

/-- What is shown is the fetched record, or a row that does not accept it. -/
lemma settleRow_eq_or (rows : List Run) (fetched : Run) :
    settleRow rows fetched = fetched ∨
      settleRow rows fetched ∈ rows ∧ (settleRow rows fetched).accepts fetched = false := by
  cases hheld : Subscriptions.rowOf? rows fetched.id with
  | none => exact Or.inl (by simp [settleRow, hheld])
  | some held =>
    rw [settleRow_of_held hheld]
    by_cases haccepts : held.accepts fetched = true
    · exact Or.inl (if_pos haccepts)
    · rw [if_neg haccepts]
      exact Or.inr ⟨(Subscriptions.rowOf?_eq_some hheld).1, Bool.eq_false_iff.mpr haccepts⟩

lemma rowOf?_map_settleRow (rows items : List Run) (id : RunId) :
    Subscriptions.rowOf? (items.map (settleRow rows)) id =
      (Subscriptions.rowOf? items id).map (settleRow rows) := by
  unfold Subscriptions.rowOf?
  rw [List.find?_map]
  congr 2
  funext r
  simp

lemma map_id_map_settleRow (rows items : List Run) :
    (items.map (settleRow rows)).map Run.id = items.map Run.id := by
  simp

lemma distinct_map_settleRow {items : List Run} (h : Distinct items) (rows : List Run) :
    Distinct (items.map (settleRow rows)) := by
  unfold Distinct
  rw [map_id_map_settleRow]
  exact h

lemma map_id_replacePage (b : Board) (page : Page) :
    (b.replacePage page).rows.map Run.id = page.items.map Run.id :=
  map_id_map_settleRow b.rows page.items

lemma distinct_replacePage {b : Board} {page : Page} (h : Distinct page.items) :
    Distinct (b.replacePage page).rows :=
  distinct_map_settleRow h b.rows

end Board

end RunBoard
