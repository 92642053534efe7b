import RunBoard.Proofs.Board.Commands

/-!
# The selection stays on the page

Rows leave a board in several ways: another page is shown, a patch tells that a run was deleted, or
runs are deleted here, one or several at once.  Each of them has to take the runs out of the
selection as well, since whatever is selected may be deleted with the next batch.  `SelectsRows` is
the invariant, and it does not need the page to list each run once: a patch removes the first row of
its run only, but deselects the run, and the rows of all other runs stay.
-/

namespace RunBoard.Board

open Subscriptions

variable {b b' : Board} {log : BoardLog} {id j : RunId}

lemma row?_isSome_iff : (b.row? id).isSome = true ↔ id ∈ b.rows.map Run.id := by
  unfold row? rowOf?
  rw [List.find?_isSome, List.mem_map]
  exact exists_congr fun row => and_congr_right fun _ => beq_iff_eq

lemma mem_foldl_insertId {ids acc : List RunId} :
    id ∈ ids.foldl (fun acc id => insertId id acc) acc ↔ id ∈ ids ∨ id ∈ acc := by
  induction ids generalizing acc with
  | nil => simp
  | cons j ids ih =>
    rw [List.foldl_cons, ih, mem_insertId, List.mem_cons]
    tauto

/-! ### The invariant -/

/-- Every selected run has a row. -/
def SelectsRows (b : Board) : Prop :=
  b.selected ⊆ b.rows.map Run.id

namespace SelectsRows

lemma of_same (h : b.SelectsRows) (selected : b'.selected = b.selected) (rows : b'.rows = b.rows) :
    b'.SelectsRows := by
  unfold SelectsRows
  rw [selected, rows]
  exact h

lemma of_nothing (h : b.selected = []) : b.SelectsRows := by
  unfold SelectsRows
  rw [h]
  exact List.nil_subset _

/-- A patch that removes a row deselects its run, and the other runs keep their rows. -/
lemma patched (h : b.SelectsRows) (patch : Patch) : (b.patched patch).SelectsRows := by
  have hmerges := merges_merge b.live patch b.rows b.detail
  unfold SelectsRows Board.patched at *
  generalize b.live.merge patch b.rows b.detail = merged at hmerges
  cases hmerges with
  | notSubscribed | notOnPage | stale => simpa using h
  | applied => simpa using h
  | removed =>
    intro id hid
    obtain ⟨hselected, hne⟩ : id ∈ b.selected ∧ id ≠ patch.record.id := by simpa using hid
    obtain ⟨row, hrow, rfl⟩ := List.mem_map.mp (h hselected)
    exact List.mem_map.mpr ⟨row, (List.mem_eraseP_of_neg (by simpa using hne)).mpr hrow, rfl⟩

/-- Rows that are dropped are deselected. -/
lemma dropRows (h : b.SelectsRows) (ids : List RunId) : (b.dropRows ids).SelectsRows := by
  intro id hid
  obtain ⟨hselected, hkept⟩ := List.mem_filter.mp hid
  obtain ⟨row, hrow, rfl⟩ := List.mem_map.mp (h hselected)
  exact List.mem_map.mpr ⟨row, List.mem_filter.mpr ⟨hrow, hkept⟩, rfl⟩

/-- Of any runs, only those are selected that have a row. -/
lemma select (b : Board) (ids : List RunId) : (b.select ids).SelectsRows := by
  intro id hid
  rcases mem_foldl_insertId.mp hid with hpresent | hnone
  · exact row?_isSome_iff.mp (List.mem_filter.mp hpresent).2
  · cases hnone

lemma toggle (h : b.SelectsRows) (id : RunId) : (b.toggle id).1.SelectsRows := by
  unfold Board.toggle
  split
  · exact fun j hj => h (List.mem_filter.mp hj).1
  · split
    · exact h
    · rename_i hrow
      have hshown : (b.row? id).isSome = true :=
        Option.isSome_iff_ne_none.mpr (by simpa using hrow)
      intro j hj
      rcases mem_insertId.mp hj with rfl | hselected
      · exact row?_isSome_iff.mp hshown
      · exact h hselected

lemma of_step (step : Step b log b') (h : b.SelectsRows) : b'.SelectsRows := by
  cases step with
  | receive | empty | closeDetail => exact h.of_same rfl rfl
  | remove | removeFailed | cancel | cancelFailed => exact h.of_same rfl rfl
  | take hnext =>
    obtain ⟨_, -, rfl⟩ := nextPatch?_eq_some_iff.mp hnext
    exact h.of_same rfl rfl
  | patch patch => exact h.patched patch
  | drop ids => exact h.dropRows ids
  | load page arrived follows => exact of_nothing (by cases follows <;> rfl)
  | turn | clearSelection => exact of_nothing rfl
  | select ids => exact select b ids
  | toggle id => exact h.toggle id
  | fail e arrived => exact h.of_same (by rw [failed_eq]; rfl) (failed_rows _ e)
  | openDetail id => exact h.of_same (by rw [openDetail_eq]) (openDetail_rows b id)

lemma of_history {query : Query} {deeds : List Deed} (h : History (.new query) deeds b) :
    b.SelectsRows :=
  h.keep (P := fun b _ b' => b.SelectsRows → b'.SelectsRows) (fun _ => id)
    (fun h h' => h' ∘ h) of_step (fun _ h => h.of_same rfl rfl) (of_nothing rfl)

end SelectsRows

/-! ### Toggling -/

/-- Toggling a run that has a row turns it round, and no other run. -/
lemma mem_toggle (shown : id ∈ b.rows.map Run.id) :
    j ∈ (b.toggle id).1.selected ↔ if j = id then j ∉ b.selected else j ∈ b.selected := by
  have hrow : (b.row? id).isNone = false := by simpa using row?_isSome_iff.mpr shown
  by_cases hselected : id ∈ b.selected
  · by_cases hj : j = id
    · simp [Board.toggle, hj, hselected]
    · simp [Board.toggle, hj, hselected]
  · by_cases hj : j = id
    · simp [Board.toggle, hj, hselected, hrow]
    · simp [Board.toggle, hj, hselected, hrow]

/-- Toggling tells whether the run is selected now. -/
lemma toggle_snd_iff (b : Board) (id : RunId) :
    (b.toggle id).2 = true ↔ id ∈ (b.toggle id).1.selected := by
  unfold toggle
  split
  · simp
  · split
    · simpa
    · simp

/-! ### The theorem -/

/-- **The selection stays on the page.**  After every history of a new board, every selected run has
a row.  Toggling a run that has a row turns round whether it is selected, changes nothing else, and
tells whether it is selected now; toggling any other run changes nothing and tells that it is not
selected. -/
theorem selected_subset_rows {query : Query} {deeds : List Deed} {b : Board}
    (history : History (.new query) deeds b) :
    (∀ id ∈ b.selected, ∃ row ∈ b.rows, row.id = id) ∧
    (∀ id, (∃ row ∈ b.rows, row.id = id) →
      (b.toggle id).1 = { b with selected := (b.toggle id).1.selected } ∧
      (∀ j, j ∈ (b.toggle id).1.selected ↔ if j = id then j ∉ b.selected else j ∈ b.selected) ∧
      ((b.toggle id).2 = true ↔ id ∈ (b.toggle id).1.selected)) ∧
    ∀ id, (∀ row ∈ b.rows, row.id ≠ id) → b.toggle id = (b, false) := by
  have hselects : b.SelectsRows := .of_history history
  refine ⟨fun id hid => List.mem_map.mp (hselects hid), ?_, ?_⟩
  · intro id hshown
    have hmem : id ∈ b.rows.map Run.id := List.mem_map.mpr hshown
    exact ⟨toggle_eq b id, fun j => mem_toggle hmem, toggle_snd_iff b id⟩
  · intro id hothers
    have hrow : (b.row? id).isNone = true := by
      rw [show b.row? id = none from rowOf?_eq_none_iff.mpr hothers, Option.isNone_none]
    have hselected : id ∉ b.selected := by
      intro hid
      obtain ⟨row, hrow, hrowid⟩ := List.mem_map.mp (hselects hid)
      exact hothers row hrow hrowid
    simp only [toggle, hselected, hrow, if_true, if_false]

/-- Runs are selected, twice or without a row, and one of those selected is deleted elsewhere. -/
def deselectedByPatch : List Deed × Board :=
  let answer := answerWith
    ⟨[.bare "a" .pending, .bare "b" .processing, .bare "c" .succeeded], 3⟩ "none"
  (Board.new (.of none 1 10 false)).acts [(.command .refresh, answer),
    (.command (.select ["b", "x", "c", "b"]), answer),
    (.receive [⟨.delete, .bare "b" .processing⟩], answer), (.drain, answer)]

/-- Of the runs that were selected one is left; another one can be selected besides, and the deleted
one no more. -/
theorem selected_subset_rows_of_deselectedByPatch :
    deselectedByPatch.2.selected = ["c"] ∧
    (∃ row ∈ deselectedByPatch.2.rows, row.id = "c") ∧
    (deselectedByPatch.2.toggle "a").1.selected = ["a", "c"] ∧
    (deselectedByPatch.2.toggle "a").2 = true ∧
    deselectedByPatch.2.toggle "b" = (deselectedByPatch.2, false) := by
  have history : History (.new (.of none 1 10 false)) deselectedByPatch.1 deselectedByPatch.2 :=
    history_of_acts _ _
  obtain ⟨hrows, hshown, hhidden⟩ := selected_subset_rows history
  obtain ⟨-, -, hnow⟩ := hshown "a" (by decide)
  exact ⟨rfl, hrows "c" (by decide), rfl, hnow.mpr (by decide), hhidden "b" (by decide)⟩

end RunBoard.Board
