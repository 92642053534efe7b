import RunBoard.Proofs.Board.Following
import RunBoard.Proofs.Board.Paging

/-!
# The total keeps step with the rows

A board knows how many runs there are on all pages from the last page that was fetched, and takes
off one for each row that goes since then.  So the total is always the number of rows and the number
of runs on the other pages that the last page told of (`elsewhere`), and what is taken off it is
there to be taken: rows never go without the total, nor the total without rows.

`Counts` says this of the course of a step and of the boards before and after it, and holds of whole
histories on pages that do not count fewer runs than they list.
-/

namespace RunBoard

/-- The number of runs on other pages. -/
def Page.elsewhere (page : Page) : Nat :=
  page.total - page.items.length

namespace Board

open Subscriptions

variable {b b' c : Board} {log rest : BoardLog} {elsewhere : Nat}

/-! ### The runs on other pages -/

/-- Every page that was fetched counts the runs that it lists. -/
def AmplePages (log : BoardLog) : Prop :=
  ∀ query page, (query, page) ∈ listed log → page.items.length ≤ page.total

lemma AmplePages.append (h : AmplePages (log ++ rest)) : AmplePages log ∧ AmplePages rest := by
  simp only [AmplePages, listed_append, List.mem_append] at h
  exact ⟨fun query page hpage => h query page (Or.inl hpage),
    fun query page hpage => h query page (Or.inr hpage)⟩

/-- The number of runs on other pages, by the last page that was fetched. -/
def elsewhereAfter (elsewhere : Nat) (log : BoardLog) : Nat :=
  ((listed log).getLast?.map fun (_, page) => page.elsewhere).getD elsewhere

lemma elsewhereAfter_of_unlisted (h : listed log = []) :
    elsewhereAfter elsewhere log = elsewhere := by
  simp [elsewhereAfter, h]

lemma elsewhereAfter_append (elsewhere : Nat) (log rest : BoardLog) :
    elsewhereAfter elsewhere (log ++ rest) =
      elsewhereAfter (elsewhereAfter elsewhere log) rest := by
  unfold elsewhereAfter
  rw [listed_append, List.getLast?_append]
  cases (listed rest).getLast? <;> rfl

/-! ### What each step keeps -/

/-- The total counts the rows and the runs on other pages. -/
def Counted (elsewhere : Nat) (b : Board) : Prop :=
  b.total = b.rows.length + elsewhere

/-- The total still counts the rows and the runs on other pages after a course. -/
def Counts (b : Board) (log : BoardLog) (b' : Board) : Prop :=
  ∀ elsewhere, AmplePages log → Counted elsewhere b → Counted (elsewhereAfter elsewhere log) b'

/-- A patch takes as much off the total as off the rows, and it is one if it removes a row. -/
lemma counted_patched (patch : Patch) (h : Counted elsewhere b) :
    Counted elsewhere (b.patched patch) ∧
      ((b.live.merge patch b.rows b.detail).outcome = .removed →
        (b.patched patch).total + 1 = b.total ∧
          (b.patched patch).rows.length + 1 = b.rows.length) := by
  have hmerges := merges_merge b.live patch b.rows b.detail
  unfold Counted patched at *
  generalize b.live.merge patch b.rows b.detail = merged at hmerges
  cases hmerges with
  | notSubscribed | notOnPage | stale => exact ⟨by simpa using h, by simp⟩
  | removed _ hrow _ =>
    have hlength := length_removeRow hrow
    simp only [if_true]
    omega
  | applied => exact ⟨by simpa using h, by simp⟩

lemma counted_dropRows (ids : List RunId) (h : Counted elsewhere b) :
    Counted elsewhere (b.dropRows ids) := by
  have hlength : (b.dropRows ids).rows.length ≤ b.rows.length := List.length_filter_le _ _
  have htotal : (b.dropRows ids).total =
      b.total - (b.rows.length - (b.dropRows ids).rows.length) := rfl
  unfold Counted at *
  omega

lemma counted_replacePage {query : Query} {page : Page} {arrived : List Patch}
    (ample : AmplePages (.asked (.list query) ⟨.ok page, arrived⟩ :: log)) (b : Board) :
    Counted page.elsewhere (b.replacePage page) := by
  have hpage : page.items.length ≤ page.total :=
    ample query page (by simp [listed_cons, listedAt])
  have hrows : (b.replacePage page).rows.length = page.items.length := List.length_map _
  have htotal : (b.replacePage page).total = page.total := rfl
  unfold Counted Page.elsewhere
  omega

namespace Counts

/-- What fetches no page and leaves the rows and the total as they are. -/
lemma of_same (unlisted : listed log = []) (rows : b'.rows = b.rows) (total : b'.total = b.total) :
    Counts b log b' := by
  intro elsewhere _ h
  rw [elsewhereAfter_of_unlisted unlisted]
  unfold Counted
  rw [rows, total]
  exact h

lemma trans (h : Counts b log c) (h' : Counts c rest b') : Counts b (log ++ rest) b' := by
  intro elsewhere ample hcounted
  rw [elsewhereAfter_append]
  exact h' _ ample.append.2 (h _ ample.append.1 hcounted)

lemma of_step (h : Step b log b') : Counts b log b' := by
  cases h with
  | receive | empty | turn | select | clearSelection | closeDetail => exact of_same rfl rfl rfl
  | remove | cancel => exact of_same rfl rfl rfl
  | removeFailed | cancelFailed => exact of_same (by simp [listed_cons, listedAt]) rfl rfl
  | take hnext =>
    obtain ⟨_, -, rfl⟩ := nextPatch?_eq_some_iff.mp hnext
    exact of_same rfl rfl rfl
  | toggle id => exact of_same rfl (toggle_rows b id) (by rw [toggle_eq])
  | openDetail id => exact of_same rfl (openDetail_rows b id) (by rw [openDetail_eq])
  | fail e arrived =>
    exact of_same (by simp [listed_cons, listedAt]) (failed_rows _ e) (by rw [failed_eq]; rfl)
  | patch patch =>
    intro elsewhere _ h
    have hlog : listed (if (b.live.merge patch b.rows b.detail).outcome.releases then
        releasing [patch.record.id] else []) = [] := by
      split
      · exact listed_releasing _
      · rfl
    rw [elsewhereAfter_of_unlisted hlog]
    exact (counted_patched patch h).1
  | drop ids =>
    intro elsewhere _ h
    exact counted_dropRows ids h
  | @load _ rest page arrived follows =>
    -- whatever the total was, it is now that of the page, the last one fetched
    intro elsewhere ample _
    have hlisted : elsewhereAfter elsewhere
        (.asked (.list b.query) ⟨.ok page, arrived⟩ :: rest) = page.elsewhere := by
      simp [elsewhereAfter, listed_cons, listedAt, follows.listed_eq]
    have htotal : b'.total = ((b.receive arrived).replacePage page).total := by
      cases follows <;> rfl
    have hcounted := counted_replacePage ample (b.receive arrived)
    rw [hlisted]
    unfold Counted at *
    rw [htotal, follows.rows_eq]
    exact hcounted

lemma of_history {deeds : List Deed} (h : History b deeds b') : Counts b (logOf deeds) b' :=
  h.keep (fun _ => of_same rfl rfl rfl) trans of_step
    fun _ => of_same (listed_releasing _) rfl rfl

end Counts

/-! ### Deleting the selected runs -/

/-- The rows that stay when the selected runs that have ended are deleted. -/
lemma length_dropRows_deletable (distinct : Distinct b.rows) :
    (b.dropRows b.deletable).rows.length + b.deletable.length = b.rows.length := by
  have hstay : b.rows.filter (fun r => r.id ∉ b.deletable) =
      b.rows.filter fun r => !decide (r.id ∈ b.selected ∧ r.isTerminal) := by
    refine List.filter_congr fun r hr => ?_
    -- a row may go because of another row of its run that has ended, were there one
    have hdue : r.id ∈ b.deletable ↔ r.id ∈ b.selected ∧ r.isTerminal := by
      rw [mem_deletable]
      constructor
      · rintro ⟨row, hrow, hid, hselected, hended⟩
        obtain rfl := distinct.eq_of_id_eq hrow hr hid
        exact ⟨hselected, hended⟩
      · rintro ⟨hselected, hended⟩
        exact ⟨r, hr, rfl, hselected, hended⟩
    simp [hdue]
  have hrows : (b.dropRows b.deletable).rows = b.rows.filter fun r => r.id ∉ b.deletable := rfl
  have hgone : b.deletable.length =
      (b.rows.filter fun r => decide (r.id ∈ b.selected ∧ r.isTerminal)).length := by
    rw [deletable_eq, List.length_map]
  rw [hrows, hstay, hgone, Nat.add_comm]
  exact (List.length_eq_length_filter_add _).symm

/-- What is left of the rows if the page could not be fetched after the removal. -/
lemma rows_of_deleteSelected {count : Nat} (distinct : Distinct b.rows)
    (h : b.deleteSelected.Course log (b', .ok count)) (unlisted : listed log = []) :
    b'.rows.Sublist b.rows ∧ b'.rows.length + count = b.rows.length := by
  cases course_deleteSelected h with
  | refused => exact ⟨List.Sublist.refl _, rfl⟩
  | @granted action answer log _ _ asks verdict loads =>
    obtain ⟨-, rfl⟩ := batchDeletion?_eq_some_iff.mp asks
    have hrows : b'.rows = (b.dropRows b.deletable).rows := by
      rw [listed_cons] at unlisted
      exact loads.rows_eq_of_unlisted (List.append_eq_nil_iff.mp unlisted).2
    rw [hrows]
    exact ⟨List.filter_sublist, length_dropRows_deletable distinct⟩

/-- The total after deleting the selected runs follows the rows. -/
lemma counted_deleteSelected {outcome : Except ActionError Nat} (h : Counted elsewhere b)
    (course : b.deleteSelected.Course log (b', outcome)) (unlisted : listed log = []) :
    Counted elsewhere b' := by
  have ended : ∀ ids, b.batchDeletion? = some (.remove ids) →
      ∀ id ∈ ids, ∃ r ∈ b.rows, r.id = id ∧ r.isTerminal = true := fun ids =>
    @ended_of_removal b (.command .deleteSelected) ids
  have steps : Steps b log b' :=
    steps_of_handles (handles_of_undertakes (course_deleteSelected course) ended)
  have hcounts : Counts b log b' :=
    steps.keep (fun _ => .of_same rfl rfl rfl) Counts.trans Counts.of_step
  have ample : AmplePages log := fun query page hpage => by
    rw [unlisted] at hpage
    cases hpage
  have hcounted := hcounts elsewhere ample h
  rwa [elsewhereAfter_of_unlisted unlisted] at hcounted

/-! ### The theorem -/

/-- **The total never drifts from the rows.**  After every history of a new board, on pages that do
not count fewer runs than they list, the total is at least the number of rows, and what it counts
besides them are the runs on other pages by the last page that was fetched.  So whatever is taken
off the total is there: one for a row that a patch removes, and one for each row that is dropped.
And if deleting the selected runs succeeds on pages that list each run once, but no page could be
fetched afterwards, then as many rows are gone as it says, and the total has dropped by as many. -/
theorem total_eq_rows_add_elsewhere {query : Query} {deeds : List Deed} {b : Board}
    (history : History (.new query) deeds b) (ample : AmplePages (logOf deeds)) :
    (b.rows.length ≤ b.total ∧ b.total - b.rows.length =
      ((listed (logOf deeds)).getLast?.map fun (_, page) => page.total - page.items.length).getD
        0) ∧
    (∀ (patch : Patch) (log : BoardLog) (b' : Board),
      (b.applyPatch patch).Course log (b', .removed) →
      b'.rows.length + 1 = b.rows.length ∧ b'.total + 1 = b.total) ∧
    (∀ ids : List RunId,
      (b.dropRows ids).total + (b.rows.length - (b.dropRows ids).rows.length) = b.total) ∧
    (DistinctPages (logOf deeds) → ∀ (count : Nat) (log : BoardLog) (b' : Board),
      b.deleteSelected.Course log (b', .ok count) → listed log = [] →
      b'.rows.Sublist b.rows ∧ b'.rows.length + count = b.rows.length ∧
        b'.total + count = b.total) := by
  have hcounted : Counted (elsewhereAfter 0 (logOf deeds)) b :=
    Counts.of_history history 0 ample rfl
  have htotal : b.total = b.rows.length + elsewhereAfter 0 (logOf deeds) := hcounted
  refine ⟨⟨by omega, ?_⟩, ?_, ?_, ?_⟩
  · rw [htotal, Nat.add_sub_cancel_left]
    rfl
  · intro patch log b' course
    obtain ⟨-, rfl, houtcome⟩ := course_applyPatch_iff.mp course
    exact ((counted_patched patch hcounted).2 houtcome.symm).symm
  · intro ids
    have hlength : (b.dropRows ids).rows.length ≤ b.rows.length := List.length_filter_le _ _
    have hdropped : (b.dropRows ids).total =
        b.total - (b.rows.length - (b.dropRows ids).rows.length) := rfl
    omega
  · intro pages count log b' course unlisted
    have distinct : Distinct b.rows := (followed_of_history history pages).distinct
    obtain ⟨hsublist, hlength⟩ := rows_of_deleteSelected distinct course unlisted
    have hleft : b'.total = b'.rows.length + elsewhereAfter 0 (logOf deeds) :=
      counted_deleteSelected hcounted course unlisted
    exact ⟨hsublist, hlength, by omega⟩

/-- Five runs out of twelve. -/
def fiveOfTwelve : Page :=
  ⟨[.bare "a" .pending, .bare "b" .succeeded, .bare "c" .failed, .bare "d" .processing,
    .bare "e" .canceled], 12⟩

/-- A page is loaded and one of its runs deleted by two patches; then three runs are selected, and
no page can be loaded any more. -/
def deletedTwice : List Deed × Board :=
  let deleted : Patch := ⟨.delete, .bare "a" .pending⟩
  let answer := answerWith fiveOfTwelve "none"
  (Board.new (.of none 2 5 false)).acts [(.command .refresh, answer),
    (.receive [deleted, deleted], answer), (.drain, answer),
    (.command (.select ["b", "d", "e"]), answer), (.command .refresh, offline)]

/-- Of the selected runs those two that have ended are deleted. -/
theorem total_eq_rows_add_elsewhere_of_deletedTwice :
    let left := deletedTwice.2.deleteSelected.play (removing .notFound)
    deletedTwice.2.rows.length = 4 ∧ deletedTwice.2.total = 11 ∧
      deletedTwice.2.total - deletedTwice.2.rows.length = 7 ∧ left.2.2 = .ok 2 ∧
      left.2.1.rows.length + 2 = deletedTwice.2.rows.length ∧
      left.2.1.total + 2 = deletedTwice.2.total := by
  intro left
  have history : History (.new (.of none 2 5 false)) deletedTwice.1 deletedTwice.2 :=
    history_of_acts _ _
  have fetched : listed (logOf deletedTwice.1) = [(.of none 2 5 false, fiveOfTwelve)] := rfl
  have ample : AmplePages (logOf deletedTwice.1) := by
    intro query page hpage
    rw [fetched] at hpage
    obtain ⟨rfl, rfl⟩ := Prod.mk.inj (List.mem_singleton.mp hpage)
    decide
  have pages : DistinctPages (logOf deletedTwice.1) := by
    intro query page arrived hasked
    have hpage := mem_listed_iff.mpr ⟨arrived, hasked⟩
    rw [fetched] at hpage
    obtain ⟨rfl, rfl⟩ := Prod.mk.inj (List.mem_singleton.mp hpage)
    unfold Distinct
    decide
  have course : deletedTwice.2.deleteSelected.Course left.1 (left.2.1, .ok 2) :=
    Task.course_play _ _
  obtain ⟨⟨-, helsewhere⟩, -, -, hdelete⟩ := total_eq_rows_add_elsewhere history ample
  obtain ⟨-, hrows, htotal⟩ := hdelete pages 2 left.1 left.2.1 course rfl
  exact ⟨rfl, rfl, helsewhere, rfl, hrows, htotal⟩

end Board

end RunBoard
