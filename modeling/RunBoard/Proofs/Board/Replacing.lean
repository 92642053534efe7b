import RunBoard.Proofs.Board.Aligning
import RunBoard.Proofs.Board.Paging

/-!
# A page is replaced as a whole, or not at all

Loading has two parts: a page is fetched and shown, and its runs in flight are followed.  Following
touches the subscriptions and nothing else, whether it is given up or not; so what is shown
afterwards is settled by the page alone (`Replaced`), row by row and in its order (`Settles`).  If
the page was not fetched, neither of the two parts has taken place (`Kept`).
-/

namespace RunBoard.Board

open Subscriptions

variable {b b' : Board} {log : BoardLog}

/-! ### Rows -/

/-- The row that may be shown for a fetched record, given the rows shown before: the record itself,
unless the row of its run does not accept it, which is then left as it is. -/
inductive Settles (rows : List Run) (fetched : Run) : Run → Prop
  | taken (accepted : ∀ held, rowOf? rows fetched.id = some held → held.accepts fetched = true) :
      Settles rows fetched fetched
  | kept {held : Run} (shown : rowOf? rows fetched.id = some held)
      (refused : held.accepts fetched = false) : Settles rows fetched held

lemma settles_settleRow (rows : List Run) (fetched : Run) :
    Settles rows fetched (settleRow rows fetched) := by
  cases hshown : rowOf? rows fetched.id with
  | none =>
    have hrow : settleRow rows fetched = fetched := by
      rw [settleRow, hshown]
    rw [hrow]
    refine .taken fun held hheld => ?_
    rw [hshown] at hheld
    cases hheld
  | some held =>
    rw [settleRow_of_held hshown]
    by_cases haccepts : held.accepts fetched = true
    · rw [if_pos haccepts]
      refine .taken fun other hother => ?_
      obtain rfl := Option.some.inj (hshown.symm.trans hother)
      exact haccepts
    · rw [if_neg haccepts]
      exact .kept hshown (Bool.eq_false_iff.mpr haccepts)

/-- The detail stays as it is, or goes over to a row of its run. -/
lemma mergeRows_cases (detail : Detail) (rows : List Run) :
    mergeRows detail rows = detail ∨
      ∃ shown row, detail = some shown ∧ row ∈ rows ∧ row.id = shown.id ∧
        mergeRows detail rows = some row := by
  induction rows generalizing detail with
  | nil => exact Or.inl rfl
  | cons r rows ih =>
    rw [mergeRows, List.foldl_cons, ← mergeRows]
    by_cases htakes : detail.takes r = true
    · -- the detail is this row now, and the rows behind it are of the same run or pass it by
      have hmerge : detail.merge r = some r := if_pos htakes
      obtain ⟨shown, hshown, hid, -⟩ : ∃ shown, detail = some shown ∧ shown.id = r.id ∧
          shown.accepts r = true := by
        simpa [Detail.takes, Option.any_eq_true] using htakes
      rw [hmerge]
      refine Or.inr ?_
      rcases ih (some r) with hsame | ⟨_, row, ⟨⟩, hrow, hrowid, hlater⟩
      · exact ⟨shown, r, hshown, List.mem_cons_self, hid.symm, hsame⟩
      · exact ⟨shown, row, hshown, List.mem_cons_of_mem _ hrow, hrowid.trans hid.symm, hlater⟩
    · have hmerge : detail.merge r = detail := if_neg htakes
      rw [hmerge]
      refine (ih detail).imp_right ?_
      rintro ⟨shown, row, hshown, hrow, hrest⟩
      exact ⟨shown, row, hshown, List.mem_cons_of_mem _ hrow, hrest⟩

/-! ### Boards -/

/-- A page has taken the place of what a board has shown: its rows are those of the page, one for
each record and in the same order. -/
structure Replaced (b : Board) (page : Page) (b' : Board) : Prop where
  ids_eq : b'.rows.map Run.id = page.items.map Run.id
  rows : List.Forall₂ (Settles b.rows) page.items b'.rows
  total_eq : b'.total = page.total
  selected_eq : b'.selected = []
  lastError_eq : b'.lastError = none
  query_eq : b'.query = b.query
  detail : b'.detail = b.detail ∨ ∃ shown row,
    b.detail = some shown ∧ row ∈ b'.rows ∧ row.id = shown.id ∧ b'.detail = some row

/-- Nothing that a board shows and nothing that it is subscribed to has changed. -/
structure Kept (b b' : Board) : Prop where
  rows_eq : b'.rows = b.rows
  total_eq : b'.total = b.total
  selected_eq : b'.selected = b.selected
  query_eq : b'.query = b.query
  ids_eq : b'.live.ids = b.live.ids
  detail_eq : b'.detail = b.detail

lemma replaced_replacePage (b : Board) (page : Page) : b.Replaced page (b.replacePage page) where
  ids_eq := map_id_replacePage b page
  rows := by
    refine List.forall₂_map_right_iff.mpr (List.forall₂_same.mpr fun fetched _ => ?_)
    exact settles_settleRow b.rows fetched
  total_eq := rfl
  selected_eq := rfl
  lastError_eq := rfl
  query_eq := rfl
  detail := mergeRows_cases b.detail _

/-- Following the rows changes nothing but the subscriptions. -/
lemma Follows.eq_with_live (h : b.Follows log b') : b' = { b with live := b'.live } := by
  cases h <;> rfl

/-- Once following the rows has been given up, nothing is subscribed. -/
lemma Follows.ids_of_givenUp (h : b.Follows log b') {ids : List RunId} {late : List Patch}
    (givenUp : .asked (.subscribeAll ids) ⟨none, late⟩ ∈ log) : b'.live.ids = [] := by
  cases h with
  | settled batch =>
    rcases List.mem_append.mp givenUp with hstale | hbatch
    · exact absurd hstale (notMem_releasing _ _ _)
    · cases batch with
      | idle => exact absurd hbatch List.not_mem_nil
      | answered result arrived =>
        obtain ⟨hcall, hanswer⟩ := Task.Moment.asked.inj (List.mem_singleton.mp hbatch)
        obtain rfl := Call.subscribeAll.inj hcall
        cases hanswer
  | givenUp => rfl

lemma requested_reporting (e : RequestError) :
    requested (reporting e) = [] ∧ returned (reporting e) = [] := by
  unfold reporting
  split <;> exact ⟨rfl, rfl⟩

/-! ### The theorem -/

/-- **A page is replaced as a whole, or not at all.**  If loading tells that the page was replaced,
a page was fetched for the query of the board, and it has replaced everything: there is a row for
each of its records, in its order, which is the record, or the row that was shown of its run if that
one does not accept the record; the total is that of the page, nothing is selected, and no error is
left.  This also holds if following its rows was given up, and then nothing is subscribed.

If it tells that the page was not replaced, the page could not be fetched or the request was given
up, nothing has changed, and nothing was subscribed or given back. -/
theorem load_replaces_all_or_nothing {b b' : Board} {log : BoardLog} {shown : Bool}
    (course : b.load.Course log (b', shown)) :
    (shown = true → ∃ page arrived rest,
      log = .asked (.list b.query) ⟨.ok page, arrived⟩ :: rest ∧ b.Replaced page b' ∧
      ∀ ids late, .asked (.subscribeAll ids) ⟨none, late⟩ ∈ log → b'.live.ids = []) ∧
    (shown = false → ∃ e arrived,
      log = .asked (.list b.query) ⟨.error e, arrived⟩ :: reporting e ∧ b.Kept b' ∧
      requested log = [] ∧ returned log = []) := by
  cases course_load course with
  | @shown b' rest page arrived follows =>
    refine ⟨fun _ => ⟨page, arrived, rest, rfl, ?_, ?_⟩, fun h => absurd h (by decide)⟩
    · rw [follows.eq_with_live]
      obtain ⟨hids, hrows, htotal, hselected, herror, hquery, hdetail⟩ :=
        replaced_replacePage (b.receive arrived) page
      exact ⟨hids, hrows, htotal, hselected, herror, hquery, hdetail⟩
    · intro ids late hmem
      rcases List.mem_cons.mp hmem with heq | hrest
      · cases (Task.Moment.asked.inj heq).1
      · exact follows.ids_of_givenUp hrest
  | failed e arrived =>
    refine ⟨fun h => absurd h (by decide), fun _ => ⟨e, arrived, rfl, ?_, ?_⟩⟩
    · rw [failed_eq]
      exact ⟨rfl, rfl, rfl, rfl, rfl, rfl⟩
    · obtain ⟨hrequested, hreturned⟩ := requested_reporting e
      exact ⟨hrequested, hreturned⟩

/-- A page whose first run has been seen at work, and whose second one is selected. -/
def partlySelected : Board :=
  ((Board.new (.of none 1 10 false)).act (.command .refresh)
    (answerWith ⟨[.stamped "a" .processing 5, .bare "b" .succeeded], 2⟩ "none")).2.select ["b"]

/-- A backend that lists a page and leaves all else unanswered. -/
def listing (page : Page) : (c : Call) → Call.Answer c
  | .list _ => ⟨.ok page, []⟩
  | c => offline c

/-- Loading it: an older record of a run that is followed is listed, and a new run, and following
the rows is given up. -/
def givenUpLoad : BoardLog × Board × Bool :=
  partlySelected.load.play (listing ⟨[.stamped "c" .pending 1, .stamped "a" .pending 3], 7⟩)

/-- Loading it without an answer. -/
def unansweredLoad : BoardLog × Board × Bool :=
  partlySelected.load.play offline

/-- Of the page that was listed the new run is taken, and the older record is not; without an answer
everything stays. -/
theorem load_replaces_all_or_nothing_of_givenUp :
    (givenUpLoad.2.2 = true ∧ (∃ fetched, partlySelected.Replaced fetched givenUpLoad.2.1) ∧
      givenUpLoad.2.1.rows = [.stamped "c" .pending 1, .stamped "a" .processing 5] ∧
      .asked (.subscribeAll ["c"]) ⟨none, []⟩ ∈ givenUpLoad.1 ∧ givenUpLoad.2.1.live.ids = []) ∧
    unansweredLoad.2.2 = false ∧ partlySelected.Kept unansweredLoad.2.1 ∧
      partlySelected.selected = ["b"] ∧ partlySelected.live.ids = ["a"] := by
  have hgivenUp : partlySelected.load.Course givenUpLoad.1 givenUpLoad.2 := Task.course_play _ _
  have hunanswered : partlySelected.load.Course unansweredLoad.1 unansweredLoad.2 :=
    Task.course_play _ _
  have hbatch : .asked (.subscribeAll ["c"]) ⟨none, []⟩ ∈ givenUpLoad.1 :=
    List.mem_cons_of_mem _ List.mem_cons_self
  obtain ⟨fetched, -, -, -, hreplaced, hreleased⟩ := (load_replaces_all_or_nothing hgivenUp).1 rfl
  obtain ⟨-, -, -, hkept, -⟩ := (load_replaces_all_or_nothing hunanswered).2 rfl
  exact ⟨⟨rfl, ⟨fetched, hreplaced⟩, rfl, hbatch, hreleased _ _ hbatch⟩, rfl, hkept, rfl, rfl⟩

end RunBoard.Board
