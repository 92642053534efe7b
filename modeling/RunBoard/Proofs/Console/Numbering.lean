import Mathlib.Data.Set.Function
import Mathlib.Tactic.Common
import RunBoard.Console.Runs
import RunBoard.Console.Watch
import RunBoard.Proofs.Board.Rows
import RunBoard.Proofs.Course
import RunBoard.Proofs.Display.Rows
import RunBoard.Proofs.Run.Ranks

/-!
# The numbers that are written

A listing and the frames of a watched board show their rows in the same table, and each gives it the
number of the first row; the table counts on from there.  So the number in front of a row is the row
number at its index, whether a listing (`tabulates_pageLines`) or a frame (`tabulates_frameLines`)
has written it.

The main statement puts this beside what row numbers are: ranks over all pages, each of them at one
place, and words at every step of the reckoning.
-/

namespace RunBoard

open RunBoard.Text

/-- A table of runs with a number for each stands among the lines. -/
def Tabulates (lines : List String) (rows : List Run) (number : Nat → Nat) : Prop :=
  ∃ t : Table, t.Numbered rows number ∧ t.lines <:+: lines

lemma numbered_rowNumber (q : Query) (rows : List Run) (mark : Option (Run → Table.Mark)) :
    (Table.ofRuns rows (q.rowNumber 0) mark).Numbered rows q.rowNumber := by
  have h := Table.numbered_ofRuns rows (q.rowNumber 0) mark
  rwa [funext q.rowNumber_add] at h

lemma tabulates_pageLines {page : Page} (q : Query) (h : page.items ≠ []) :
    Tabulates (page.lines q) page.items q.rowNumber := by
  have hempty : page.items.isEmpty = false := by simpa using h
  refine ⟨_, numbered_rowNumber q page.items none, ?_⟩
  rw [Page.lines, hempty]
  exact ⟨["", pageTitle q.workflow, ""], _, rfl⟩

lemma tabulates_frameLines {f : Frame} (h : f.board.rows ≠ []) :
    Tabulates f.lines f.board.rows f.board.rowNumber := by
  have hempty : f.board.rows.isEmpty = false := by simpa using h
  refine ⟨_, numbered_rowNumber f.board.query f.board.rows (some f.board.mark), ?_⟩
  let above := ["", Frame.rule, pageTitle f.board.query.workflow, ""]
  let below := f.board.detail.elim [] Run.detailLines ++
    (f.occasion.lines ++ ["  type `help` for commands"])
  refine ⟨above, [f.board.footer] ++ below, ?_⟩
  rw [Frame.lines, Board.rowLines, hempty]
  simp only [above, below, List.append_assoc]
  rfl

/-! ### What is written -/

section

variable {log : List (Task.Moment Backend.Operation Backend.Operation.Result Console.Line)}
  {q : Query} {page : Page}

/-- A listing for the user that has got its page writes it. -/
lemma told_list {outcome : Except Console.Trouble Unit}
    (course : (Console.list q false).Course log outcome)
    (h : .asked (.list q) (.ok page) ∈ log) : Task.told log = (page.lines q).map .output := by
  obtain ⟨answer, asked, rest, rfl, hask, hrest⟩ := Task.course_bind_iff.mp course
  obtain rfl := Task.course_query_iff.mp hask
  cases answer with
  | error e =>
    obtain ⟨rfl, -⟩ := Task.course_done_iff.mp hrest
    cases List.mem_singleton.mp h
  | ok fetched =>
    obtain ⟨_, told, last, rfl, htold, hlast⟩ := Task.course_bind_iff.mp hrest
    obtain rfl := Task.course_emitAll_iff.mp htold
    obtain ⟨rfl, -⟩ := Task.course_done_iff.mp hlast
    have hpage : fetched = page := by
      rcases List.mem_cons.mp h with heq | hmem
      · obtain ⟨-, heq⟩ := Task.Moment.asked.inj heq
        exact (Except.ok.inj (eq_of_heq heq)).symm
      · simp at hmem
    rw [List.append_nil, Task.told_append, Task.told_map_told, hpage]
    rfl

end

section

variable {log : List (Task.Moment Call Call.Answer WatchEvent)} {w : Watch} {f : Frame}

lemma told_showFrame (hjson : w.json = false) (course : (w.showFrame f).Course log ()) :
    Task.told log = f.lines.map fun t => .line (.output t) := by
  rw [Watch.showFrame, hjson] at course
  rw [Task.course_emitAll_iff.mp course, Task.told_map_told]
  rfl

end

/-- **Rows are numbered by their ranks.**  Take a query for any page and size.  At each index of its
page the row number is a word that every way of reckoning it comes to, none of which leaves the
words on the way.  The numbers of all places on pages of its size are the ranks, no two places have
the same number, and a rank is found on the page and at the index that its division by the size
gives.  The last number of the page is followed by the first one of the next page.  A listing that
has got the page writes a table with these numbers, and so does every frame of a watched board with
this query. -/
theorem rows_numbered_by_rank {workflow : Option String} {page perPage : UInt32} {expand : Bool}
    {q : Query} (hq : q = Query.of workflow page.toNat perPage.toNat expand) :
    (∀ index : UInt64, index.toNat < q.perPage → ∃ n : UInt64, n.toNat = q.rowNumber index.toNat ∧
      Query.reckon? (max page 1) (max perPage 1) index = some n ∧
      Query.reckonFromFirst? (max page 1) (max perPage 1) index = some n ∧
      Query.reckonListed? (max page 1) (max perPage 1) index = some n) ∧
    Set.BijOn q.numberAt (Query.places q.perPage) (Query.ranks q.perPage) ∧
    (∀ n ∈ Query.ranks q.perPage, ∀ a ∈ Query.places q.perPage,
      q.numberAt a = n ↔ a = ((n - 1) / q.perPage + 1, (n - 1) % q.perPage)) ∧
    (q.withPage (q.page + 1) q.perPage).rowNumber 0 = q.rowNumber (q.perPage - 1) + 1 ∧
    (∀ log outcome fetched, (Console.list q false).Course log outcome →
      .asked (.list q) (.ok fetched) ∈ log → fetched.items ≠ [] →
      ∃ lines, Task.told log = lines.map .output ∧ Tabulates lines fetched.items q.rowNumber) ∧
    (∀ (w : Watch) (f : Frame) log, w.json = false → f.board.query = q → f.board.rows ≠ [] →
      (w.showFrame f).Course log () →
      ∃ lines, Task.told log = lines.map (fun t => .line (.output t)) ∧
        Tabulates lines f.board.rows q.rowNumber) := by
  have hpage : (max page 1).toNat = q.page := hq ▸ UInt32.toNat_max page 1
  have hsize : (max perPage 1).toNat = q.perPage := hq ▸ UInt32.toNat_max perPage 1
  refine ⟨fun index hindex => ?_, q.bijOn_numberAt, fun n hn a ha => Query.numberAt_eq_iff ha hn.1,
    q.rowNumber_succ_page, fun log outcome fetched course hasked hitems => ?_,
    fun w f log hjson hquery hrows course => ?_⟩
  · obtain ⟨n, hreckon, hn⟩ := Query.reckon?_eq hpage hsize hindex
    obtain ⟨m, hshown, hm⟩ := Query.reckonFromFirst?_eq hpage hsize hindex
    obtain ⟨k, hlisted, hk⟩ := Query.reckonListed?_eq hpage hsize hindex
    obtain rfl : m = n := UInt64.toNat_inj.mp (hm.trans hn.symm)
    obtain rfl : k = m := UInt64.toNat_inj.mp (hk.trans hn.symm)
    exact ⟨k, hn, hreckon, hshown, hlisted⟩
  · exact ⟨_, told_list course hasked, tabulates_pageLines q hitems⟩
  · exact ⟨_, told_showFrame hjson course, hquery ▸ tabulates_frameLines hrows⟩

/-- The last page that a word can tell, of the greatest size. -/
def lastPage : Query :=
  .of none (4294967295 : UInt32).toNat (4294967295 : UInt32).toNat true

/-- A run that has ended and one that has not. -/
def twoRuns : List Run :=
  [.bare "a" .succeeded, .bare "b" .processing]

/-- What happens when the last page is listed and the backend has two runs on it. -/
def listingOfTwo : List (Task.Moment Backend.Operation Backend.Operation.Result Console.Line) ×
    Except Console.Trouble Unit :=
  (Console.list lastPage false).play fun
    | .list _ => (.ok ⟨twoRuns, 2⟩ : Except RequestError Page)
    | op => op.failed .aborted

/-- A frame that shows them. -/
def frameOfTwo : Frame :=
  ⟨.loaded, { Board.new lastPage with rows := twoRuns }⟩

theorem rows_numbered_by_rank_of_lastPage :
    (4294967294 : UInt64).toNat < lastPage.perPage ∧
    Query.reckon? 4294967295 4294967295 4294967294 = some 18446744065119617025 ∧
    18446744065119617025 ∈ Query.ranks lastPage.perPage ∧
    (4294967295, 4294967294) ∈ Query.places lastPage.perPage ∧
    lastPage.numberAt (4294967295, 4294967294) = 18446744065119617025 ∧
    (∃ lines, Task.told listingOfTwo.1 = lines.map .output ∧
      ∃ t : Table, t.lines <:+: lines ∧ t.cell? 1 "Run ID" = some "b" ∧
        t.cell? 1 "#" = some "18446744060824649732") ∧
    ∃ t : Table, t.lines <:+: frameOfTwo.lines ∧ t.cell? 1 "Run ID" = some "b" ∧
      t.cell? 1 "#" = some "18446744060824649732" := by
  have hquery : lastPage = .of none (4294967295 : UInt32).toNat (4294967295 : UInt32).toNat true :=
    rfl
  obtain ⟨hwords, -, hranks, -, hlist, hframe⟩ := rows_numbered_by_rank hquery
  have hindex : (4294967294 : UInt64).toNat < lastPage.perPage := by decide
  have hrank : 18446744065119617025 ∈ Query.ranks lastPage.perPage := ⟨by decide, by decide⟩
  have hplace : (4294967295, 4294967294) ∈ Query.places lastPage.perPage :=
    ⟨by decide, by decide, by decide⟩
  have hsecond : decimal (lastPage.rowNumber 1) = "18446744060824649732" := by decide
  obtain ⟨n, hn, hreckon, -, -⟩ := hwords 4294967294 hindex
  obtain rfl : n = 18446744065119617025 := UInt64.toNat_inj.mp hn
  have hnumber := (hranks _ hrank _ hplace).mpr (by decide)
  refine ⟨hindex, hreckon, hrank, hplace, hnumber, ?_, ?_⟩
  · obtain ⟨lines, htold, t, numbered, hlines⟩ := hlist listingOfTwo.1 listingOfTwo.2 ⟨twoRuns, 2⟩
      (Task.course_play _ _) List.mem_cons_self (by decide)
    exact ⟨lines, htold, t, hlines, numbered.id_cell 1 (by decide),
      hsecond ▸ numbered.number_cell 1 (by decide)⟩
  · obtain ⟨lines, htold, t, numbered, hlines⟩ := hframe (.new lastPage false) frameOfTwo _ rfl rfl
      (by simp [frameOfTwo, twoRuns]) (Task.course_emitAll_iff.mpr rfl)
    have hinj : Function.Injective fun t => WatchEvent.line (.output t) := by
      rintro s t ⟨⟩
      rfl
    rw [Task.told_map_told] at htold
    obtain rfl : frameOfTwo.lines = lines := (List.map_inj_right hinj).mp htold
    exact ⟨t, hlines, numbered.id_cell 1 (by decide),
      hsecond ▸ numbered.number_cell 1 (by decide)⟩

end RunBoard
