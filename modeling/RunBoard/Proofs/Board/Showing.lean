import RunBoard.Proofs.Board.Following
import RunBoard.Proofs.Board.Commands

/-!
# What an operation does to the rows and to the detail

The rows and the run that is shown in full change together: a patch goes to both, and the rows of a
page that was fetched are offered to the detail.  `Reshows` says what an operation does to the two
of them, unless it opens or closes the detail; only the operation that takes in all patches that
wait does so several times.  An operation that opens or closes the detail asks and tells nothing and
changes nothing else (`course_of_meansDetail`).
-/

namespace RunBoard.Board

open Subscriptions

variable {b b' c : Board} {rows rest : List Run} {log all : BoardLog}

/-! ### Opening and closing the detail -/

/-- Whether an operation opens or closes the detail. -/
def Operation.meansDetail : Operation → Bool
  | .command (.openDetail _) | .command .closeDetail => true
  | _ => false

lemma openDetail_of_row {id : RunId} {row : Run} (h : b.row? id = some row) :
    b.openDetail id = ({ b with detail := some row }, true) := by
  simp [openDetail, h]

lemma openDetail_of_none {id : RunId} (h : b.row? id = none) : b.openDetail id = (b, false) := by
  simp [openDetail, h]

lemma course_openDetail_iff {id : RunId} :
    (b.perform (.command (.openDetail id))).Course log b' ↔
      log = [] ∧ b' = (b.openDetail id).1 := by
  cases hrow : b.row? id with
  | none => simp [perform, handle, openDetail_of_none hrow]
  | some row => simp [perform, handle, openDetail_of_row hrow]

lemma course_closeDetail_iff :
    (b.perform (.command .closeDetail)).Course log b' ↔ log = [] ∧ b' = b.closeDetail.1 :=
  Task.course_done_iff

/-- An operation that opens or closes the detail asks and tells nothing and changes nothing else. -/
lemma course_of_meansDetail {op : Operation} (hop : op.meansDetail = true)
    (h : (b.perform op).Course log b') : log = [] ∧ b' = { b with detail := b'.detail } := by
  unfold Operation.meansDetail at hop
  split at hop
  · obtain ⟨rfl, rfl⟩ := course_openDetail_iff.mp h
    exact ⟨rfl, openDetail_eq b _⟩
  · obtain ⟨rfl, rfl⟩ := course_closeDetail_iff.mp h
    exact ⟨rfl, rfl⟩
  · cases hop

/-! ### Commands that ask for nothing -/

/-- Whatever comes of a task, something is asked in it. -/
def Asks {α : Type} (t : BoardTask α) : Prop :=
  ∀ log a, t.Course log a → ∃ c answer, .asked c answer ∈ log

namespace Asks

variable {α β : Type} {t : BoardTask α} {f : α → BoardTask β}

lemma first (ht : Asks t) : Asks (t >>= f) := by
  intro log a h
  obtain ⟨_, _, _, rfl, hfirst, -⟩ := Task.course_bind_iff.mp h
  obtain ⟨c, answer, hmem⟩ := ht _ _ hfirst
  exact ⟨c, answer, List.mem_append_left _ hmem⟩

lemma second (hf : ∀ a, Asks (f a)) : Asks (t >>= f) := by
  intro log a h
  obtain ⟨_, _, _, rfl, -, hrest⟩ := Task.course_bind_iff.mp h
  obtain ⟨c, answer, hmem⟩ := hf _ _ _ hrest
  exact ⟨c, answer, List.mem_append_right _ hmem⟩

lemma of_call (c : Call) : Asks (call c) := by
  intro log answer h
  rw [course_call_iff] at h
  exact ⟨c, answer, by simp [h]⟩

lemma of_load (b : Board) : Asks b.load :=
  (of_call _).first

lemma of_turnTo (b : Board) (query : Query) : Asks (b.turnTo query) :=
  second fun _ => of_load _

lemma of_request (b : Board) (action : Call) (result : action.Result → Except RequestError Bool) :
    Asks (b.request action result) :=
  (of_call action).first

end Asks

/-- A command that neither opens nor closes the detail ends at once without touching it, or it asks
for something. -/
lemma done_or_asks_of_command (b : Board) (command : Command)
    (hcommand : (Operation.command command).meansDetail = false) :
    (∃ outcome c, b.handle command = Task.done (c, outcome) ∧ c.detail = b.detail) ∨
      Asks (b.handle command) := by
  cases command with
  | refresh => exact .inr (Asks.of_load b).first
  | setPage page perPage => exact .inr (Asks.of_turnTo b _).first
  | setWorkflow workflow => exact .inr (Asks.of_turnTo b _).first
  | select ids => exact .inl ⟨_, _, rfl, rfl⟩
  | toggle id => exact .inl ⟨_, _, rfl, by rw [toggle_eq]⟩
  | clearSelection => exact .inl ⟨_, _, rfl, rfl⟩
  | cancel id =>
    simp only [handle, cancelRun]
    split
    · exact .inl ⟨_, _, rfl, rfl⟩
    · split
      · exact .inl ⟨_, _, rfl, rfl⟩
      · exact .inr (Asks.of_request b _ _).first.first
  | delete id =>
    simp only [handle, deleteRun]
    split
    · exact .inl ⟨_, _, rfl, rfl⟩
    · split
      · exact .inl ⟨_, _, rfl, rfl⟩
      · exact .inr (Asks.of_request b _ _).first.first
  | deleteSelected =>
    simp only [handle, deleteSelected]
    split
    · exact .inl ⟨_, _, rfl, rfl⟩
    · exact .inr (Asks.of_request b _ _).first.first
  | openDetail | closeDetail => cases hcommand

lemma detail_of_unasked {command : Command} {outcome : Except ActionError Unit}
    (hcommand : (Operation.command command).meansDetail = false)
    (h : (b.handle command).Course log (b', outcome))
    (unasked : ∀ c answer, .asked c answer ∉ log) : b'.detail = b.detail := by
  rcases done_or_asks_of_command b command hcommand with ⟨_, c, hdone, hdetail⟩ | hasks
  · rw [hdone, Task.course_done_iff] at h
    obtain ⟨-, heq⟩ := h
    obtain ⟨rfl, -⟩ := Prod.mk.inj heq
    exact hdetail
  · obtain ⟨c, answer, hmem⟩ := hasks _ _ h
    exact absurd hmem (unasked c answer)

/-! ### Everything else -/

/-- The rows that an operation leaves before it loads a page: all of them, or those of the runs
that the backend has not just deleted. -/
inductive Thinned (log : BoardLog) (rows : List Run) : List Run → Prop
  | none : Thinned log rows rows
  | dropped {ids : List RunId} {arrived : List Patch}
      (removed : .asked (.remove ids) ⟨.ok true, arrived⟩ ∈ log) :
      Thinned log rows (rows.filter fun r => r.id ∉ ids)

/-- The row of a run that has not been deleted is still there. -/
lemma Thinned.rowOf?_eq {id : RunId} (h : Thinned log rows rest)
    (spared : ∀ ids arrived, .asked (.remove ids) ⟨.ok true, arrived⟩ ∈ log → id ∉ ids) :
    rowOf? rest id = rowOf? rows id := by
  cases h with
  | none => rfl
  | dropped removed => exact rowOf?_filter_of_notMem (spared _ _ removed)

/-- What an operation does to the rows and to the detail, if it neither opens nor closes the detail:
a patch is taken in, or rows are dropped, and a page may be fetched, whose rows are offered to the
detail. -/
inductive Reshows (log : BoardLog) (b b' : Board) : Prop
  | patched (patch : Patch) (rows : b'.rows = (b.patched patch).rows)
      (detail : b'.detail = (b.patched patch).detail)
  | thinned (thinned : Thinned log b.rows b'.rows) (detail : b'.detail = b.detail)
  | loaded {rest : List Run} {query : Query} {page : Page} {arrived : List Patch}
      (thinned : Thinned log b.rows rest)
      (fetched : .asked (.list query) ⟨.ok page, arrived⟩ ∈ log)
      (rows : b'.rows = page.items.map (settleRow rest))
      (detail : b'.detail = mergeRows b.detail b'.rows)

lemma Reshows.kept (rows : b'.rows = b.rows) (detail : b'.detail = b.detail) : Reshows log b b' :=
  .thinned (rows ▸ .none) detail

lemma Follows.detail_eq (h : b.Follows log b') : b'.detail = b.detail := by
  cases h <;> rfl

@[simp] lemma failed_detail (b : Board) (e : RequestError) : (b.failed e).detail = b.detail := by
  rw [failed_eq]

lemma reshows_of_loads {shown : Bool} (h : c.Loads log b' shown) (hlog : ∀ m ∈ log, m ∈ all)
    (thinned : Thinned all b.rows c.rows) (detail : c.detail = b.detail) : Reshows all b b' := by
  cases h with
  | shown page arrived follows =>
    refine .loaded thinned (hlog _ List.mem_cons_self) follows.rows_eq ?_
    rw [follows.detail_eq, follows.rows_eq, ← detail]
    rfl
  | failed e arrived =>
    refine .thinned ?_ ?_
    · rw [failed_rows]
      exact thinned
    · rw [failed_detail]
      exact detail

lemma Requests.detail_eq {action : Call} {result : action.Result → Except RequestError Bool}
    {outcome : Except ActionError Bool} (h : b.Requests action result log b' outcome) :
    b'.detail = b.detail := by
  cases h <;> rfl

/-- What a command does, given that it leaves the detail as it is when it asks for nothing. -/
lemma reshows_of_handles (h : c.Handles log b') (hlog : ∀ m ∈ log, m ∈ all)
    (rows : c.rows = b.rows) (detail : c.detail = b.detail)
    (quiet : log = [] → b'.detail = b.detail) : Reshows all b b' := by
  have thinned : Thinned all b.rows c.rows := rows ▸ .none
  cases h with
  | quiet _ hrows _ => exact .kept (hrows.trans rows) (quiet rfl)
  | loaded loads => exact reshows_of_loads loads hlog thinned detail
  | turned loads => exact reshows_of_loads loads hlog thinned detail
  | notCanceled requests | notRemoved requests =>
    exact .kept (requests.rows_eq.trans rows) (requests.detail_eq.trans detail)
  | canceled loads =>
    exact reshows_of_loads loads (fun m hm => hlog m (List.mem_cons_of_mem _ hm)) thinned detail
  | removed _ loads =>
    refine reshows_of_loads loads (fun m hm => hlog m (List.mem_cons_of_mem _ hm)) ?_ detail
    rw [← rows]
    exact .dropped (hlog _ List.mem_cons_self)

/-- What an operation does to the rows and to the detail, unless it takes in all patches that wait,
or opens or closes the detail. -/
lemma reshows_of_course_perform {op : Operation} (hop : op ≠ .drain)
    (hdetail : op.meansDetail = false) (h : (b.perform op).Course log b') : Reshows log b b' := by
  cases op with
  | command command =>
    obtain ⟨outcome, hhandle⟩ := course_perform_command_iff.mp h
    obtain ⟨rest, rfl, hhandles⟩ := course_handle hhandle
    have hlog : ∀ m ∈ rest, m ∈ (Operation.command command).opening b ++ rest :=
      fun m hm => List.mem_append_right _ hm
    refine reshows_of_handles hhandles hlog (Operation.base_rows _ _) (Operation.base_detail _ _)
      fun hrest => ?_
    -- at most the release of the subscriptions is told, and nothing is asked
    refine detail_of_unasked hdetail hhandle fun c answer hmem => ?_
    rw [hrest, List.append_nil, Operation.opening] at hmem
    split at hmem
    · simp [releasing] at hmem
    · cases hmem
  | receive patches =>
    obtain ⟨-, rfl⟩ := Task.course_done_iff.mp h
    exact .kept rfl rfl
  | apply patch =>
    obtain ⟨-, rfl⟩ := course_perform_apply_iff.mp h
    exact .patched patch rfl rfl
  | take =>
    obtain ⟨-, _, rfl⟩ := course_perform_take h
    exact .kept rfl rfl
  | drain => exact absurd rfl hop
  | teardown =>
    obtain ⟨-, rfl⟩ := course_perform_teardown_iff.mp h
    exact .kept rfl rfl

end RunBoard.Board
