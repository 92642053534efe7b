import RunBoard.Proofs.Board.Commands

/-!
# Actions are guarded, and leave no trace if they are not taken

What an operation asks the backend to cancel or to delete is settled by the rows and the selection
before anything is asked: it is `Operation.request?`, once, or nothing at all (`actions_eq`).  On a
page that lists each run once, a request to cancel is for a row in flight, and a request to delete
names rows that have ended and nothing else.

Rows are dropped and pages are loaded only once an action has been granted.  `Untouched` says what
is left of an action that was rejected, that failed or that was refused: at most the request itself,
and what the user was told.
-/

namespace RunBoard.Board

variable {b b' : Board} {log rest : BoardLog} {op : Operation} {action : Call}

/-! ### The removals and cancellations that are asked for -/

/-- The removal or cancellation that is asked for at a moment. -/
def actionAt : Task.Moment Call Call.Answer Event → Option Call
  | .asked (.remove ids) _ => some (.remove ids)
  | .asked (.cancel workflow id) _ => some (.cancel workflow id)
  | .asked (.list _) _ | .asked (.subscribe _) _ | .asked (.subscribeAll _) _ | .told _ => none

/-- The removals and cancellations that are asked for, in their order. -/
def actions (log : BoardLog) : List Call :=
  log.filterMap actionAt

@[simp] lemma actions_append (log rest : BoardLog) :
    actions (log ++ rest) = actions log ++ actions rest :=
  List.filterMap_append ..

@[simp] lemma actions_releasing (ids : List RunId) : actions (releasing ids) = [] := by
  simp [actions, releasing, actionAt]

@[simp] lemma actions_reporting (e : RequestError) : actions (reporting e) = [] := by
  cases e <;> rfl

lemma actions_cons_of_none {m : Task.Moment Call Call.Answer Event} (h : actionAt m = none) :
    actions (m :: log) = actions log :=
  List.filterMap_cons_none h

lemma actions_cons_of_verdict {answer : Call.Answer action} {said : Except RequestError Bool}
    (verdict : verdict? action answer = some said) :
    actions (.asked action answer :: log) = action :: actions log := by
  have haction : actionAt (.asked action answer) = some action := by
    cases action with
    | remove | cancel => rfl
    | list | subscribe | subscribeAll => cases verdict
  exact List.filterMap_cons_some haction

lemma Follows.actions_eq (h : b.Follows log b') : actions log = [] := by
  cases h with
  | settled batch =>
    rw [actions_append, actions_releasing, List.nil_append]
    cases batch with
    | idle | answered => rfl
  | givenUp =>
    rw [actions_append, actions_releasing, List.nil_append, actions_cons_of_none rfl,
      actions_append, actions_releasing, actions_releasing, List.nil_append]

lemma Loads.actions_eq {shown : Bool} (h : b.Loads log b' shown) : actions log = [] := by
  cases h with
  | shown page arrived follows => rw [actions_cons_of_none rfl, follows.actions_eq]
  | failed e arrived => rw [actions_cons_of_none rfl, actions_reporting]

lemma Undertakes.actions_eq {α : Type} {no yes : α} {outcome : Except ActionError α}
    {request? : Option Call} (h : b.Undertakes request? no yes log b' outcome) :
    actions log = request?.toList := by
  cases h with
  | rejected unasked => rw [unasked]; rfl
  | failed asks verdict => rw [asks, actions_cons_of_verdict verdict, actions_reporting]; rfl
  | refused asks verdict => rw [asks, actions_cons_of_verdict verdict]; rfl
  | granted asks verdict loads => rw [asks, actions_cons_of_verdict verdict, loads.actions_eq]; rfl

/-- An operation asks for one removal or cancellation at most, and it is known which one. -/
lemma actions_eq (h : (b.perform op).Course log b') : actions log = (op.request? b).toList := by
  cases op with
  | command command =>
    obtain ⟨outcome, hhandle⟩ := course_perform_command_iff.mp h
    cases course_obeys hhandle with
    | quiet unasked => rw [unasked]; rfl
    | loaded refresh loads =>
      subst refresh
      exact loads.actions_eq
    | turned unasked turns loads =>
      rw [unasked, actions_append, actions_releasing, loads.actions_eq]
      rfl
    | undertook stays undertakes => exact undertakes.actions_eq
  | receive patches =>
    obtain ⟨rfl, -⟩ := Task.course_done_iff.mp h
    rfl
  | apply patch =>
    obtain ⟨rfl, -⟩ := course_perform_apply_iff.mp h
    split
    · exact actions_releasing _
    · rfl
  | take =>
    obtain ⟨rfl, -⟩ := course_perform_take h
    rfl
  | drain =>
    obtain ⟨⟨ids, rfl⟩, -⟩ := course_perform_drain h
    exact actions_releasing ids
  | teardown =>
    obtain ⟨rfl, -⟩ := course_perform_teardown_iff.mp h
    exact actions_releasing _

/-- What is asked for is what the operation is to ask for. -/
lemma request?_of_asked {answer : Call.Answer action} {said : Except RequestError Bool}
    (h : (b.perform op).Course log b') (asked : .asked action answer ∈ log)
    (verdict : verdict? action answer = some said) : op.request? b = some action := by
  have hmem : action ∈ actions log := by
    obtain ⟨earlier, later, rfl⟩ := List.append_of_mem asked
    rw [actions_append, actions_cons_of_verdict verdict]
    exact List.mem_append_right _ List.mem_cons_self
  rw [actions_eq h] at hmem
  exact Option.mem_toList.mp hmem

lemma inFlight_of_cancellation {workflow : String} {id : RunId}
    (h : op.request? b = some (.cancel workflow id)) :
    ∃ row ∈ b.rows, row.id = id ∧ row.isInFlight = true ∧ row.workflow = workflow := by
  unfold Operation.request? at h
  split at h
  · obtain ⟨row, hrow, hflight, heq⟩ := cancellation?_eq_some_iff.mp h
    obtain ⟨rfl, rfl⟩ := Call.cancel.inj heq
    obtain ⟨hmem, hid⟩ := Subscriptions.rowOf?_eq_some hrow
    exact ⟨row, hmem, hid, hflight, rfl⟩
  · obtain ⟨row, -, -, heq⟩ := deletion?_eq_some_iff.mp h
    cases heq
  · obtain ⟨-, heq⟩ := batchDeletion?_eq_some_iff.mp h
    cases heq
  · cases h

/-! ### Actions that are not taken -/

/-- An action has left no trace: everything that the user sees and everything that is subscribed is
as it was, no page was asked for, and no subscription was asked for or given back. -/
structure Untouched (b : Board) (log : BoardLog) (b' : Board) : Prop where
  rows_eq : b'.rows = b.rows
  total_eq : b'.total = b.total
  selected_eq : b'.selected = b.selected
  query_eq : b'.query = b.query
  ids_eq : b'.live.ids = b.live.ids
  detail_eq : b'.detail = b.detail
  lastError_eq : b'.lastError = b.lastError
  unlisted : ∀ query answer, .asked (.list query) answer ∉ log
  unsubscribed : ∀ id answer, .asked (.subscribe id) answer ∉ log
  unbatched : ∀ ids answer, .asked (.subscribeAll ids) answer ∉ log
  unreleased : ∀ id, .told (.unsubscribe id) ∉ log

lemma untouched_of_verdict {answer : Call.Answer action} {said : Except RequestError Bool}
    (verdict : verdict? action answer = some said)
    (told : ∀ m ∈ rest, ∃ text, m = .told (.notify text)) :
    Untouched b (.asked action answer :: rest) (b.receive answer.arrived) := by
  have other : ∀ (c : Call) (given : Call.Answer c), verdict? c given = none →
      .asked c given ∉ (.asked action answer :: rest : BoardLog) := by
    intro c given hnone hmem
    rcases List.mem_cons.mp hmem with heq | hrest
    · obtain ⟨rfl, heq⟩ := Task.Moment.asked.inj heq
      obtain rfl := eq_of_heq heq
      rw [hnone] at verdict
      cases verdict
    · obtain ⟨text, heq⟩ := told _ hrest
      cases heq
  refine ⟨rfl, rfl, rfl, rfl, rfl, rfl, rfl, fun _ _ => other _ _ rfl, fun _ _ => other _ _ rfl,
    fun _ _ => other _ _ rfl, fun id hmem => ?_⟩
  rcases List.mem_cons.mp hmem with heq | hrest
  · cases heq
  · obtain ⟨text, heq⟩ := told _ hrest
    cases heq

lemma told_of_mem_reporting {e : RequestError} :
    ∀ m ∈ reporting e, ∃ text, m = .told (.notify text) := by
  intro m hm
  unfold reporting at hm
  split at hm
  · cases hm
  · exact ⟨e.message, List.mem_singleton.mp hm⟩

/-- An action that was not granted has left no trace. -/
lemma Undertakes.untouched {α : Type} {no yes : α} {outcome : Except ActionError α}
    {request? : Option Call} (h : b.Undertakes request? no yes log b' outcome)
    (denied : ∀ action, request? = some action → outcome ≠ .ok yes) : Untouched b log b' := by
  cases h with
  | rejected =>
    have hnone : ∀ m, m ∉ ([] : BoardLog) := fun _ => List.not_mem_nil
    exact ⟨rfl, rfl, rfl, rfl, rfl, rfl, rfl, fun _ _ => hnone _, fun _ _ => hnone _,
      fun _ _ => hnone _, fun _ => hnone _⟩
  | failed asks verdict => exact untouched_of_verdict verdict told_of_mem_reporting
  | refused asks verdict =>
    exact untouched_of_verdict verdict fun m hm => absurd hm List.not_mem_nil
  | granted asks => exact absurd rfl (denied _ asks)

/-! ### The theorem -/

/-- **Actions are guarded, and leave no trace if they are not taken.**  Take a board that lists each
run once, and any answers of the backend.  An operation asks for the removal or cancellation that is
due on the board, once, or for none if none is due; a cancellation is that of a row in flight, with
its workflow, and every run whose removal is asked for has a row, which is not in flight.  Deleting
the selected runs asks for all of them that have ended, in the order of the page and in one request,
and for nothing if there are none.  An action that is rejected, that fails or that is refused leaves
no trace. -/
theorem actions_guarded_and_traceless {b : Board} (distinct : Distinct b.rows) :
    (∀ (op : Operation) (log : BoardLog) (b' : Board), (b.perform op).Course log b' →
      actions log = (op.request? b).toList ∧
      (∀ workflow id answer, .asked (.cancel workflow id) answer ∈ log →
        ∃ row ∈ b.rows, row.id = id ∧ row.isInFlight = true ∧ row.workflow = workflow) ∧
      ∀ ids answer, .asked (.remove ids) answer ∈ log → ∀ id ∈ ids,
        (∃ row ∈ b.rows, row.id = id) ∧
          ∀ row ∈ b.rows, row.id = id → row.isInFlight = false) ∧
    (∀ (log : BoardLog) (b' : Board) (outcome : Except ActionError Nat),
      b.deleteSelected.Course log (b', outcome) →
      let ids := (b.rows.filter fun r => r.id ∈ b.selected ∧ r.isTerminal).map Run.id
      actions log = (if ids = [] then [] else [.remove ids]) ∧ (ids = [] → log = [])) ∧
    (∀ (id : RunId) (log : BoardLog) (b' : Board) (outcome : Except ActionError Bool),
      (b.cancelRun id).Course log (b', outcome) → outcome ≠ .ok true → Untouched b log b') ∧
    (∀ (id : RunId) (log : BoardLog) (b' : Board) (outcome : Except ActionError Bool),
      (b.deleteRun id).Course log (b', outcome) → outcome ≠ .ok true → Untouched b log b') ∧
    (∀ (log : BoardLog) (b' : Board) (outcome : Except ActionError Nat),
      b.deleteSelected.Course log (b', outcome) → (∀ n, 0 < n → outcome ≠ .ok n) →
      Untouched b log b') := by
  refine ⟨fun op log b' course => ⟨actions_eq course, ?_, ?_⟩, ?_, ?_, ?_, ?_⟩
  · intro workflow id answer hasked
    exact inFlight_of_cancellation (request?_of_asked course hasked rfl)
  · intro ids answer hasked id hid
    obtain ⟨row, hrow, hrowid, hended⟩ :=
      ended_of_removal (request?_of_asked course hasked rfl) id hid
    refine ⟨⟨row, hrow, hrowid⟩, fun row' hrow' hrowid' => ?_⟩
    obtain rfl := distinct.eq_of_id_eq hrow hrow' (hrowid.trans hrowid'.symm)
    simpa using hended
  · intro log b' outcome course ids
    have hids : ids = b.deletable := b.deletable_eq.symm
    have hactions : actions log = b.batchDeletion?.toList :=
      (course_deleteSelected course).actions_eq
    rw [hids, hactions, batchDeletion?]
    constructor
    · split <;> rfl
    · intro hnone
      cases course_deleteSelected course with
      | rejected => rfl
      | failed asks | refused asks | granted asks =>
        exact absurd hnone (batchDeletion?_eq_some_iff.mp asks).1
  · intro id log b' outcome course hdenied
    exact (course_cancelRun course).untouched fun _ _ => hdenied
  · intro id log b' outcome course hdenied
    exact (course_deleteRun course).untouched fun _ _ => hdenied
  · intro log b' outcome course hdenied
    refine (course_deleteSelected course).untouched fun action asks => ?_
    have hsome : b.deletable ≠ [] := (batchDeletion?_eq_some_iff.mp asks).1
    exact hdenied _ (List.length_pos_iff.mpr hsome)

/-- A page of which a run in flight and two that have ended are selected. -/
def partlyEnded : Board :=
  ((Board.new (.of none 1 10 false)).act (.command .refresh)
    (answerWith ⟨[.bare "a" .pending, .bare "b" .succeeded, .bare "c" .failed], 3⟩ "none")).2.select
      ["c", "a", "b"]

/-- A backend that refuses every action. -/
def refusing : (c : Call) → Call.Answer c
  | .remove _ | .cancel _ _ => ⟨.ok false, []⟩
  | c => offline c

/-- The batch leaves out the run in flight, and nothing comes of it; nor does anything come of
deleting the run in flight, which is rejected, or of canceling it, which fails. -/
theorem actions_guarded_and_traceless_of_refusing :
    let batch := partlyEnded.deleteSelected.play refusing
    let single := (partlyEnded.deleteRun "a").play refusing
    let canceled := (partlyEnded.cancelRun "a").play offline
    actions batch.1 = [.remove ["b", "c"]] ∧ batch.2.2 = .ok 0 ∧
      Untouched partlyEnded batch.1 batch.2.1 ∧
      single.2.2 = .error (.notDeletable "a" .pending) ∧
      Untouched partlyEnded single.1 single.2.1 ∧
      canceled.2.2 = .error (.request (.transport "down")) ∧
      Untouched partlyEnded canceled.1 canceled.2.1 := by
  intro batch single canceled
  have distinct : Distinct partlyEnded.rows := by
    unfold Distinct
    decide
  obtain ⟨-, hbatch, hcancel, hdelete, hselected⟩ := actions_guarded_and_traceless distinct
  have hrefused : ∀ n, 0 < n → batch.2.2 ≠ .ok n := by
    intro n hn heq
    have hzero : batch.2.2 = .ok 0 := rfl
    rw [hzero] at heq
    exact absurd (Except.ok.inj heq) (Nat.ne_of_lt hn)
  exact ⟨(hbatch _ _ _ (Task.course_play _ _)).1, rfl,
    hselected _ _ _ (Task.course_play _ _) hrefused, rfl,
    hdelete "a" _ _ _ (Task.course_play _ _) (by intro h; cases h), rfl,
    hcancel "a" _ _ _ (Task.course_play _ _) (by intro h; cases h)⟩

end RunBoard.Board
