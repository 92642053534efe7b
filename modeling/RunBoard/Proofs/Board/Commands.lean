import RunBoard.Proofs.Board.Steps

/-!
# What carrying out an operation comes to

A command leaves the rows and the subscriptions alone, loads a page, perhaps of another query, or
undertakes an action.  `Undertakes` says what an action comes to, given the request that is due for
it on the board: there may be none, it may fail or be refused, and only after it was granted are
rows dropped and a page loaded.  `Obeys` tells the cases of a command apart, and `Handles` those of
what is left of it once all subscriptions have been released if it begins with that; `course_obeys`
and `course_handle` say that there are no others.

So every course of every operation consists of steps (`steps_of_course_perform`), and what each step
keeps is kept by whole histories (`History.keep`).  An operation that turns to another page, or that
leaves, releases all subscriptions before anything else; this is kept apart from the steps.
-/

namespace RunBoard.Board

variable {b b' c : Board} {log : BoardLog}

/-! ### Requests -/

/-- What a request comes to: the patches that arrived wait, and the user is told if it failed. -/
inductive Requests (b : Board) (action : Call) (result : action.Result → Except RequestError Bool) :
    BoardLog → Board → Except ActionError Bool → Prop
  | answered {answer : Call.Answer action} {accepted : Bool}
      (ok : result answer.result = .ok accepted) :
      Requests b action result [.asked action answer] (b.receive answer.arrived) (.ok accepted)
  | failed {answer : Call.Answer action} {e : RequestError}
      (error : result answer.result = .error e) :
      Requests b action result (.asked action answer :: reporting e) (b.receive answer.arrived)
        (.error (.request e))

lemma course_request {action : Call} {result : action.Result → Except RequestError Bool}
    {outcome : Except ActionError Bool}
    (h : (b.request action result).Course log (b', outcome)) :
    b.Requests action result log b' outcome := by
  simp only [request, Task.course_bind_iff, course_call_iff] at h
  obtain ⟨answer, _, _, rfl, rfl, hrest⟩ := h
  cases hresult : result answer.result with
  | ok accepted =>
    simp only [hresult, Task.pure_eq_done, Task.course_done_iff, Prod.mk.injEq] at hrest
    obtain ⟨rfl, rfl, rfl⟩ := hrest
    exact .answered hresult
  | error e =>
    simp only [hresult, Task.course_bind_iff, course_report_iff, Task.pure_eq_done,
      Task.course_done_iff, Prod.mk.injEq] at hrest
    obtain ⟨_, _, _, rfl, rfl, rfl, rfl, rfl⟩ := hrest
    simpa using Requests.failed (b := b) hresult

lemma Requests.rows_eq {action : Call} {result : action.Result → Except RequestError Bool}
    {outcome : Except ActionError Bool} (h : b.Requests action result log b' outcome) :
    b'.rows = b.rows := by
  cases h <;> rfl

/-! ### Actions -/

/-- What the backend says to a removal or a cancellation. -/
def verdict? : (c : Call) → Call.Answer c → Option (Except RequestError Bool)
  | .remove _, answer => some answer.result
  | .cancel _ _, answer => some answer.result
  | .list _, _ => none
  | .subscribe _, _ => none
  | .subscribeAll _, _ => none

/-- The board as soon as an action has been granted: the rows of deleted runs go. -/
def afterGrant (b : Board) : Call → Board
  | .remove ids => b.dropRows ids
  | .list _ | .cancel _ _ | .subscribe _ | .subscribeAll _ => b

/-- What an action comes to whose request, if it makes one, is `request?`: it is rejected, the
request fails or is refused, or it is granted and the page is loaded again. -/
inductive Undertakes {α : Type} (b : Board) (request? : Option Call) (no yes : α) :
    BoardLog → Board → Except ActionError α → Prop
  | rejected {e : ActionError} (unasked : request? = none) :
      Undertakes b request? no yes [] b (.error e)
  | failed {c : Call} {answer : Call.Answer c} {e : RequestError} (asks : request? = some c)
      (verdict : verdict? c answer = some (.error e)) :
      Undertakes b request? no yes (.asked c answer :: reporting e) (b.receive answer.arrived)
        (.error (.request e))
  | refused {c : Call} {answer : Call.Answer c} (asks : request? = some c)
      (verdict : verdict? c answer = some (.ok false)) :
      Undertakes b request? no yes [.asked c answer] (b.receive answer.arrived) (.ok no)
  | granted {c : Call} {answer : Call.Answer c} {log : BoardLog} {b' : Board} {shown : Bool}
      (asks : request? = some c) (verdict : verdict? c answer = some (.ok true))
      (loads : ((b.receive answer.arrived).afterGrant c).Loads log b' shown) :
      Undertakes b request? no yes (.asked c answer :: log) b' (.ok yes)

section Undertakes

variable {α : Type} {no yes : α} {outcome : Except ActionError α} {request? : Option Call}

/-- What ends at once, without a request. -/
lemma undertakes_of_course_done {e : ActionError} (unasked : request? = none)
    (h : (Task.done (b, .error e) : BoardTask (Board × Except ActionError α)).Course log
      (b', outcome)) : b.Undertakes request? no yes log b' outcome := by
  obtain ⟨rfl, heq⟩ := Task.course_done_iff.mp h
  obtain ⟨rfl, rfl⟩ := Prod.mk.inj heq
  exact .rejected unasked

variable {action : Call} {result : action.Result → Except RequestError Bool}
  {first rest : BoardLog} (asks : request? = some action)
  (verdict : ∀ answer, verdict? action answer = some (result answer.result))

include asks verdict

/-- A request that is not granted, after which nothing happens. -/
lemma undertakes_of_not_granted {accepted : Except ActionError Bool}
    (hrequest : (b.request action result).Course first (c, accepted))
    (hrefused : accepted ≠ .ok true)
    (hrest : (Task.done (c, accepted.map fun _ => no) :
      BoardTask (Board × Except ActionError α)).Course rest (b', outcome)) :
    b.Undertakes request? no yes (first ++ rest) b' outcome := by
  obtain ⟨rfl, heq⟩ := Task.course_done_iff.mp hrest
  obtain ⟨rfl, rfl⟩ := Prod.mk.inj heq
  rw [List.append_nil]
  cases course_request hrequest with
  | @answered answer accepted ok =>
    cases accepted with
    | true => exact absurd rfl hrefused
    | false => exact .refused asks ((verdict answer).trans (congrArg some ok))
  | @failed answer e error => exact .failed asks ((verdict answer).trans (congrArg some error))

/-- A request that is granted, after which the page is loaded. -/
lemma undertakes_of_granted (hrequest : (b.request action result).Course first (c, .ok true))
    (hrest : ((c.afterGrant action).load >>= fun loaded => pure (loaded.1, .ok yes) :
      BoardTask (Board × Except ActionError α)).Course rest (b', outcome)) :
    b.Undertakes request? no yes (first ++ rest) b' outcome := by
  simp only [Task.course_bind_iff, Task.pure_eq_done, Task.course_done_iff, Prod.mk.injEq] at hrest
  obtain ⟨⟨d, shown⟩, rest, _, rfl, hload, rfl, rfl, rfl⟩ := hrest
  rw [List.append_nil]
  cases course_request hrequest with
  | @answered answer _ ok =>
    exact .granted asks ((verdict answer).trans (congrArg some ok)) (course_load hload)

end Undertakes

/-! The requests of the actions. -/

/-- The request with which a run is canceled, which must be shown as in flight. -/
def cancellation? (b : Board) (id : RunId) : Option Call :=
  ((b.row? id).filter Run.isInFlight).map fun row => .cancel row.workflow id

/-- The request with which a run is deleted, which must be shown as ended. -/
def deletion? (b : Board) (id : RunId) : Option Call :=
  ((b.row? id).filter Run.isTerminal).map fun _ => .remove [id]

/-- The request with which the selected runs are deleted that have ended, if there are any. -/
def batchDeletion? (b : Board) : Option Call :=
  if b.deletable = [] then none else some (.remove b.deletable)

/-- The removal or cancellation that an operation asks for, if any. -/
def Operation.request? (op : Operation) (b : Board) : Option Call :=
  match op with
  | .command (.cancel id) => b.cancellation? id
  | .command (.delete id) => b.deletion? id
  | .command .deleteSelected => b.batchDeletion?
  | _ => none

lemma cancellation?_eq_some_iff {id : RunId} {action : Call} :
    b.cancellation? id = some action ↔
      ∃ row, b.row? id = some row ∧ row.isInFlight = true ∧ action = .cancel row.workflow id := by
  simp only [cancellation?, Option.map_eq_some_iff, Option.filter_eq_some_iff, and_assoc]
  exact exists_congr fun row => and_congr_right fun _ => and_congr_right fun _ => eq_comm

lemma deletion?_eq_some_iff {id : RunId} {action : Call} :
    b.deletion? id = some action ↔
      ∃ row, b.row? id = some row ∧ row.isTerminal = true ∧ action = .remove [id] := by
  simp only [deletion?, Option.map_eq_some_iff, Option.filter_eq_some_iff, and_assoc]
  exact exists_congr fun row => and_congr_right fun _ => and_congr_right fun _ => eq_comm

lemma batchDeletion?_eq_some_iff {action : Call} :
    b.batchDeletion? = some action ↔ b.deletable ≠ [] ∧ action = .remove b.deletable := by
  by_cases hnone : b.deletable = []
  · simp [batchDeletion?, hnone]
  · simp [batchDeletion?, hnone, eq_comm]

/-- The selected runs that have ended, in the order of the page. -/
lemma deletable_eq (b : Board) :
    b.deletable = (b.rows.filter fun r => r.id ∈ b.selected ∧ r.isTerminal).map Run.id := by
  unfold deletable
  rw [List.filter_filter]
  congr 1
  refine List.filter_congr fun r _ => ?_
  rw [Bool.and_comm]
  simp

lemma mem_deletable {id : RunId} :
    id ∈ b.deletable ↔ ∃ row ∈ b.rows, row.id = id ∧ id ∈ b.selected ∧ row.isTerminal = true := by
  rw [deletable_eq, List.mem_map]
  constructor
  · rintro ⟨row, hrow, rfl⟩
    obtain ⟨hmem, hdue⟩ := List.mem_filter.mp hrow
    obtain ⟨hselected, hended⟩ := of_decide_eq_true hdue
    exact ⟨row, hmem, rfl, hselected, hended⟩
  · rintro ⟨row, hrow, rfl, hselected, hended⟩
    exact ⟨row, List.mem_filter.mpr ⟨hrow, decide_eq_true ⟨hselected, hended⟩⟩, rfl⟩

/-- Only runs are asked to be deleted that are shown as ended. -/
lemma ended_of_removal {op : Operation} {ids : List RunId}
    (h : op.request? b = some (.remove ids)) :
    ∀ id ∈ ids, ∃ r ∈ b.rows, r.id = id ∧ r.isTerminal = true := by
  intro id hid
  unfold Operation.request? at h
  split at h
  · obtain ⟨row, -, -, heq⟩ := cancellation?_eq_some_iff.mp h
    cases heq
  · obtain ⟨row, hrow, hended, heq⟩ := deletion?_eq_some_iff.mp h
    obtain rfl := Call.remove.inj heq
    obtain rfl := List.mem_singleton.mp hid
    obtain ⟨hmem, hrowid⟩ := Subscriptions.rowOf?_eq_some hrow
    exact ⟨row, hmem, hrowid, hended⟩
  · obtain ⟨-, heq⟩ := batchDeletion?_eq_some_iff.mp h
    obtain rfl := Call.remove.inj heq
    obtain ⟨row, hrow, hrowid, -, hended⟩ := mem_deletable.mp hid
    exact ⟨row, hrow, hrowid, hended⟩
  · cases h

lemma course_cancelRun {id : RunId} {outcome : Except ActionError Bool}
    (h : (b.cancelRun id).Course log (b', outcome)) :
    b.Undertakes (b.cancellation? id) false true log b' outcome := by
  unfold cancelRun at h
  cases hrow : b.row? id with
  | none =>
    rw [hrow] at h
    exact undertakes_of_course_done (by simp [cancellation?, hrow]) h
  | some row =>
    by_cases hflight : row.isInFlight = true
    · have asks : b.cancellation? id = some (.cancel row.workflow id) :=
        cancellation?_eq_some_iff.mpr ⟨row, hrow, hflight, rfl⟩
      simp only [hrow, hflight, Bool.not_true, Bool.false_eq_true, if_false,
        Task.course_bind_iff] at h
      obtain ⟨⟨c, accepted⟩, first, rest, rfl, hrequest, hrest⟩ := h
      rcases accepted with e | _ | _
      · exact undertakes_of_not_granted asks (fun _ => rfl) hrequest (by simp) hrest
      · exact undertakes_of_not_granted asks (fun _ => rfl) hrequest (by simp) hrest
      · exact undertakes_of_granted asks (fun _ => rfl) hrequest hrest
    · simp only [hrow, hflight, Bool.not_false, if_true] at h
      exact undertakes_of_course_done (by simp [cancellation?, hrow, Option.filter, hflight]) h

lemma course_deleteRun {id : RunId} {outcome : Except ActionError Bool}
    (h : (b.deleteRun id).Course log (b', outcome)) :
    b.Undertakes (b.deletion? id) false true log b' outcome := by
  unfold deleteRun at h
  cases hrow : b.row? id with
  | none =>
    rw [hrow] at h
    exact undertakes_of_course_done (by simp [deletion?, hrow]) h
  | some row =>
    by_cases hflight : row.isInFlight = true
    · simp only [hrow, hflight, if_true] at h
      exact undertakes_of_course_done (by simp [deletion?, hrow, Option.filter, hflight]) h
    · have asks : b.deletion? id = some (.remove [id]) :=
        deletion?_eq_some_iff.mpr ⟨row, hrow, by simpa using hflight, rfl⟩
      simp only [hrow, hflight, Bool.false_eq_true, if_false, Task.course_bind_iff] at h
      obtain ⟨⟨c, accepted⟩, first, rest, rfl, hrequest, hrest⟩ := h
      rcases accepted with e | _ | _
      · exact undertakes_of_not_granted asks (fun _ => rfl) hrequest (by simp) hrest
      · exact undertakes_of_not_granted asks (fun _ => rfl) hrequest (by simp) hrest
      · exact undertakes_of_granted asks (fun _ => rfl) hrequest hrest

lemma course_deleteSelected {outcome : Except ActionError Nat}
    (h : b.deleteSelected.Course log (b', outcome)) :
    b.Undertakes b.batchDeletion? 0 b.deletable.length log b' outcome := by
  unfold deleteSelected at h
  by_cases hnone : b.deletable = []
  · simp only [hnone, List.isEmpty_nil, if_true] at h
    exact undertakes_of_course_done (by simp [batchDeletion?, hnone]) h
  · have asks : b.batchDeletion? = some (.remove b.deletable) :=
      batchDeletion?_eq_some_iff.mpr ⟨hnone, rfl⟩
    have hempty : b.deletable.isEmpty = false := by simpa using hnone
    simp only [hempty, Bool.false_eq_true, if_false, Task.course_bind_iff] at h
    obtain ⟨⟨c, accepted⟩, first, rest, rfl, hrequest, hrest⟩ := h
    rcases accepted with e | _ | _
    · exact undertakes_of_not_granted asks (fun _ => rfl) hrequest (by simp) hrest
    · exact undertakes_of_not_granted asks (fun _ => rfl) hrequest (by simp) hrest
    · exact undertakes_of_granted asks (fun _ => rfl) hrequest hrest

/-! ### Commands -/

/-- What carrying out a command comes to, once all subscriptions have been released if the command
begins with that.  After a request that was granted, a page is loaded. -/
inductive Handles (b : Board) : BoardLog → Board → Prop
  | quiet {b' : Board} (steps : Steps b [] b') (rows : b'.rows = b.rows) (live : b'.live = b.live) :
      Handles b [] b'
  | loaded {log : BoardLog} {b' : Board} {shown : Bool} (loads : b.Loads log b' shown) :
      Handles b log b'
  | turned {query : Query} {log : BoardLog} {b' : Board} {shown : Bool}
      (loads : Loads { b.clearSelection with query } log b' shown) : Handles b log b'
  | notCanceled {workflow : String} {id : RunId} {log : BoardLog} {b' : Board}
      {outcome : Except ActionError Bool}
      (requests : b.Requests (.cancel workflow id) (fun r => r) log b' outcome)
      (refused : outcome ≠ .ok true) : Handles b log b'
  | canceled {workflow : String} {id : RunId} {arrived : List Patch} {log : BoardLog} {b' : Board}
      {shown : Bool} (loads : (b.receive arrived).Loads log b' shown) :
      Handles b (.asked (.cancel workflow id) ⟨.ok true, arrived⟩ :: log) b'
  | notRemoved {ids : List RunId} {log : BoardLog} {b' : Board}
      {outcome : Except ActionError Bool}
      (requests : b.Requests (.remove ids) (fun r => r) log b' outcome)
      (refused : outcome ≠ .ok true) : Handles b log b'
  | removed {ids : List RunId} {arrived : List Patch} {log : BoardLog} {b' : Board}
      {shown : Bool} (ended : ∀ id ∈ ids, ∃ r ∈ b.rows, r.id = id ∧ r.isTerminal = true)
      (loads : ((b.receive arrived).dropRows ids).Loads log b' shown) :
      Handles b (.asked (.remove ids) ⟨.ok true, arrived⟩ :: log) b'

/-- An action that deletes runs that have ended is one of those. -/
lemma handles_of_undertakes {α : Type} {no yes : α} {outcome : Except ActionError α}
    {request? : Option Call} (h : b.Undertakes request? no yes log b' outcome)
    (ended : ∀ ids, request? = some (.remove ids) →
      ∀ id ∈ ids, ∃ r ∈ b.rows, r.id = id ∧ r.isTerminal = true) : b.Handles log b' := by
  cases h with
  | rejected => exact .quiet (.refl _) rfl rfl
  | @failed action answer e asks verdict =>
    cases action with
    | remove => exact .notRemoved (.failed (Option.some.inj verdict)) (by simp)
    | cancel => exact .notCanceled (.failed (Option.some.inj verdict)) (by simp)
    | list | subscribe | subscribeAll => cases verdict
  | @refused action answer asks verdict =>
    cases action with
    | remove => exact .notRemoved (.answered (Option.some.inj verdict)) (by simp)
    | cancel => exact .notCanceled (.answered (Option.some.inj verdict)) (by simp)
    | list | subscribe | subscribeAll => cases verdict
  | @granted action answer _ _ _ asks verdict loads =>
    obtain ⟨result, arrived⟩ := answer
    cases action with
    | remove ids =>
      obtain rfl : result = .ok true := Option.some.inj verdict
      exact .removed (ended ids asks) loads
    | cancel workflow id =>
      obtain rfl : result = .ok true := Option.some.inj verdict
      exact .canceled loads
    | list | subscribe | subscribeAll => cases verdict

/-- Where the steps of an operation begin. -/
def Operation.base (op : Operation) (b : Board) : Board :=
  if op.tearsDown then b.released else b

/-- The release of all subscriptions changes nothing else. -/
lemma Operation.base_eq (op : Operation) (b : Board) :
    op.base b = { b with live := (op.base b).live } := by
  unfold base
  split <;> rfl

@[simp] lemma Operation.base_rows (op : Operation) (b : Board) : (op.base b).rows = b.rows := by
  rw [base_eq]

@[simp] lemma Operation.base_detail (op : Operation) (b : Board) :
    (op.base b).detail = b.detail := by
  rw [base_eq]

/-- What is told before the steps of an operation begin. -/
def Operation.opening (op : Operation) (b : Board) : BoardLog :=
  if op.tearsDown then releasing b.live.ids else []

/-- Turning releases everything first, and the page that it asks for is one of the new query. -/
lemma course_turnTo {query : Query} {shown : Bool}
    (h : (b.turnTo query).Course log (b', shown)) :
    ∃ rest, log = releasing b.live.ids ++ rest ∧
      Loads { b.released.clearSelection with query } rest b' shown := by
  simp only [turnTo, Task.course_bind_iff] at h
  obtain ⟨⟨c, count⟩, _, rest, rfl, hdown, hload⟩ := h
  obtain ⟨rfl, rfl, -⟩ := course_teardown_iff.mp hdown
  exact ⟨rest, rfl, course_load hload⟩

/-- What comes of each command: the rows and the subscriptions stay as they are, a page is loaded,
perhaps of another query, or an action is undertaken. -/
inductive Obeys (b : Board) (command : Command) : BoardLog → Board → Prop
  | quiet {b' : Board} (unasked : (Operation.command command).request? b = none)
      (stays : (Operation.command command).tearsDown = false)
      (steps : Steps b [] b') (rows : b'.rows = b.rows) (live : b'.live = b.live) :
      Obeys b command [] b'
  | loaded {log : BoardLog} {b' : Board} {shown : Bool} (refresh : command = .refresh)
      (loads : b.Loads log b' shown) : Obeys b command log b'
  | turned {query : Query} {log : BoardLog} {b' : Board} {shown : Bool}
      (unasked : (Operation.command command).request? b = none)
      (turns : (Operation.command command).tearsDown = true)
      (loads : Loads { b.released.clearSelection with query } log b' shown) :
      Obeys b command (releasing b.live.ids ++ log) b'
  | undertook {α : Type} {no yes : α} {log : BoardLog} {b' : Board}
      {outcome : Except ActionError α} (stays : (Operation.command command).tearsDown = false)
      (undertakes :
        b.Undertakes ((Operation.command command).request? b) no yes log b' outcome) :
      Obeys b command log b'

/-- Every course of a command is one of those. -/
lemma course_obeys {command : Command} {outcome : Except ActionError Unit}
    (h : (b.handle command).Course log (b', outcome)) : b.Obeys command log b' := by
  cases command with
  | refresh =>
    simp only [handle, Task.course_bind_iff, Task.pure_eq_done, Task.course_done_iff,
      Prod.mk.injEq] at h
    obtain ⟨⟨e, shown⟩, first, _, rfl, hload, rfl, rfl, -⟩ := h
    rw [List.append_nil]
    exact .loaded rfl (course_load hload)
  | setPage page perPage =>
    simp only [handle, setPage, Task.course_bind_iff, Task.pure_eq_done, Task.course_done_iff,
      Prod.mk.injEq] at h
    obtain ⟨⟨e, shown⟩, first, _, rfl, hturn, rfl, rfl, -⟩ := h
    obtain ⟨rest, rfl, hloads⟩ := course_turnTo hturn
    rw [List.append_nil]
    exact .turned rfl rfl hloads
  | setWorkflow workflow =>
    simp only [handle, setWorkflow, Task.course_bind_iff, Task.pure_eq_done,
      Task.course_done_iff, Prod.mk.injEq] at h
    obtain ⟨⟨e, shown⟩, first, _, rfl, hturn, rfl, rfl, -⟩ := h
    obtain ⟨rest, rfl, hloads⟩ := course_turnTo hturn
    rw [List.append_nil]
    exact .turned rfl rfl hloads
  | select ids =>
    simp only [handle, Task.pure_eq_done, Task.course_done_iff, Prod.mk.injEq] at h
    obtain ⟨rfl, rfl, -⟩ := h
    exact .quiet rfl rfl (.single (.select b ids)) rfl rfl
  | toggle id =>
    simp only [handle, Task.pure_eq_done, Task.course_done_iff, Prod.mk.injEq] at h
    obtain ⟨rfl, rfl, -⟩ := h
    exact .quiet rfl rfl (.single (.toggle b id)) (toggle_rows b id) (toggle_live b id)
  | clearSelection =>
    simp only [handle, Task.pure_eq_done, Task.course_done_iff, Prod.mk.injEq] at h
    obtain ⟨rfl, rfl, -⟩ := h
    exact .quiet rfl rfl (.single (.clearSelection b)) rfl rfl
  | cancel id =>
    simp only [handle, Task.course_bind_iff, Task.pure_eq_done, Task.course_done_iff,
      Prod.mk.injEq] at h
    obtain ⟨⟨e, accepted⟩, first, _, rfl, hcancel, rfl, rfl, -⟩ := h
    rw [List.append_nil]
    exact .undertook rfl (course_cancelRun hcancel)
  | delete id =>
    simp only [handle, Task.course_bind_iff, Task.pure_eq_done, Task.course_done_iff,
      Prod.mk.injEq] at h
    obtain ⟨⟨e, accepted⟩, first, _, rfl, hdelete, rfl, rfl, -⟩ := h
    rw [List.append_nil]
    exact .undertook rfl (course_deleteRun hdelete)
  | deleteSelected =>
    simp only [handle, Task.course_bind_iff, Task.pure_eq_done, Task.course_done_iff,
      Prod.mk.injEq] at h
    obtain ⟨⟨e, accepted⟩, first, _, rfl, hdelete, rfl, rfl, -⟩ := h
    rw [List.append_nil]
    exact .undertook rfl (course_deleteSelected hdelete)
  | openDetail id =>
    have hopen : log = [] ∧ b' = (b.openDetail id).1 := by
      simp only [handle, openDetail] at h ⊢
      cases hrow : b.row? id with
      | none =>
        simp only [hrow, Task.pure_eq_done, Task.course_done_iff, Prod.mk.injEq] at h
        exact ⟨h.1, h.2.1⟩
      | some row =>
        simp only [hrow, Task.pure_eq_done, Task.course_done_iff, Prod.mk.injEq] at h
        exact ⟨h.1, h.2.1⟩
    obtain ⟨rfl, rfl⟩ := hopen
    exact .quiet rfl rfl (.single (.openDetail b id)) (openDetail_rows b id) (openDetail_live b id)
  | closeDetail =>
    simp only [handle, Task.pure_eq_done, Task.course_done_iff, Prod.mk.injEq] at h
    obtain ⟨rfl, rfl, -⟩ := h
    exact .quiet rfl rfl (.single (.closeDetail b)) rfl rfl

/-- What a command comes to, after the release of all subscriptions if it begins with that. -/
lemma course_handle {command : Command} {outcome : Except ActionError Unit}
    (h : (b.handle command).Course log (b', outcome)) :
    ∃ rest, log = (Operation.command command).opening b ++ rest ∧
      ((Operation.command command).base b).Handles rest b' := by
  have hstays : (Operation.command command).tearsDown = false → b.Handles log b' →
      ∃ rest, log = (Operation.command command).opening b ++ rest ∧
        ((Operation.command command).base b).Handles rest b' := by
    intro hstays hhandles
    simp only [Operation.opening, Operation.base, hstays, Bool.false_eq_true, if_false]
    exact ⟨log, rfl, hhandles⟩
  cases course_obeys h with
  | quiet _ stays steps rows live => exact hstays stays (.quiet steps rows live)
  | loaded refresh loads => exact hstays (by rw [refresh]; rfl) (.loaded loads)
  | @turned _ rest _ _ _ turns loads =>
    simp only [Operation.opening, Operation.base, turns, if_true]
    exact ⟨rest, rfl, .turned loads⟩
  | undertook stays undertakes =>
    exact hstays stays (handles_of_undertakes undertakes fun _ hids => ended_of_removal hids)

/-! ### All operations -/

/-- What a command comes to consists of steps. -/
lemma steps_of_handles (h : b.Handles log b') : Steps b log b' := by
  cases h with
  | quiet steps => exact steps
  | loaded loads => exact steps_of_loads loads
  | @turned query _ _ _ loads =>
    exact (Steps.single (.turn b query)).append (steps_of_loads loads)
  | @notCanceled workflow id _ _ _ requests =>
    cases requests with
    | @answered answer accepted ok =>
      obtain ⟨result, arrived⟩ := answer
      obtain rfl : result = .ok accepted := ok
      exact .single (.cancel b workflow id accepted arrived)
    | @failed answer e error =>
      obtain ⟨result, arrived⟩ := answer
      obtain rfl : result = .error e := error
      exact .single (.cancelFailed b workflow id e arrived)
  | @canceled workflow id arrived _ _ _ loads =>
    exact (Steps.single (.cancel b workflow id true arrived)).append (steps_of_loads loads)
  | @notRemoved ids _ _ _ requests =>
    cases requests with
    | @answered answer accepted ok =>
      obtain ⟨result, arrived⟩ := answer
      obtain rfl : result = .ok accepted := ok
      exact .single (.remove b ids accepted arrived)
    | @failed answer e error =>
      obtain ⟨result, arrived⟩ := answer
      obtain rfl : result = .error e := error
      exact .single (.removeFailed b ids e arrived)
  | @removed ids arrived _ _ _ ended loads =>
    have dropped : Steps (b.receive arrived) [] ((b.receive arrived).dropRows ids) :=
      .single (.drop (b.receive arrived) ids ended)
    exact (Steps.single (.remove b ids true arrived)).append
      (dropped.append (steps_of_loads loads))

/-- Every course of an operation consists of steps, after the release of all subscriptions if the
operation begins with that. -/
lemma steps_of_course_perform {op : Operation} (h : (b.perform op).Course log b') :
    ∃ rest, log = op.opening b ++ rest ∧ Steps (op.base b) rest b' := by
  cases op with
  | receive patches =>
    simp only [perform, Task.pure_eq_done, Task.course_done_iff] at h
    obtain ⟨rfl, rfl⟩ := h
    exact ⟨[], rfl, .single (.receive b patches)⟩
  | apply patch =>
    obtain ⟨outcome, happly⟩ := course_board_iff.mp h
    exact ⟨log, by simp [Operation.opening, Operation.tearsDown],
      steps_of_course_applyPatch happly⟩
  | take =>
    simp only [perform, Task.pure_eq_done, Task.course_done_iff] at h
    obtain ⟨rfl, rfl⟩ := h
    refine ⟨[], rfl, ?_⟩
    cases hnext : b.nextPatch? with
    | none => exact .refl b
    | some found => exact .single (.take hnext)
  | drain =>
    obtain ⟨count, happly⟩ := course_board_iff.mp h
    exact ⟨log, by simp [Operation.opening, Operation.tearsDown],
      (Steps.single (.empty b)).append (steps_of_course_applyAll happly)⟩
  | teardown =>
    obtain ⟨rfl, rfl⟩ := course_perform_teardown_iff.mp h
    exact ⟨[], (List.append_nil _).symm, .refl _⟩
  | command c =>
    obtain ⟨outcome, hcommand⟩ := course_perform_command_iff.mp h
    obtain ⟨rest, hlog, hhandles⟩ := course_handle hcommand
    exact ⟨rest, hlog, steps_of_handles hhandles⟩

/-- What each step keeps, and the release of all subscriptions, is kept by whole histories. -/
lemma History.keep {P : Board → BoardLog → Board → Prop} (refl : ∀ b, P b [] b)
    (trans : ∀ {b c d log rest}, P b log c → P c rest d → P b (log ++ rest) d)
    (step : ∀ {b log c}, Step b log c → P b log c)
    (released : ∀ b, P b (releasing b.live.ids) b.released) {deeds : List Deed}
    (h : History b deeds b') : P b (logOf deeds) b' := by
  induction h with
  | start => exact refl b
  | @next deeds c d deed _ course ih =>
    rw [logOf_append]
    refine trans ih ?_
    obtain ⟨rest, hlog, hsteps⟩ := steps_of_course_perform course
    have hrest : P (deed.operation.base c) rest d := hsteps.keep refl trans step
    rw [hlog]
    by_cases hdown : deed.operation.tearsDown = true
    · simp only [Operation.opening, Operation.base, hdown, if_true] at hrest ⊢
      exact trans (released c) hrest
    · simp only [Operation.opening, Operation.base, hdown] at hrest ⊢
      exact hrest

end RunBoard.Board
