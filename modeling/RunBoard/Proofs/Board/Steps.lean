import RunBoard.Proofs.Board.Rows
import RunBoard.Proofs.Board.Subscribing
import RunBoard.Session

/-!
# What the operations of a board consist of

Everything that is done with a board is made of a few steps: patches are received and taken in, a
page is fetched, a request for an action is answered, rows are dropped, and what needs no answer is
looked up or selected.  `Step` says all that a single step does.  The courses of loading a page, of
taking in patches and of the operations that are not commands are taken apart here.
-/

namespace RunBoard.Board

/-! ### Operations and histories -/

/-- What can be done with a board.  A board that is discarded is torn down. -/
inductive Operation where
  | command (c : Command)
  /-- Patches arrive while nothing is being done. -/
  | receive (patches : List Patch)
  | apply (patch : Patch)
  /-- The first patch that waits is taken away. -/
  | take
  | drain
  | teardown

namespace Operation

/-- Whether an operation begins with the release of all subscriptions. -/
def tearsDown : Operation → Bool
  | teardown | command (.setPage _ _) | command (.setWorkflow _) => true
  | _ => false

end Operation

/-- Does what an operation asks for. -/
def perform (b : Board) : Operation → BoardTask Board
  | .command c => do
    let (b, _) ← b.handle c
    return b
  | .receive patches => pure (b.receive patches)
  | .apply patch => do
    let (b, _) ← b.applyPatch patch
    return b
  | .take => pure ((b.nextPatch?.map Prod.snd).getD b)
  | .drain => do
    let (b, _) ← b.drain
    return b
  | .teardown => do
    let (b, _) ← b.teardown
    return b

/-- An operation that has been carried out, and the course that it took. -/
structure Deed where
  operation : Operation
  log : BoardLog

/-- `History b deeds b'`: the deeds, one after the other, lead from `b` to `b'`. -/
inductive History (b : Board) : List Deed → Board → Prop
  | start : History b [] b
  | next {deeds : List Deed} {c d : Board} {deed : Deed} (before : History b deeds c)
      (course : (c.perform deed.operation).Course deed.log d) : History b (deeds ++ [deed]) d

lemma history_append_iff {b d : Board} {deeds : List Deed} {deed : Deed} :
    History b (deeds ++ [deed]) d ↔
      ∃ c, History b deeds c ∧ (c.perform deed.operation).Course deed.log d := by
  constructor
  · intro h
    generalize hall : deeds ++ [deed] = all at h
    cases h with
    | start => simp at hall
    | next before course =>
      obtain ⟨rfl, hdeed⟩ := List.append_inj' hall rfl
      obtain rfl := List.singleton_inj.mp hdeed
      exact ⟨_, before, course⟩
  · rintro ⟨c, before, course⟩
    exact .next before course

/-- All that was asked and told. -/
def logOf (deeds : List Deed) : BoardLog :=
  deeds.flatMap Deed.log

lemma logOf_append (deeds : List Deed) (deed : Deed) :
    logOf (deeds ++ [deed]) = logOf deeds ++ deed.log := by
  simp [logOf]

/-- A backend that lists one page, accepts every action and refuses the subscription of one run. -/
def answerWith (page : Page) (refused : RunId) : (c : Call) → Call.Answer c
  | .list _ => ⟨.ok page, []⟩
  | .remove _ | .cancel _ _ | .subscribe _ => ⟨.ok true, []⟩
  | .subscribeAll _ =>
    ⟨some fun id => if id = refused then .error (.realtime "refused") else .ok true, []⟩

/-- The deed that an operation comes to with given answers, and the board after it. -/
def act (b : Board) (op : Operation) (answer : (c : Call) → Call.Answer c) : Deed × Board :=
  let played := (b.perform op).play answer
  (⟨op, played.1⟩, played.2)

lemma course_act (b : Board) (op : Operation) (answer : (c : Call) → Call.Answer c) :
    (b.perform op).Course (b.act op answer).1.log (b.act op answer).2 :=
  Task.course_play answer _

/-- A backend that cannot be reached: every call fails, and a batch of subscriptions is given up. -/
def offline : (c : Call) → Call.Answer c
  | .list _ => ⟨.error (.transport "down"), []⟩
  | .remove _ | .cancel _ _ | .subscribe _ => ⟨.error (.transport "down"), []⟩
  | .subscribeAll _ => ⟨none, []⟩

/-- A backend that removes runs, and answers all else with an error. -/
def removing (e : RequestError) : (c : Call) → Call.Answer c
  | .list _ => ⟨.error e, []⟩
  | .remove _ => ⟨.ok true, []⟩
  | .cancel _ _ | .subscribe _ => ⟨.error e, []⟩
  | .subscribeAll _ => ⟨some fun _ => .error e, []⟩

/-- The deeds that operations come to one after the other, each with answers of its own, and the
board after them. -/
def acts (b : Board) :
    List (Operation × ((c : Call) → Call.Answer c)) → List Deed × Board
  | [] => ([], b)
  | (op, answer) :: ops =>
    ((b.act op answer).1 :: ((b.act op answer).2.acts ops).1, ((b.act op answer).2.acts ops).2)

lemma history_acts {b c : Board} {earlier : List Deed} (h : History b earlier c)
    (ops : List (Operation × ((c : Call) → Call.Answer c))) :
    History b (earlier ++ (c.acts ops).1) (c.acts ops).2 := by
  induction ops generalizing c earlier with
  | nil => simpa [acts] using h
  | cons first ops ih =>
    obtain ⟨op, answer⟩ := first
    simpa [acts] using ih (h.next (course_act c op answer))

lemma history_of_acts (b : Board) (ops : List (Operation × ((c : Call) → Call.Answer c))) :
    History b (b.acts ops).1 (b.acts ops).2 :=
  history_acts .start ops

/-! ### Single steps -/

/-- The board once all subscriptions have been released and all patches that waited discarded. -/
def released (b : Board) : Board :=
  { b with live := .empty }

/-- The board after a patch has been taken in. -/
def patched (b : Board) (patch : Patch) : Board :=
  let merged := b.live.merge patch b.rows b.detail
  { b with
    live := if merged.outcome.releases then b.live.erase patch.record.id else b.live
    rows := merged.rows
    detail := merged.detail
    total := if merged.outcome = .removed then b.total - 1 else b.total
    selected :=
      if merged.outcome = .removed then b.selected.filter (· ≠ patch.record.id) else b.selected }

/-- The board after its page could not be fetched. -/
def failed (b : Board) (e : RequestError) : Board :=
  if e.isAbort then b else { b with lastError := some e.message }

/-- What following the rows of a page comes to: the subscriptions are brought in line with the rows,
or the batch is given up and everything is released. -/
inductive Follows (b : Board) : BoardLog → Board → Prop
  | settled {rest : BoardLog} {live : Subscriptions} {outcomes : Subscriptions.Outcomes}
      (batch : (b.live.keep b.rows).SubscribesAll (Subscriptions.wanted b.rows) rest live
        (.ok outcomes)) :
      Follows b (releasing (b.live.stale b.rows) ++ rest) { b with live }
  | givenUp (arrived : List Patch)
      (hne : (b.live.keep b.rows).missing (Subscriptions.wanted b.rows) ≠ []) :
      Follows b
        (releasing (b.live.stale b.rows) ++
          .asked (.subscribeAll ((b.live.keep b.rows).missing (Subscriptions.wanted b.rows)))
            ⟨none, arrived⟩ ::
          (releasing ((b.live.keep b.rows).missing (Subscriptions.wanted b.rows)) ++
            releasing (b.live.keep b.rows).ids))
        b.released

/-- The steps of a board. -/
inductive Step : Board → BoardLog → Board → Prop
  | receive (b : Board) (patches : List Patch) : Step b [] (b.receive patches)
  | patch (b : Board) (patch : Patch) :
      Step b
        (if (b.live.merge patch b.rows b.detail).outcome.releases then
          releasing [patch.record.id] else [])
        (b.patched patch)
  | take {b b' : Board} {patch : Patch} (h : b.nextPatch? = some (patch, b')) : Step b [] b'
  | empty (b : Board) : Step b [] { b with live := { b.live with inbox := [] } }
  | load {b b' : Board} {rest : BoardLog} (page : Page) (arrived : List Patch)
      (follows : ((b.receive arrived).replacePage page).Follows rest b') :
      Step b (.asked (.list b.query) ⟨.ok page, arrived⟩ :: rest) b'
  | fail (b : Board) (e : RequestError) (arrived : List Patch) :
      Step b (.asked (.list b.query) ⟨.error e, arrived⟩ :: reporting e)
        ((b.receive arrived).failed e)
  | remove (b : Board) (ids : List RunId) (accepted : Bool) (arrived : List Patch) :
      Step b [.asked (.remove ids) ⟨.ok accepted, arrived⟩] (b.receive arrived)
  | removeFailed (b : Board) (ids : List RunId) (e : RequestError) (arrived : List Patch) :
      Step b (.asked (.remove ids) ⟨.error e, arrived⟩ :: reporting e) (b.receive arrived)
  | cancel (b : Board) (workflow : String) (id : RunId) (accepted : Bool) (arrived : List Patch) :
      Step b [.asked (.cancel workflow id) ⟨.ok accepted, arrived⟩] (b.receive arrived)
  | cancelFailed (b : Board) (workflow : String) (id : RunId) (e : RequestError)
      (arrived : List Patch) :
      Step b (.asked (.cancel workflow id) ⟨.error e, arrived⟩ :: reporting e) (b.receive arrived)
  | drop (b : Board) (ids : List RunId)
      (ended : ∀ id ∈ ids, ∃ r ∈ b.rows, r.id = id ∧ r.isTerminal = true) :
      Step b [] (b.dropRows ids)
  | turn (b : Board) (query : Query) : Step b [] { b.clearSelection with query }
  | select (b : Board) (ids : List RunId) : Step b [] (b.select ids)
  | toggle (b : Board) (id : RunId) : Step b [] (b.toggle id).1
  | clearSelection (b : Board) : Step b [] b.clearSelection
  | openDetail (b : Board) (id : RunId) : Step b [] (b.openDetail id).1
  | closeDetail (b : Board) : Step b [] b.closeDetail.1

/-! ### What small steps leave alone -/

section Frame

variable (b : Board)

@[simp] lemma receive_ids (patches : List Patch) : (b.receive patches).live.ids = b.live.ids := rfl

/-- A page that could not be fetched changes nothing but the error that stays on the board. -/
lemma failed_eq (e : RequestError) :
    b.failed e = { b with lastError := (b.failed e).lastError } := by
  unfold failed
  split <;> rfl

@[simp] lemma failed_rows (e : RequestError) : (b.failed e).rows = b.rows := by
  rw [failed_eq]

@[simp] lemma failed_live (e : RequestError) : (b.failed e).live = b.live := by
  rw [failed_eq]

/-- Selecting or deselecting a row changes nothing but the selection. -/
lemma toggle_eq (id : RunId) :
    (b.toggle id).1 = { b with selected := (b.toggle id).1.selected } := by
  unfold toggle
  split
  · rfl
  · split <;> rfl

/-- Opening the detail changes nothing else. -/
lemma openDetail_eq (id : RunId) :
    (b.openDetail id).1 = { b with detail := (b.openDetail id).1.detail } := by
  unfold openDetail
  split <;> rfl

@[simp] lemma toggle_rows (id : RunId) : (b.toggle id).1.rows = b.rows := by
  rw [toggle_eq]

@[simp] lemma toggle_live (id : RunId) : (b.toggle id).1.live = b.live := by
  rw [toggle_eq]

@[simp] lemma openDetail_rows (id : RunId) : (b.openDetail id).1.rows = b.rows := by
  rw [openDetail_eq]

@[simp] lemma openDetail_live (id : RunId) : (b.openDetail id).1.live = b.live := by
  rw [openDetail_eq]

/-- The patch that has waited longest leaves the inbox, and nothing else changes. -/
lemma nextPatch?_eq_some_iff {b b' : Board} {patch : Patch} :
    b.nextPatch? = some (patch, b') ↔ ∃ waiting, b.live.inbox = patch :: waiting ∧
      b' = { b with live := { b.live with inbox := waiting } } := by
  unfold nextPatch? Subscriptions.next?
  cases b.live.inbox with
  | nil => simp
  | cons p waiting =>
    simp only [Option.map_some, Option.some.injEq, Prod.mk.injEq, List.cons.injEq]
    constructor
    · rintro ⟨rfl, rfl⟩
      exact ⟨waiting, ⟨rfl, rfl⟩, rfl⟩
    · rintro ⟨_, ⟨rfl, rfl⟩, rfl⟩
      exact ⟨rfl, rfl⟩

end Frame

/-- Steps one after the other. -/
inductive Steps : Board → BoardLog → Board → Prop
  | refl (b : Board) : Steps b [] b
  | cons {b c d : Board} {log rest : BoardLog} (first : Step b log c) (others : Steps c rest d) :
      Steps b (log ++ rest) d

namespace Steps

variable {b c d : Board} {log rest : BoardLog}

lemma single (h : Step b log c) : Steps b log c := by
  simpa using cons h (refl c)

lemma append (h : Steps b log c) (h' : Steps c rest d) : Steps b (log ++ rest) d := by
  induction h with
  | refl => simpa using h'
  | cons first _ ih =>
    rw [List.append_assoc]
    exact cons first (ih h')

/-- What each step keeps is kept by all of them.  The relation may speak of the course. -/
lemma keep {P : Board → BoardLog → Board → Prop} (refl : ∀ b, P b [] b)
    (trans : ∀ {b c d log rest}, P b log c → P c rest d → P b (log ++ rest) d)
    (step : ∀ {b log c}, Step b log c → P b log c) (h : Steps b log c) : P b log c := by
  induction h with
  | refl b => exact refl b
  | cons first _ ih => exact trans (step first) ih

end Steps

/-! ### The courses of each operation -/

variable {b b' : Board} {log : BoardLog}

/-- What ends at once takes no step. -/
lemma steps_of_course_done {α : Type} {x y : α}
    (h : (Task.done (b, x) : BoardTask (Board × α)).Course log (b', y)) : Steps b log b' := by
  obtain ⟨rfl, heq⟩ := Task.course_done_iff.mp h
  obtain ⟨rfl, rfl⟩ := Prod.mk.inj heq
  exact .refl b'

lemma course_teardown_iff {count : Nat} :
    b.teardown.Course log (b', count) ↔
      log = releasing b.live.ids ∧ b' = b.released ∧ count = b.live.size := by
  simp only [teardown, Task.course_bind_iff, Task.pure_eq_done, Task.course_done_iff]
  constructor
  · rintro ⟨⟨live, n⟩, _, _, rfl, hlive, rfl, hend⟩
    simp only [Prod.mk.injEq] at hend
    obtain ⟨rfl, rfl⟩ := hend
    obtain ⟨rfl, rfl, rfl⟩ := Subscriptions.course_teardown_iff.mp hlive
    exact ⟨by simp, rfl, rfl⟩
  · rintro ⟨rfl, rfl, rfl⟩
    exact ⟨(.empty, b.live.size), _, [], by simp,
      Subscriptions.course_teardown_iff.mpr ⟨rfl, rfl, rfl⟩, rfl, rfl⟩

lemma course_follow (h : b.follow.Course log b') : b.Follows log b' := by
  simp only [follow, Task.course_bind_iff] at h
  obtain ⟨⟨live, report⟩, _, _, rfl, hsync, hrest⟩ := h
  obtain ⟨rest, outcome, rfl, hbatch, rfl⟩ := Subscriptions.course_sync hsync
  cases outcome with
  | ok outcomes =>
    simp only [Except.map, Task.pure_eq_done, Task.course_done_iff] at hrest
    obtain ⟨rfl, rfl⟩ := hrest
    simpa using .settled hbatch
  | error e =>
    obtain _ | ⟨arrived, hne⟩ | _ := hbatch
    simp only [Except.map, Task.course_bind_iff, course_report_iff, reporting_aborted,
      Task.pure_eq_done, Task.course_done_iff] at hrest
    obtain ⟨⟨c, count⟩, _, _, rfl, hdown, _, _, _, rfl, rfl, rfl, rfl⟩ := hrest
    obtain ⟨rfl, rfl, -⟩ := course_teardown_iff.mp hdown
    simpa [released] using (Follows.givenUp arrived hne : b.Follows _ _)

/-- What loading a page comes to: it is shown and its rows are followed, or it could not be
fetched. -/
inductive Loads (b : Board) : BoardLog → Board → Bool → Prop
  | shown {b' : Board} {rest : BoardLog} (page : Page) (arrived : List Patch)
      (follows : ((b.receive arrived).replacePage page).Follows rest b') :
      Loads b (.asked (.list b.query) ⟨.ok page, arrived⟩ :: rest) b' true
  | failed (e : RequestError) (arrived : List Patch) :
      Loads b (.asked (.list b.query) ⟨.error e, arrived⟩ :: reporting e)
        ((b.receive arrived).failed e) false

lemma course_load {shown : Bool} (h : b.load.Course log (b', shown)) : b.Loads log b' shown := by
  simp only [load, Task.course_bind_iff, course_call_iff] at h
  obtain ⟨⟨result, arrived⟩, _, _, rfl, rfl, hrest⟩ := h
  cases result with
  | ok page =>
    simp only [Task.course_bind_iff, Task.pure_eq_done, Task.course_done_iff, Prod.mk.injEq]
      at hrest
    obtain ⟨c, rest, _, rfl, hfollow, rfl, rfl, rfl⟩ := hrest
    simpa using Loads.shown page arrived (course_follow hfollow)
  | error e =>
    simp only [Task.course_bind_iff, course_report_iff, Task.pure_eq_done, Task.course_done_iff,
      Prod.mk.injEq] at hrest
    obtain ⟨_, _, _, rfl, rfl, rfl, rfl, rfl⟩ := hrest
    simpa [failed] using Loads.failed e arrived

lemma steps_of_loads {shown : Bool} (h : b.Loads log b' shown) : Steps b log b' := by
  cases h with
  | shown page arrived follows => exact .single (.load page arrived follows)
  | failed e arrived => exact .single (.fail b e arrived)

lemma course_applyPatch_iff {patch : Patch} {outcome : Subscriptions.Outcome} :
    (b.applyPatch patch).Course log (b', outcome) ↔
      log = (if (b.live.merge patch b.rows b.detail).outcome.releases then
          releasing [patch.record.id] else []) ∧
        b' = b.patched patch ∧ outcome = (b.live.merge patch b.rows b.detail).outcome := by
  simp only [applyPatch, Task.course_bind_iff]
  constructor
  · rintro ⟨⟨live, merged⟩, _, _, rfl, happly, hend⟩
    obtain ⟨rfl, rfl, rfl⟩ := Subscriptions.course_apply_iff.mp happly
    by_cases hremoved : (b.live.merge patch b.rows b.detail).outcome = .removed
    · simpa [patched, hremoved] using hend
    · simpa [patched, hremoved] using hend
  · rintro ⟨rfl, rfl, rfl⟩
    refine ⟨_, _, [], (List.append_nil _).symm,
      Subscriptions.course_apply_iff.mpr ⟨rfl, rfl, rfl⟩, ?_⟩
    by_cases hremoved : (b.live.merge patch b.rows b.detail).outcome = .removed
    · simp [patched, hremoved]
    · simp [patched, hremoved]

lemma steps_of_course_applyPatch {patch : Patch} {outcome : Subscriptions.Outcome}
    (h : (b.applyPatch patch).Course log (b', outcome)) : Steps b log b' := by
  obtain ⟨rfl, rfl, -⟩ := course_applyPatch_iff.mp h
  exact .single (.patch b patch)

lemma steps_of_course_applyAll {patches : List Patch} {count : Nat}
    (h : (b.applyAll patches).Course log (b', count)) : Steps b log b' := by
  induction patches generalizing b log count with
  | nil =>
    exact steps_of_course_done h
  | cons patch patches ih =>
    simp only [applyAll, Task.course_bind_iff, Task.pure_eq_done, Task.course_done_iff,
      Prod.mk.injEq] at h
    obtain ⟨⟨c, outcome⟩, first, _, rfl, hfirst, ⟨d, n⟩, rest, _, rfl, hrest, rfl, rfl, -⟩ := h
    simpa using (steps_of_course_applyPatch hfirst).append (ih hrest)

/-- Taking in patches asks nothing, and tells of nothing but releases. -/
lemma course_applyAll {patches : List Patch} {count : Nat}
    (h : (b.applyAll patches).Course log (b', count)) :
    (∃ ids, log = releasing ids) ∧ b' = patches.foldl patched b := by
  induction patches generalizing b log count with
  | nil =>
    obtain ⟨rfl, heq⟩ := Task.course_done_iff.mp h
    exact ⟨⟨[], rfl⟩, (Prod.mk.inj heq).1⟩
  | cons patch patches ih =>
    simp only [applyAll, Task.course_bind_iff, Task.pure_eq_done, Task.course_done_iff,
      Prod.mk.injEq] at h
    obtain ⟨⟨c, outcome⟩, first, _, rfl, hfirst, ⟨d, n⟩, rest, _, rfl, hrest, rfl, rfl, -⟩ := h
    obtain ⟨rfl, rfl, -⟩ := course_applyPatch_iff.mp hfirst
    obtain ⟨⟨ids, rfl⟩, rfl⟩ := ih hrest
    refine ⟨?_, rfl⟩
    split
    · exact ⟨patch.record.id :: ids, by simp [releasing]⟩
    · exact ⟨ids, by simp⟩

/-- The board once the patches that wait have been taken away. -/
def emptied (b : Board) : Board :=
  { b with live := { b.live with inbox := [] } }

/-! ### The courses of operations -/

/-- The board that comes of a task, whatever comes of it besides. -/
lemma course_board_iff {α : Type} {t : BoardTask (Board × α)} :
    (t >>= fun p => pure p.1 : BoardTask Board).Course log b' ↔ ∃ a, t.Course log (b', a) := by
  simp only [Task.course_bind_iff, Task.pure_eq_done, Task.course_done_iff]
  constructor
  · rintro ⟨⟨c, a⟩, first, _, rfl, ht, rfl, rfl⟩
    exact ⟨a, by rwa [List.append_nil]⟩
  · rintro ⟨a, ht⟩
    exact ⟨(b', a), log, [], (List.append_nil log).symm, ht, rfl, rfl⟩

lemma course_perform_command_iff {command : Command} :
    (b.perform (.command command)).Course log b' ↔
      ∃ outcome, (b.handle command).Course log (b', outcome) :=
  course_board_iff

lemma course_refresh {shown : Bool} (h : b.load.Course log (b', shown)) :
    (b.perform (.command .refresh)).Course log b' := by
  refine course_perform_command_iff.mpr ⟨.ok (), ?_⟩
  simp only [handle, Task.course_bind_iff, Task.pure_eq_done, Task.course_done_iff]
  exact ⟨(b', shown), log, [], (List.append_nil log).symm, h, rfl, rfl⟩

lemma course_perform_apply_iff {patch : Patch} :
    (b.perform (.apply patch)).Course log b' ↔
      log = (if (b.live.merge patch b.rows b.detail).outcome.releases then
          releasing [patch.record.id] else []) ∧ b' = b.patched patch := by
  refine course_board_iff.trans ⟨?_, ?_⟩
  · rintro ⟨_, happly⟩
    obtain ⟨hlog, hboard, -⟩ := course_applyPatch_iff.mp happly
    exact ⟨hlog, hboard⟩
  · rintro ⟨hlog, hboard⟩
    exact ⟨_, course_applyPatch_iff.mpr ⟨hlog, hboard, rfl⟩⟩

lemma course_perform_take (h : (b.perform .take).Course log b') :
    log = [] ∧ ∃ waiting, b' = { b with live := { b.live with inbox := waiting } } := by
  obtain ⟨rfl, rfl⟩ := Task.course_done_iff.mp h
  refine ⟨rfl, ?_⟩
  cases hnext : b.nextPatch? with
  | none => exact ⟨b.live.inbox, rfl⟩
  | some found =>
    obtain ⟨waiting, -, hboard⟩ := nextPatch?_eq_some_iff.mp hnext
    exact ⟨waiting, hboard⟩

lemma course_perform_drain (h : (b.perform .drain).Course log b') :
    (∃ ids, log = releasing ids) ∧ b' = b.live.inbox.foldl patched b.emptied := by
  obtain ⟨_, hdrain⟩ := course_board_iff.mp h
  exact course_applyAll hdrain

lemma course_perform_teardown_iff :
    (b.perform .teardown).Course log b' ↔ log = releasing b.live.ids ∧ b' = b.released := by
  refine course_board_iff.trans ⟨?_, ?_⟩
  · rintro ⟨_, hdown⟩
    obtain ⟨hlog, hboard, -⟩ := course_teardown_iff.mp hdown
    exact ⟨hlog, hboard⟩
  · rintro ⟨hlog, hboard⟩
    exact ⟨_, course_teardown_iff.mpr ⟨hlog, hboard, rfl⟩⟩

end RunBoard.Board
