import RunBoard.Proofs.Board.Commands

/-!
# The failures that the user is told of

A request can fail while a page is loaded, while a run is canceled and while runs are deleted, and
an action that was granted loads a page that can fail in its turn.  Whoever makes a request tells
the user of its failure, unless the request was given up; nothing else is told, neither that runs
could not be subscribed nor that an action was rejected.  A failure to load a page also stays on the
board until a page could be fetched.

`Reports` says this of the course of a step and of the boards before and after it.  Courses are put
together from those of steps, so it holds of whole histories
(`notices_eq_failures_and_lastError`).
-/

namespace RunBoard

/-! ### What is told, and what went wrong -/

/-- The text of an error that the user is to hear of: it was not the user who gave up. -/
def RequestError.complaint? (e : RequestError) : Option String :=
  if e.isAbort then none else some e.message

namespace Board

variable {b b' : Board} {log rest : BoardLog}

/-- The text that the user is told at a moment. -/
def noticeAt : Task.Moment Call Call.Answer Event → Option String
  | .told (.notify text) => some text
  | .told (.unsubscribe _) | .asked _ _ => none

/-- The text of the error with which a page, a removal or a cancellation was answered, unless the
request was given up. -/
def failureAt : Task.Moment Call Call.Answer Event → Option String
  | .asked (.list _) ⟨.error e, _⟩ => e.complaint?
  | .asked (.remove _) ⟨.error e, _⟩ => e.complaint?
  | .asked (.cancel _ _) ⟨.error e, _⟩ => e.complaint?
  | _ => none

/-- What came of asking for a page: nothing went wrong, or the text of the error.  A request that
was given up does not count. -/
def listingAt : Task.Moment Call Call.Answer Event → Option (Option String)
  | .asked (.list _) ⟨.ok _, _⟩ => some none
  | .asked (.list _) ⟨.error e, _⟩ => e.complaint?.map some
  | _ => none

/-- The texts that the user is told, in their order. -/
def notices (log : BoardLog) : List String :=
  log.filterMap noticeAt

/-- The texts of the errors of requests that were not given up, in their order. -/
def failures (log : BoardLog) : List String :=
  log.filterMap failureAt

/-- What came of asking for pages, each time that it was not given up. -/
def listings (log : BoardLog) : List (Option String) :=
  log.filterMap listingAt

/-- A moment that has nothing to do with failures and pages. -/
structure Silent (m : Task.Moment Call Call.Answer Event) : Prop where
  notice : noticeAt m = none
  failure : failureAt m = none
  listing : listingAt m = none

lemma silent_of_releasing {ids : List RunId} : ∀ m ∈ releasing ids, Silent m := by
  intro m hm
  obtain ⟨id, -, rfl⟩ := List.mem_map.mp hm
  exact ⟨rfl, rfl, rfl⟩

lemma notices_reporting (e : RequestError) : notices (reporting e) = e.complaint?.toList := by
  unfold reporting RequestError.complaint?
  split <;> rfl

lemma failures_reporting (e : RequestError) : failures (reporting e) = [] := by
  unfold reporting
  split <;> rfl

lemma listings_reporting (e : RequestError) : listings (reporting e) = [] := by
  unfold reporting
  split <;> rfl

/-! ### The courses of steps -/

/-- The user is told of the failures in a course and of nothing else, and what came of the last page
that was asked for is on the board. -/
structure Reports (b : Board) (log : BoardLog) (b' : Board) : Prop where
  notices_eq : notices log = failures log
  lastError_eq : b'.lastError = (listings log).getLast?.getD b.lastError

namespace Reports

lemma append {c : Board} (h : Reports b log c) (h' : Reports c rest b') :
    Reports b (log ++ rest) b' := by
  have hnotices := h.notices_eq
  have hnotices' := h'.notices_eq
  constructor
  · unfold notices failures at *
    rw [List.filterMap_append, List.filterMap_append, hnotices, hnotices']
  · have hlistings : listings (log ++ rest) = listings log ++ listings rest :=
      List.filterMap_append ..
    rw [h'.lastError_eq, h.lastError_eq, hlistings, List.getLast?_append, Option.getD_or]

/-- What neither fails nor asks for a page. -/
lemma silent (h : ∀ m ∈ log, Silent m) (same : b'.lastError = b.lastError) :
    Reports b log b' := by
  have hnotices : notices log = [] := List.filterMap_eq_nil_iff.mpr fun m hm => (h m hm).notice
  have hfailures : failures log = [] := List.filterMap_eq_nil_iff.mpr fun m hm => (h m hm).failure
  have hlistings : listings log = [] := List.filterMap_eq_nil_iff.mpr fun m hm => (h m hm).listing
  exact ⟨hnotices.trans hfailures.symm, by rw [hlistings, same]; rfl⟩

/-- A call that fails, and what the user is told of it. -/
lemma failing {c : Call} {answer : Call.Answer c} {e : RequestError}
    (failure : failureAt (.asked c answer) = e.complaint?)
    (lastError : b'.lastError = (listingAt (.asked c answer)).getD b.lastError) :
    Reports b (.asked c answer :: reporting e) b' := by
  constructor
  · have hnotices : notices (.asked c answer :: reporting e) = e.complaint?.toList :=
      notices_reporting e
    have hfailures : failures (.asked c answer :: reporting e) = e.complaint?.toList := by
      have hnone := failures_reporting e
      unfold failures at *
      rw [List.filterMap_cons, failure, hnone]
      cases e.complaint? <;> rfl
    rw [hnotices, hfailures]
  · have hlistings : listings (.asked c answer :: reporting e) =
        (listingAt (.asked c answer)).toList := by
      have hnone := listings_reporting e
      unfold listings at *
      rw [List.filterMap_cons, hnone]
      cases listingAt (.asked c answer) <;> rfl
    rw [lastError, hlistings]
    cases listingAt (.asked c answer) <;> rfl

/-- Following the rows reports nothing, even if the batch of subscriptions is given up. -/
lemma of_follows (h : b.Follows log b') : Reports b log b' := by
  cases h with
  | @settled rest live outcomes batch =>
    refine silent (fun m hm => ?_) rfl
    rcases List.mem_append.mp hm with hm | hm
    · exact silent_of_releasing m hm
    · cases batch with
      | idle => cases hm
      | answered =>
        obtain rfl := List.mem_singleton.mp hm
        exact ⟨rfl, rfl, rfl⟩
  | givenUp arrived hne =>
    refine silent (fun m hm => ?_) rfl
    rcases List.mem_append.mp hm with hm | hm
    · exact silent_of_releasing m hm
    · rcases List.mem_cons.mp hm with rfl | hm
      · exact ⟨rfl, rfl, rfl⟩
      · rcases List.mem_append.mp hm with hm | hm
        · exact silent_of_releasing m hm
        · exact silent_of_releasing m hm

/-- A page that was fetched takes away the error. -/
lemma loaded {page : Page} {arrived : List Patch}
    (follows : ((b.receive arrived).replacePage page).Follows rest b') :
    Reports b (.asked (.list b.query) ⟨.ok page, arrived⟩ :: rest) b' := by
  have hfetched : Reports b [.asked (.list b.query) ⟨.ok page, arrived⟩]
      ((b.receive arrived).replacePage page) := ⟨rfl, rfl⟩
  exact hfetched.append (of_follows follows)

lemma of_step (h : Step b log b') : Reports b log b' := by
  have hnothing : ∀ m ∈ ([] : BoardLog), Silent m := fun _ hm => absurd hm List.not_mem_nil
  cases h with
  | receive | empty | drop | turn | select | clearSelection | closeDetail =>
    exact silent hnothing rfl
  | patch patch =>
    refine silent (fun m hm => ?_) rfl
    -- the run of the patch is released or not
    split at hm
    · exact silent_of_releasing m hm
    · cases hm
  | take hnext =>
    obtain ⟨⟨patch, live⟩, -, heq⟩ := Option.map_eq_some_iff.mp hnext
    obtain ⟨-, rfl⟩ := Prod.mk.inj heq
    exact silent hnothing rfl
  | load page arrived follows => exact loaded follows
  | fail e arrived =>
    refine failing rfl ?_
    cases e <;> rfl
  | remove ids accepted arrived => exact ⟨rfl, rfl⟩
  | removeFailed ids e arrived => exact failing rfl rfl
  | cancel workflow id accepted arrived => exact ⟨rfl, rfl⟩
  | cancelFailed workflow id e arrived => exact failing rfl rfl
  | toggle id => exact silent hnothing (by rw [toggle_eq])
  | openDetail id => exact silent hnothing (by rw [openDetail_eq])

end Reports

/-- **Every failure is reported once, and nothing else is.**  In a history of a new board, with any
answers of the backend, the texts that the user is told are those of the errors of lists, removals
and cancellations that were not given up, in this order.  After each operation the board holds the
error of the last list that was not given up, and none if that one succeeded or there was none. -/
theorem notices_eq_failures_and_lastError {query : Query} {deeds : List Deed} {b : Board}
    (h : History (.new query) deeds b) :
    notices (logOf deeds) = failures (logOf deeds) ∧
      b.lastError = (listings (logOf deeds)).getLast?.join := by
  have hreports : Reports (.new query) (logOf deeds) b :=
    h.keep (fun _ => ⟨rfl, rfl⟩) Reports.append Reports.of_step
      fun _ => .silent silent_of_releasing rfl
  refine ⟨hreports.notices_eq, ?_⟩
  rw [hreports.lastError_eq]
  cases (listings (logOf deeds)).getLast? <;> rfl

/-- A backend that lists one page and gives up every batch of subscriptions. -/
def unfollowed (page : Page) : (c : Call) → Call.Answer c
  | .subscribeAll _ => ⟨none, []⟩
  | c => answerWith page "" c

/-- A page cannot be loaded, and then it can but its runs are not followed.  The run in flight
cannot be canceled, and the one that has ended may not be; it is deleted, and the page that is to
follow cannot be loaded.  At last a page is given up. -/
def troubledDeeds : List Deed × Board :=
  let page : Page := ⟨[.bare "a" .pending, .bare "b" .succeeded], 2⟩
  (Board.new (.of none 1 10 false)).acts [
    (.command .refresh, removing (.transport "down")), (.command .refresh, unfollowed page),
    (.command (.cancel "a"), removing (.api 503 "busy")),
    (.command (.cancel "b"), removing (.api 503 "busy")),
    (.command (.delete "b"), removing .notFound), (.command .refresh, removing .aborted)]

theorem notices_eq_failures_and_lastError_of_troubled :
    notices (logOf troubledDeeds.1) = failures (logOf troubledDeeds.1) ∧
      failures (logOf troubledDeeds.1) =
        ["transport error: down", "backend returned 503: busy", "entity not found"] ∧
      troubledDeeds.2.lastError = (listings (logOf troubledDeeds.1)).getLast?.join ∧
      listings (logOf troubledDeeds.1) =
        [some "transport error: down", none, some "entity not found"] := by
  have history : History (.new (.of none 1 10 false)) troubledDeeds.1 troubledDeeds.2 :=
    history_of_acts _ _
  obtain ⟨hnotices, hlastError⟩ := notices_eq_failures_and_lastError history
  exact ⟨hnotices, rfl, hlastError, rfl⟩

end Board

end RunBoard
