import RunBoard.Console.Overview
import RunBoard.Proofs.Course

/-!
# The two halves of the dashboard

A load waits for two requests at once.  Now and then it looks: at first whether it has been given
up, then at each request that it has no outcome of.  It ends with the first look after which it has
both outcomes, or with the first that finds it given up.

So what it ends with hangs on the looks by very little: on the first outcome of either request and
on whether the load was given up before it had both.  `Waiting.await_of_going` and
`Waiting.await_of_stopped` say this, by induction on the looks; the rest is read off the course of a
load for one answer.
-/

namespace RunBoard.Dashboard

/-! ### Waiting for both requests -/

/-- What a look at the two requests finds. -/
structure Look where
  /-- Whether the load has been given up by then. -/
  stopped : Bool
  /-- The outcome of the request for the statistics, if there is one. -/
  statistics : Option (Except RequestError Statistics)
  /-- The outcome of the request for the runs, if there is one. -/
  runs : Option (Except RequestError Page)

/-- The outcomes that a load has already. -/
structure Waiting where
  statistics : Option (Except RequestError Statistics)
  runs : Option (Except RequestError Page)

namespace Waiting

/-- A load that has no outcome yet. -/
def start : Waiting := ⟨none, none⟩

/-- Takes the outcomes that are still missing from a look. -/
def look (w : Waiting) (l : Look) : Waiting :=
  ⟨w.statistics.or l.statistics, w.runs.or l.runs⟩

/-- The results, as soon as there are both. -/
def results (w : Waiting) : Option Results :=
  w.statistics.bind fun s => w.runs.map fun r => ⟨s, r⟩

/-- The answer to the two requests after some looks; none while the load is waiting. -/
def await (w : Waiting) : List Look → Option (Option Results)
  | [] => none
  | l :: looks =>
    if l.stopped then some none
    else match (w.look l).results with
      | some r => some (some r)
      | none => (w.look l).await looks

end Waiting

/-- Gives the answer to the two requests. -/
def reply (answer : Option Results) (requests : Requests) : requests.Answer :=
  answer

/-- What is told and what is shown by a load whose requests are answered. -/
def ending (limit : Nat) (answer : Option Results) : List String × Snapshot :=
  let course := (load limit).play (reply answer)
  (Task.told course.1, course.2)

/-- What is told and what is shown by a load after some looks; none while it is waiting. -/
def loaded (limit : Nat) (looks : List Look) : Option (List String × Snapshot) :=
  (Waiting.start.await looks).map (ending limit)

/-- The outcome of the request for the statistics. -/
def statisticsOutcome (looks : List Look) : Option (Except RequestError Statistics) :=
  looks.findSome? Look.statistics

/-- The outcome of the request for the runs. -/
def runsOutcome (looks : List Look) : Option (Except RequestError Page) :=
  looks.findSome? Look.runs

/-- The load is not given up at any look. -/
def Going (looks : List Look) : Prop :=
  ∀ l ∈ looks, l.stopped = false

/-- Both requests have brought their outcomes before the load was given up, if it ever was. -/
def Answered (looks : List Look) (s : Except RequestError Statistics)
    (r : Except RequestError Page) : Prop :=
  ∃ before after, looks = before ++ after ∧ Going before ∧
    statisticsOutcome before = some s ∧ runsOutcome before = some r

/-- The load is given up at a look before which it did not have both outcomes. -/
def StoppedEarly (looks : List Look) : Prop :=
  ∃ before l after, looks = before ++ l :: after ∧ l.stopped = true ∧
    (statisticsOutcome before = none ∨ runsOutcome before = none)

variable {looks : List Look} {w : Waiting} {s : Except RequestError Statistics}
  {r : Except RequestError Page}

namespace Waiting

lemma results_eq_some_iff {both : Results} :
    w.results = some both ↔ w.statistics = some both.statistics ∧ w.runs = some both.runs := by
  obtain ⟨s, r⟩ := w
  obtain ⟨s', r'⟩ := both
  cases s <;> cases r <;> simp [results]

lemma results_eq_none_iff : w.results = none ↔ w.statistics = none ∨ w.runs = none := by
  obtain ⟨s, r⟩ := w
  cases s <;> cases r <;> simp [results]

/-- The outcomes after some looks are the first ones that were seen. -/
lemma foldl_look : looks.foldl look w =
    ⟨w.statistics.or (statisticsOutcome looks), w.runs.or (runsOutcome looks)⟩ := by
  induction looks generalizing w with
  | nil => simp [statisticsOutcome, runsOutcome]
  | cons l looks ih =>
    have hstatistics :
        statisticsOutcome (l :: looks) = l.statistics.or (statisticsOutcome looks) := by
      cases h : l.statistics <;> simp [statisticsOutcome, h]
    have hruns : runsOutcome (l :: looks) = l.runs.or (runsOutcome looks) := by
      cases h : l.runs <;> simp [runsOutcome, h]
    rw [List.foldl_cons, ih, hstatistics, hruns, ← Option.or_assoc, ← Option.or_assoc, look]

/-- Further looks do not change results that are there. -/
lemma results_foldl {both : Results} (h : w.results = some both) :
    (looks.foldl look w).results = some both := by
  obtain ⟨hs, hr⟩ := results_eq_some_iff.mp h
  rw [foldl_look, results_eq_some_iff, hs, hr]
  exact ⟨rfl, rfl⟩

/-- A load that is not given up ends with the first outcomes, as soon as it has both. -/
lemma await_of_going (hgoing : Going looks) (hw : w.results = none) :
    w.await looks = (looks.foldl look w).results.map some := by
  induction looks generalizing w with
  | nil => simp [await, hw]
  | cons l looks ih =>
    have hl : l.stopped = false := hgoing l List.mem_cons_self
    have hrest : Going looks := fun l' hl' => hgoing l' (List.mem_cons_of_mem l hl')
    rw [await, hl, List.foldl_cons]
    -- if this look brings the last outcome, the looks behind it change nothing
    cases hlook : (w.look l).results with
    | some both => simp [results_foldl hlook]
    | none => simpa using ih hrest hlook

/-- A load that has ended does not look any more. -/
lemma await_append {before after : List Look} {answer : Option Results}
    (h : w.await before = some answer) : w.await (before ++ after) = some answer := by
  induction before generalizing w with
  | nil => simp [await] at h
  | cons l before ih =>
    rw [await] at h
    rw [List.cons_append, await]
    split at h
    · rwa [if_pos ‹_›]
    · rw [if_neg ‹_›]
      cases hlook : (w.look l).results with
      | some both => simpa [hlook] using h
      | none => exact ih (by simpa [hlook] using h)

/-- A load that is given up before it has both outcomes ends with neither. -/
lemma await_of_stopped {before after : List Look} {l : Look} (hl : l.stopped = true)
    (hw : (before.foldl look w).results = none) :
    w.await (before ++ l :: after) = some none := by
  induction before generalizing w with
  | nil => simp [await, hl]
  | cons b before ih =>
    rw [List.cons_append, await]
    split
    · rfl
    · cases hlook : (w.look b).results with
      -- it cannot have ended with both outcomes, as one is still missing later
      | some both => simp [results_foldl hlook] at hw
      | none => exact ih hw

end Waiting

/-! ### What a load comes to -/

/-- What the user is told of an outcome. -/
def notice? {α : Type} : Except RequestError α → Option String
  | .ok _ => none
  | .error e => if e.isAbort then none else some e.message

/-- A request has failed without being given up. -/
def Failed {α : Type} (outcome : Except RequestError α) : Prop :=
  ∃ e, outcome = .error e ∧ e ≠ .aborted

/-- What the user is told of two outcomes: of the statistics first, then of the runs. -/
def notices (s : Except RequestError Statistics) (r : Except RequestError Page) : List String :=
  (notice? s).toList ++ (notice? r).toList

lemma notice?_isSome_iff {α : Type} {outcome : Except RequestError α} :
    (notice? outcome).isSome ↔ Failed outcome := by
  cases outcome with
  | ok a => simp [notice?, Failed]
  | error e => simp [notice?, Failed, RequestError.isAbort_iff]

lemma toList_notice? {α : Type} {outcome : Except RequestError α} : (notice? outcome).toList =
    List.map RequestError.message (match outcome with
      | .ok _ => []
      | .error e => if e.isAbort then [] else [e]) := by
  cases outcome with
  | ok a => rfl
  | error e =>
    simp only [notice?]
    split <;> rfl

lemma failures_message : (Results.failures ⟨s, r⟩).map RequestError.message = notices s r := by
  rw [notices, toList_notice?, toList_notice?, ← List.map_append]
  rfl

/-- The number of failures is that of the notices. -/
lemma failures_snapshot : (Results.mk s r).snapshot.failures = (notices s r).length := by
  rw [← failures_message, List.length_map]
  rfl

lemma length_notices_eq_two_iff : (notices s r).length = 2 ↔ Failed s ∧ Failed r := by
  rw [← notice?_isSome_iff, ← notice?_isSome_iff, notices]
  cases notice? s <;> cases notice? r <;> simp

/-- The course of a load is settled by the answer to its requests. -/
lemma course_load {limit : Nat} {log : List (Task.Moment Requests Requests.Answer String)}
    {shown : Snapshot} (h : (load limit).Course log shown) : ∃ answer : Option Results,
      log = .asked ⟨query limit⟩ answer ::
        ((answer.getD abandoned).failures.map RequestError.message).map .told ∧
      shown = (answer.getD abandoned).snapshot := by
  obtain ⟨answer, first, rest, rfl, hasked, htold⟩ := Task.course_bind_iff.mp h
  obtain ⟨u, tellings, last, rfl, htellings, hdone⟩ := Task.course_bind_iff.mp htold
  obtain rfl := Task.course_query_iff.mp hasked
  obtain rfl := Task.course_emitAll_iff.mp htellings
  obtain ⟨rfl, rfl⟩ := Task.course_done_iff.mp hdone
  exact ⟨answer, by simp, rfl⟩

lemma ending_eq {limit : Nat} {answer : Option Results} : ending limit answer =
    ((answer.getD abandoned).failures.map RequestError.message,
      (answer.getD abandoned).snapshot) := by
  rcases hplay : (load limit).play (reply answer) with ⟨log, shown⟩
  obtain ⟨hcourse, hanswers⟩ := Task.course_of_play hplay
  obtain ⟨given, rfl, rfl⟩ := course_load hcourse
  obtain rfl : given = answer := hanswers ⟨query limit⟩ given List.mem_cons_self
  rw [ending, hplay]
  exact congrArg (·, _) (Task.told_map_told _)

/-- A load that is answered in time shows of each half what its own request has brought. -/
lemma loaded_of_answered {limit : Nat} (h : Answered looks s r) :
    loaded limit looks = some (notices s r, (Results.mk s r).snapshot) := by
  obtain ⟨before, after, rfl, hgoing, hs, hr⟩ := h
  have hbefore : Waiting.start.await before = some (some ⟨s, r⟩) := by
    rw [Waiting.await_of_going hgoing rfl, Waiting.foldl_look, hs, hr]
    rfl
  rw [loaded, Waiting.await_append hbefore, Option.map_some, ending_eq, ← failures_message]
  rfl

/-- A load that is given up in time tells nothing and shows nothing. -/
lemma loaded_of_stoppedEarly {limit : Nat} (hstopped : StoppedEarly looks) :
    loaded limit looks =
      some ([], { statistics := none, latest := [], total := 0, failures := 0 }) := by
  obtain ⟨before, l, after, rfl, hl, hmissing⟩ := hstopped
  have hresults : (before.foldl Waiting.look .start).results = none := by
    rw [Waiting.foldl_look, Waiting.results_eq_none_iff]
    simpa [Waiting.start] using hmissing
  rw [loaded, Waiting.await_of_stopped hl hresults]
  exact congrArg some ending_eq

end RunBoard.Dashboard

namespace RunBoard.Console

open RunBoard.Dashboard

variable {limit : Nat} {json : Bool}
  {log : List (Task.Moment Backend.Operation Backend.Operation.Result Line)}

/-! ### The command -/

lemma course_run_emitAll {Q : Type} {A : Q → Type} {α : Type} {answer : (q : Q) → Course (A q)}
    {hear : String → Course Unit} {lines : String → List Line}
    (hhear : ∀ e log u, (hear e).Course log u → log = (lines e).map .told) {es : List String}
    {a b : α} (h : (Task.run answer hear (Task.emitAll es >>= fun _ => .done a)).Course log b) :
    log = (es.flatMap lines).map .told ∧ b = a := by
  induction es generalizing log with
  | nil => exact Task.course_done_iff.mp h
  | cons e es ih =>
    obtain ⟨u, first, rest, rfl, hfirst, hrest⟩ := Task.course_bind_iff.mp h
    obtain rfl := hhear e first u hfirst
    obtain ⟨rfl, rfl⟩ := ih hrest
    simp

/-- What the command writes of a failure on the way. -/
def noticeLines (json : Bool) (description : String) : List Line :=
  if json then [] else [failureNotice description]

/-- The lines that show a dashboard. -/
def resultLines (json : Bool) (shown : Snapshot) : List Line :=
  if json then [.output shown.summary.pretty] else shown.lines.map .output

lemma course_run_load {shown : Snapshot} (h : ((load limit).run askBoth fun description =>
      if json then pure () else Task.emit (failureNotice description)).Course log shown) :
    ∃ s r, log = .asked .statistics s :: .asked (.list (query limit)) r ::
        ((notices s r).flatMap (noticeLines json)).map .told ∧
      shown = (Results.mk s r).snapshot := by
  obtain ⟨answer, first, rest, rfl, hasked, htold⟩ := Task.course_bind_iff.mp h
  obtain ⟨s, asked, later, rfl, hstatistics, hruns⟩ := Task.course_bind_iff.mp hasked
  obtain ⟨r, asked', last, rfl, hlist, hdone⟩ := Task.course_bind_iff.mp hruns
  obtain rfl := Task.course_query_iff.mp hstatistics
  obtain rfl := Task.course_query_iff.mp hlist
  obtain ⟨rfl, rfl⟩ := Task.course_done_iff.mp hdone
  -- with JSON nothing is written on the way, and otherwise one line for each notice
  have hhear : ∀ description (log : List (Task.Moment Backend.Operation _ Line)) (u : Unit),
      (if json then pure () else Task.emit (failureNotice description) : Course Unit).Course log u →
        log = (noticeLines json description).map .told := by
    intro description log u hwritten
    cases json with
    | true => exact (Task.course_done_iff.mp hwritten).1
    | false => exact Task.course_emit_iff.mp hwritten
  obtain ⟨rfl, rfl⟩ := course_run_emitAll hhear htold
  exact ⟨s, r, by simp [← failures_message], rfl⟩

/-- How the command ends. -/
def exit (shown : Snapshot) : Except Trouble Unit :=
  if shown.failures = 2 then .error (.refused "Dashboard unavailable: backend requests failed")
  else .ok ()

lemma course_exit {shown : Snapshot} {result : Except Trouble Unit}
    (h : (if shown.failures = 2 then
        pure (.error (.refused "Dashboard unavailable: backend requests failed"))
      else pure (.ok ()) : Course (Except Trouble Unit)).Course log result) :
    log = [] ∧ result = exit shown := by
  by_cases hfailures : shown.failures = 2
  · rw [if_pos hfailures] at h
    rw [exit, if_pos hfailures]
    exact Task.course_done_iff.mp h
  · rw [if_neg hfailures] at h
    rw [exit, if_neg hfailures]
    exact Task.course_done_iff.mp h

lemma course_dashboard {result : Except Trouble Unit}
    (h : (dashboard limit json).Course log result) : ∃ s r,
      log = .asked .statistics s :: .asked (.list (query limit)) r ::
        ((notices s r).flatMap (noticeLines json) ++
          resultLines json (Results.mk s r).snapshot).map .told ∧
      result = exit (Results.mk s r).snapshot := by
  obtain ⟨shown, first, rest, rfl, hload, hend⟩ := Task.course_bind_iff.mp h
  obtain ⟨s, r, rfl, rfl⟩ := course_run_load hload
  have hwritten : rest = (resultLines json (Results.mk s r).snapshot).map .told ∧
      result = exit (Results.mk s r).snapshot := by
    cases json with
    | true =>
      obtain ⟨u, lines, last, rfl, hlines, hlast⟩ := Task.course_bind_iff.mp hend
      obtain rfl := Task.course_emit_iff.mp hlines
      obtain ⟨rfl, rfl⟩ := course_exit hlast
      exact ⟨rfl, rfl⟩
    | false =>
      obtain ⟨u, lines, last, rfl, hlines, hlast⟩ := Task.course_bind_iff.mp hend
      obtain rfl := Task.course_emitAll_iff.mp hlines
      obtain ⟨rfl, rfl⟩ := course_exit hlast
      exact ⟨List.append_nil _, rfl⟩
  obtain ⟨rfl, rfl⟩ := hwritten
  exact ⟨s, r, by simp, rfl⟩

/-- **Each half of the dashboard shows what its own request has brought.**  If both requests answer
before the load is given up, the statistics come from the first outcome alone and the runs and
their number from the second; the failures are those that are told, the one of the statistics
first.  So two loads that agree on one outcome agree on that half.  A load that is given up before
both have answered shows and tells nothing.  The command fails exactly if both requests do. -/
theorem dashboard_halves_apart (limit : Nat) :
    (∀ looks s r, Answered looks s r → loaded limit looks = some (notices s r,
      { statistics := s.toOption
        latest := (r.toOption.map Page.items).getD []
        total := (r.toOption.map Page.total).getD 0
        failures := (notices s r).length })) ∧
    (∀ limit' looks looks' s s' r r' told told' shown shown',
      Answered looks s r → Answered looks' s' r' →
      loaded limit looks = some (told, shown) → loaded limit' looks' = some (told', shown') →
        (s = s' → shown.statistics = shown'.statistics) ∧
        (r = r' → shown.latest = shown'.latest ∧ shown.total = shown'.total)) ∧
    (∀ looks, StoppedEarly looks → loaded limit looks = some ([],
      { statistics := none, latest := [], total := 0, failures := 0 })) ∧
    ∀ json log result, (dashboard limit json).Course log result → ∃ s r,
      log = .asked .statistics s :: .asked (.list (query limit)) r ::
        ((notices s r).flatMap (noticeLines json) ++
          resultLines json (Results.mk s r).snapshot).map .told ∧
      (result = .error (.refused "Dashboard unavailable: backend requests failed") ↔
        Failed s ∧ Failed r) ∧
      (result = .ok () ↔ ¬ (Failed s ∧ Failed r)) := by
  refine ⟨?answered, ?agree, fun looks => loaded_of_stoppedEarly, ?command⟩
  case answered =>
    intro looks s r h
    rw [loaded_of_answered h, ← failures_snapshot]
    rfl
  case agree =>
    intro limit' looks looks' s s' r r' told told' shown shown' h h' hloaded hloaded'
    obtain ⟨-, rfl⟩ := Prod.mk.inj (Option.some.inj ((loaded_of_answered h).symm.trans hloaded))
    obtain ⟨-, rfl⟩ := Prod.mk.inj (Option.some.inj ((loaded_of_answered h').symm.trans hloaded'))
    constructor
    · rintro rfl
      rfl
    · rintro rfl
      exact ⟨rfl, rfl⟩
  case command =>
    intro json log result h
    obtain ⟨s, r, hlog, rfl⟩ := course_dashboard h
    refine ⟨s, r, hlog, ?_⟩
    rw [← length_notices_eq_two_iff, ← failures_snapshot, exit]
    split <;> simp_all

/-- The runs fail and the statistics come later; the load is given up when only the statistics are
there; and the command without a connection. -/
theorem dashboard_halves_apart_of_outage :
    loaded 15 [⟨false, none, some (.error (.transport "down"))⟩, ⟨false, some (.ok .zero), none⟩] =
      some (["transport error: down"], ⟨some .zero, [], 0, 1⟩) ∧
    loaded 15 [⟨false, some (.ok .zero), none⟩, ⟨true, none, some (.ok ⟨[], 0⟩)⟩] =
      some ([], ⟨none, [], 0, 0⟩) ∧
    ((dashboard 15 true).play (Backend.Operation.failed · (.transport "down"))).2 =
      .error (.refused "Dashboard unavailable: backend requests failed") := by
  obtain ⟨hanswered, -, hstopped, hcommand⟩ := dashboard_halves_apart 15
  refine ⟨?outage, ?stopped, ?offline⟩
  case outage =>
    exact hanswered _ (.ok .zero) (.error (.transport "down"))
      ⟨_, [], (List.append_nil _).symm, by simp [Going], rfl, rfl⟩
  case stopped => exact hstopped _ ⟨[_], _, [], rfl, rfl, .inr rfl⟩
  case offline =>
    rcases hplay : (dashboard 15 true).play (Backend.Operation.failed · (.transport "down"))
      with ⟨log, result⟩
    obtain ⟨hcourse, hanswers⟩ := Task.course_of_play hplay
    obtain ⟨s, r, rfl, hresult, -⟩ := hcommand true log result hcourse
    have hs : s = .error (.transport "down") := hanswers .statistics s List.mem_cons_self
    have hr : r = .error (.transport "down") := hanswers (.list (query 15)) r (by simp)
    exact hresult.mpr ⟨⟨_, hs, by simp⟩, ⟨_, hr, by simp⟩⟩

end RunBoard.Console
