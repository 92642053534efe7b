import Mathlib.Data.List.Basic
import Mathlib.Data.List.Dedup
import RunBoard.Proofs.Course
import RunBoard.Board.Subscriptions

/-!
# What subscribing and releasing come to

The courses of the tasks on subscriptions.  A batch asks at most one question; `SubscribesAll` tells
its three endings apart, and `course_subscribeAll_iff` says that there are no others.  `course_sync`
does the same for bringing the subscriptions in line with a page: what is stale is released first,
and a batch for what is missing follows.
-/

namespace RunBoard

/-- What is asked and told in the course of a task of a board. -/
abbrev BoardLog := List (Task.Moment Call Call.Answer Event)

/-- The course of releasing runs. -/
def releasing (ids : List RunId) : BoardLog :=
  ids.map fun id => .told (.unsubscribe id)

/-- The course of telling the user of a failed request. -/
def reporting (e : RequestError) : BoardLog :=
  if e.isAbort then [] else [.told (.notify e.message)]

@[simp] lemma reporting_aborted : reporting .aborted = [] := rfl

@[simp] lemma course_report_iff {e : RequestError} {log : BoardLog} {u : Unit} :
    (report e).Course log u ↔ log = reporting e := by
  unfold report reporting
  split <;> simp

@[simp] lemma told_releasing (ids : List RunId) :
    Task.told (releasing ids) = ids.map .unsubscribe := by
  induction ids with
  | nil => rfl
  | cons id ids ih => exact congrArg (.unsubscribe id :: ·) ih

@[simp] lemma course_call_iff {c : Call} {log : BoardLog} {answer : Call.Answer c} :
    (call c).Course log answer ↔ log = [.asked c answer] := by
  simp [call]

lemma nodup_eraseDups {α : Type} [BEq α] [LawfulBEq α] (l : List α) : l.eraseDups.Nodup := by
  induction h : l.length using Nat.strongRecOn generalizing l with
  | ind n ih =>
    cases l with
    | nil => simp
    | cons a as =>
      rw [List.eraseDups_cons, List.nodup_cons]
      have hlt : (as.filter fun b => !b == a).length < n := by
        subst h
        exact Nat.lt_succ_of_le (List.length_filter_le _ _)
      exact ⟨by simp, ih _ hlt _ rfl⟩

namespace Subscriptions

variable {s s' : Subscriptions} {ids : List RunId} {rows : List Run} {id : RunId} {log : BoardLog}

@[simp] lemma empty_ids : empty.ids = [] := rfl

@[simp] lemma receive_ids (s : Subscriptions) (patches : List Patch) :
    (s.receive patches).ids = s.ids := rfl

/-! ### The runs that are missing, and the outcomes of a batch -/

@[simp] lemma mem_missing : id ∈ s.missing ids ↔ id ∈ ids ∧ id ∉ s := by
  simp [missing]

lemma nodup_missing (s : Subscriptions) (ids : List RunId) : (s.missing ids).Nodup :=
  nodup_eraseDups _

/-- The outcomes of a batch, given the result for each of its runs. -/
def outcomesOf (result : RunId → Except RequestError Bool) (pending : List RunId) : Outcomes :=
  pending.map fun id => (id, (result id).map fun _ => ())

@[simp] lemma isOk_map {ε α β : Type} (f : α → β) (x : Except ε α) : (x.map f).isOk = x.isOk := by
  cases x <;> rfl

lemma mem_settle {outcomes : Outcomes} :
    id ∈ s.settle outcomes ↔ id ∈ s ∨ ∃ outcome, (id, outcome) ∈ outcomes ∧ outcome.isOk := by
  unfold settle
  induction outcomes generalizing s with
  | nil => simp
  | cons o outcomes ih =>
    obtain ⟨j, outcome⟩ := o
    rw [List.foldl_cons, ih]
    by_cases hok : outcome.isOk
    · simp only [hok, if_true, mem_insert, List.mem_cons, Prod.mk.injEq]
      constructor
      · rintro ((h | rfl) | ⟨o, ho, hook⟩)
        · exact Or.inl h
        · exact Or.inr ⟨outcome, Or.inl ⟨rfl, rfl⟩, hok⟩
        · exact Or.inr ⟨o, Or.inr ho, hook⟩
      · rintro (h | ⟨o, ⟨rfl, rfl⟩ | ho, hook⟩)
        · exact Or.inl (Or.inl h)
        · exact Or.inl (Or.inr rfl)
        · exact Or.inr ⟨o, ho, hook⟩
    · simp only [hok, List.mem_cons, Prod.mk.injEq]
      constructor
      · rintro (h | ⟨o, ho, hook⟩)
        · exact Or.inl (by simpa using h)
        · exact Or.inr ⟨o, Or.inr ho, hook⟩
      · rintro (h | ⟨o, ⟨rfl, rfl⟩ | ho, hook⟩)
        · exact Or.inl (by simpa using h)
        · exact absurd hook hok
        · exact Or.inr ⟨o, ho, hook⟩

@[simp] lemma mem_settle_outcomesOf {result : RunId → Except RequestError Bool}
    {pending : List RunId} :
    id ∈ s.settle (outcomesOf result pending) ↔ id ∈ s ∨ id ∈ pending ∧ (result id).isOk := by
  rw [mem_settle]
  refine or_congr_right ?_
  simp only [outcomesOf, List.mem_map, Prod.mk.injEq]
  constructor
  · rintro ⟨_, ⟨j, hj, rfl, rfl⟩, hok⟩
    exact ⟨hj, by simpa using hok⟩
  · rintro ⟨hid, hok⟩
    exact ⟨_, ⟨id, hid, rfl, rfl⟩, by simpa using hok⟩

/-! ### Courses -/

/-- The endings of subscribing all runs among `ids`: there is nothing to do, the batch is given up,
or it is answered. -/
inductive SubscribesAll (s : Subscriptions) (ids : List RunId) :
    BoardLog → Subscriptions → Except RequestError Outcomes → Prop
  | idle (hnil : s.missing ids = []) : SubscribesAll s ids [] s (.ok [])
  | givenUp (arrived : List Patch) (hne : s.missing ids ≠ []) :
      SubscribesAll s ids
        (.asked (.subscribeAll (s.missing ids)) ⟨none, arrived⟩ :: releasing (s.missing ids))
        (s.receive arrived) (.error .aborted)
  | answered (result : RunId → Except RequestError Bool) (arrived : List Patch)
      (hne : s.missing ids ≠ []) :
      SubscribesAll s ids [.asked (.subscribeAll (s.missing ids)) ⟨some result, arrived⟩]
        ((s.receive arrived).settle (outcomesOf result (s.missing ids)))
        (.ok (outcomesOf result (s.missing ids)))

lemma course_subscribeAll_iff {outcome : Except RequestError Outcomes} :
    (s.subscribeAll ids).Course log (s', outcome) ↔ s.SubscribesAll ids log s' outcome := by
  unfold subscribeAll
  by_cases hnil : s.missing ids = []
  · simp only [hnil, List.isEmpty_nil, if_true, Task.pure_eq_done, Task.course_done_iff,
      Prod.mk.injEq]
    constructor
    · rintro ⟨rfl, rfl, rfl⟩
      exact .idle hnil
    · rintro (_ | ⟨_, hne⟩ | ⟨_, _, hne⟩)
      · exact ⟨rfl, rfl, rfl⟩
      · exact absurd hnil hne
      · exact absurd hnil hne
  · have hempty : (s.missing ids).isEmpty = false := by simpa using hnil
    simp only [hempty, Bool.false_eq_true, if_false, Task.course_bind_iff, course_call_iff]
    constructor
    · rintro ⟨⟨result, arrived⟩, _, rest, rfl, rfl, hrest⟩
      cases result with
      | none =>
        simp only [Task.course_bind_iff, Task.course_emitAll_iff, Task.pure_eq_done,
          Task.course_done_iff, Prod.mk.injEq] at hrest
        obtain ⟨_, first, _, rfl, rfl, rfl, rfl, rfl⟩ := hrest
        have hlog : SubscribesAll s ids _ _ _ := .givenUp arrived hnil
        simpa [releasing, Function.comp_def] using hlog
      | some result =>
        simp only [Task.pure_eq_done, Task.course_done_iff, Prod.mk.injEq] at hrest
        obtain ⟨rfl, rfl, rfl⟩ := hrest
        exact .answered result arrived hnil
    · -- each ending is the course for its answer
      rintro (hnil' | ⟨arrived, _⟩ | ⟨result, arrived, _⟩)
      · exact absurd hnil' hnil
      · refine ⟨⟨none, arrived⟩, _, releasing (s.missing ids), rfl, rfl, ?_⟩
        simp [Task.course_bind_iff, releasing, Function.comp_def]
      · exact ⟨⟨some result, arrived⟩, _, [], rfl, rfl, by simp [outcomesOf]⟩

@[simp] lemma course_release_iff {was : Bool} :
    (s.release id).Course log (s', was) ↔
      if id ∈ s then log = releasing [id] ∧ s' = s.erase id ∧ was = true
      else log = [] ∧ s' = s ∧ was = false := by
  unfold release
  split
  · simp only [Task.course_bind_iff, Task.course_emit_iff, Task.pure_eq_done, Task.course_done_iff,
      Prod.mk.injEq, releasing, List.map_cons, List.map_nil]
    constructor
    · rintro ⟨_, _, _, rfl, rfl, rfl, rfl, rfl⟩
      exact ⟨rfl, rfl, rfl⟩
    · rintro ⟨rfl, rfl, rfl⟩
      exact ⟨(), _, _, rfl, rfl, rfl, rfl, rfl⟩
  · simp

@[simp] lemma course_releaseAll_iff {count : Nat} :
    s.releaseAll.Course log (s', count) ↔
      log = releasing s.ids ∧ s' = { empty with inbox := s.inbox } ∧ count = s.size := by
  simp only [releaseAll, Task.course_bind_iff, Task.course_emitAll_iff, Task.pure_eq_done,
    Task.course_done_iff, Prod.mk.injEq, releasing]
  constructor
  · rintro ⟨_, _, _, rfl, rfl, rfl, rfl, rfl⟩
    simp [Function.comp_def]
  · rintro ⟨rfl, rfl, rfl⟩
    exact ⟨(), _, [], by simp, rfl, rfl, rfl, rfl⟩

@[simp] lemma course_teardown_iff {count : Nat} :
    s.teardown.Course log (s', count) ↔
      log = releasing s.ids ∧ s' = empty ∧ count = s.size := by
  simp only [teardown, Task.course_bind_iff, Task.course_emitAll_iff, Task.pure_eq_done,
    Task.course_done_iff, Prod.mk.injEq, releasing]
  constructor
  · rintro ⟨_, _, _, rfl, rfl, rfl, rfl, rfl⟩
    simp [Function.comp_def]
  · rintro ⟨rfl, rfl, rfl⟩
    exact ⟨(), _, [], by simp, rfl, rfl, rfl, rfl⟩

lemma course_apply_iff {patch : Patch} {detail : Detail} {merged : Merged} :
    (s.apply patch rows detail).Course log (s', merged) ↔
      log = (if (s.merge patch rows detail).outcome.releases then
          releasing [patch.record.id] else []) ∧
        s' = (if (s.merge patch rows detail).outcome.releases then s.erase patch.record.id else s) ∧
        merged = s.merge patch rows detail := by
  unfold apply
  by_cases hreleases : (s.merge patch rows detail).outcome.releases = true
  · simp only [hreleases, if_true, Task.course_bind_iff, Task.course_emit_iff, Task.pure_eq_done,
      Task.course_done_iff, Prod.mk.injEq, releasing, List.map_cons, List.map_nil]
    constructor
    · rintro ⟨_, _, _, rfl, rfl, rfl, rfl, rfl⟩
      exact ⟨rfl, rfl, rfl⟩
    · rintro ⟨rfl, rfl, rfl⟩
      exact ⟨(), _, _, rfl, rfl, rfl, rfl, rfl⟩
  · simp [hreleases]

/-! ### Keeping in line with a page -/

/-- The subscribed runs that a page does not show as in flight. -/
def stale (s : Subscriptions) (rows : List Run) : List RunId :=
  s.ids.filter fun id => !wants rows id

lemma nodup_filter_wants (s : Subscriptions) (rows : List Run) :
    (s.ids.filter (wants rows)).Nodup :=
  s.nodup.filter _

/-- The subscriptions of the runs that a page shows as in flight. -/
def keep (s : Subscriptions) (rows : List Run) : Subscriptions :=
  ⟨s.ids.filter (wants rows), s.inbox, s.nodup_filter_wants rows⟩

/-- The runs in flight on a page. -/
def wanted (rows : List Run) : List RunId :=
  (rows.filter Run.isInFlight).map Run.id

lemma wants_iff : wants rows id = true ↔ ∃ r ∈ rows, r.id = id ∧ r.isInFlight = true := by
  simp [wants]

lemma mem_wanted : id ∈ wanted rows ↔ wants rows id = true := by
  rw [wants_iff]
  simp only [wanted, List.mem_map, List.mem_filter]
  constructor
  · rintro ⟨r, ⟨hr, hflight⟩, rfl⟩
    exact ⟨r, hr, rfl, hflight⟩
  · rintro ⟨r, hr, rfl, hflight⟩
    exact ⟨r, ⟨hr, hflight⟩, rfl⟩

@[simp] lemma mem_keep : id ∈ s.keep rows ↔ id ∈ s ∧ wants rows id = true := by
  simp [mem_def, keep]

@[simp] lemma mem_stale : id ∈ s.stale rows ↔ id ∈ s ∧ wants rows id = false := by
  simp [mem_def, stale]

/-- A run that a page shows as in flight is kept, or it is missing. -/
lemma mem_keep_or_missing (h : wants rows id = true) :
    id ∈ s.keep rows ∨ id ∈ (s.keep rows).missing (wanted rows) := by
  by_cases hkept : id ∈ s.keep rows
  · exact Or.inl hkept
  · exact Or.inr (mem_missing.mpr ⟨mem_wanted.mpr h, hkept⟩)

lemma course_sync {report : Except RequestError SyncReport}
    (h : (s.sync rows).Course log (s', report)) :
    ∃ rest outcome, log = releasing (s.stale rows) ++ rest ∧
      (s.keep rows).SubscribesAll (wanted rows) rest s' outcome ∧
      report = outcome.map fun outcomes =>
        ⟨outcomes.countP (·.2.isOk), (s.stale rows).length, outcomes.countP (!·.2.isOk)⟩ := by
  simp only [sync, Task.course_bind_iff, Task.course_emitAll_iff] at h
  obtain ⟨_, _, _, rfl, rfl, ⟨live, outcome⟩, rest, _, rfl, hbatch, hend⟩ := h
  simp only [Task.pure_eq_done, Task.course_done_iff, Prod.mk.injEq] at hend
  obtain ⟨rfl, rfl, rfl⟩ := hend
  refine ⟨rest, outcome, ?_, course_subscribeAll_iff.mp hbatch, rfl⟩
  simp [releasing, stale, Function.comp_def]

end Subscriptions

end RunBoard
