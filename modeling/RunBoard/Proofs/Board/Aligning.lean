import Mathlib.Data.Finset.Card
import Mathlib.Data.Finset.Dedup
import Mathlib.Data.Finset.SDiff
import RunBoard.Proofs.Board.Steps

/-!
# Subscriptions are brought in line with a page

What `sync` asks and tells, and what it leaves, in terms of two sets: the runs that are subscribed,
and those that the page shows as in flight.  The first without the second are given back, the second
without the first are asked for, and the batch decides which of these come in.

A list `Enumerates` a set if it names each member once.  The courses of `sync` consist of the lists
`stale` and `missing`, which enumerate the two differences; the numbers that are reported are their
lengths, and the lengths of the two parts that the results divide the second one into.
-/

namespace RunBoard.Subscriptions

variable {s s' : Subscriptions} {rows : List Run} {id : RunId} {ids : List RunId} {log : BoardLog}

/-! ### The sets -/

/-- The runs that are subscribed. -/
def runs (s : Subscriptions) : Finset RunId :=
  s.ids.toFinset

/-- The runs that a page shows as in flight. -/
def inFlight (rows : List Run) : Finset RunId :=
  (wanted rows).toFinset

@[simp] lemma mem_runs : id ∈ s.runs ↔ id ∈ s := List.mem_toFinset

@[simp] lemma mem_inFlight : id ∈ inFlight rows ↔ wants rows id = true :=
  List.mem_toFinset.trans mem_wanted

lemma runs_keep (s : Subscriptions) (rows : List Run) :
    (s.keep rows).runs = s.runs ∩ inFlight rows := by
  ext id
  simp

/-- A list enumerates a set if it names each member exactly once. -/
structure Enumerates (ids : List RunId) (runs : Finset RunId) : Prop where
  nodup : ids.Nodup
  mem_iff : ∀ id, id ∈ ids ↔ id ∈ runs

namespace Enumerates

variable {runs runs' : Finset RunId} {ids' : List RunId}

lemma card (h : Enumerates ids runs) : runs.card = ids.length := by
  have hruns : runs = ids.toFinset := by
    ext id
    rw [List.mem_toFinset, h.mem_iff]
  rw [hruns, List.toFinset_card_of_nodup h.nodup]

lemma countP (h : Enumerates ids runs) (p : RunId → Bool) :
    ids.countP p = (runs.filter fun id => p id = true).card := by
  have hfilter : Enumerates (ids.filter p) (runs.filter fun id => p id = true) :=
    ⟨h.nodup.filter p, fun id => by simp [h.mem_iff]⟩
  rw [hfilter.card, List.countP_eq_length_filter]

lemma append (h : Enumerates ids runs) (h' : Enumerates ids' runs')
    (hdisjoint : Disjoint runs runs') : Enumerates (ids ++ ids') (runs ∪ runs') := by
  refine ⟨List.nodup_append.mpr ⟨h.nodup, h'.nodup, ?_⟩, fun id => ?_⟩
  · rintro id hid _ hid' rfl
    exact Finset.disjoint_left.mp hdisjoint ((h.mem_iff id).mp hid) ((h'.mem_iff id).mp hid')
  · rw [List.mem_append, Finset.mem_union, h.mem_iff, h'.mem_iff]

end Enumerates

lemma enumerates_stale (s : Subscriptions) (rows : List Run) :
    Enumerates (s.stale rows) (s.runs \ inFlight rows) :=
  ⟨s.nodup.filter _, fun id => by simp⟩

lemma enumerates_missing (s : Subscriptions) (rows : List Run) :
    Enumerates ((s.keep rows).missing (wanted rows)) (inFlight rows \ s.runs) := by
  refine ⟨nodup_missing _ _, fun id => ?_⟩
  simp only [mem_missing, mem_wanted, mem_keep, Finset.mem_sdiff, mem_inFlight, mem_runs]
  -- a wanted run is kept exactly if it is subscribed
  constructor
  · rintro ⟨hwants, hnew⟩
    exact ⟨hwants, fun hlive => hnew ⟨hlive, hwants⟩⟩
  · rintro ⟨hwants, hnew⟩
    exact ⟨hwants, fun hkept => hnew hkept.1⟩

lemma missing_eq_nil_iff : (s.keep rows).missing (wanted rows) = [] ↔ inFlight rows ⊆ s.runs := by
  have hmissing := (s.enumerates_missing rows).mem_iff
  rw [← Finset.sdiff_eq_empty_iff_subset, List.eq_nil_iff_forall_not_mem,
    Finset.eq_empty_iff_forall_notMem]
  exact forall_congr' fun id => not_congr (hmissing id)

/-! ### What is asked and told -/

/-- The runs that are asked for in a moment. -/
def requestsOf : Task.Moment Call Call.Answer Event → List RunId
  | .asked (.subscribe id) _ => [id]
  | .asked (.subscribeAll ids) _ => ids
  | _ => []

/-- The runs that are given back in a moment. -/
def returnsOf : Task.Moment Call Call.Answer Event → List RunId
  | .told (.unsubscribe id) => [id]
  | _ => []

/-- The runs that are asked for, once for each time. -/
def requested (log : BoardLog) : List RunId :=
  log.flatMap requestsOf

/-- The runs that are given back, once for each time. -/
def returned (log : BoardLog) : List RunId :=
  log.flatMap returnsOf

lemma requested_append (log log' : BoardLog) :
    requested (log ++ log') = requested log ++ requested log' :=
  List.flatMap_append

lemma returned_append (log log' : BoardLog) :
    returned (log ++ log') = returned log ++ returned log' :=
  List.flatMap_append

@[simp] lemma requested_releasing (ids : List RunId) : requested (releasing ids) = [] := by
  simp [requested, releasing, requestsOf]

@[simp] lemma returned_releasing (ids : List RunId) : returned (releasing ids) = ids := by
  simp [returned, releasing, returnsOf, List.flatMap_map]

/-- A batch asks for its runs; what is given back after it are the runs that are released. -/
lemma requested_batch (batch ids : List RunId) (answer : Call.Answer (.subscribeAll batch)) :
    requested (.asked (.subscribeAll batch) answer :: releasing ids) = batch ∧
      returned (.asked (.subscribeAll batch) answer :: releasing ids) = ids :=
  ⟨(congrArg (batch ++ ·) (requested_releasing ids)).trans (List.append_nil batch),
    returned_releasing ids⟩

/-! ### The endings -/

/-- The numbers of good and of bad outcomes of a batch. -/
lemma countP_outcomesOf (result : RunId → Except RequestError Bool) (pending : List RunId) :
    (outcomesOf result pending).countP (·.2.isOk) = pending.countP (fun id => (result id).isOk) ∧
      (outcomesOf result pending).countP (!·.2.isOk) =
        pending.countP (fun id => !(result id).isOk) := by
  unfold outcomesOf
  rw [List.countP_map, List.countP_map]
  constructor <;> exact List.countP_congr fun id _ => by simp

/-- The runs of a set with a good result. -/
def good (result : RunId → Except RequestError Bool) (runs : Finset RunId) : Finset RunId :=
  runs.filter fun id => (result id).isOk = true

/-- The runs of a set with a bad result. -/
def bad (result : RunId → Except RequestError Bool) (runs : Finset RunId) : Finset RunId :=
  runs.filter fun id => (result id).isOk = false

lemma card_good_add_card_bad (result : RunId → Except RequestError Bool) (runs : Finset RunId) :
    (good result runs).card + (bad result runs).card = runs.card := by
  have hparts := Finset.card_filter_add_card_filter_not (s := runs) fun id =>
    (result id).isOk = true
  simpa [good, bad] using hparts

lemma good_of_card_bad {result : RunId → Except RequestError Bool} {runs : Finset RunId}
    (h : (bad result runs).card = 0) : good result runs = runs := by
  rw [bad, Finset.card_eq_zero, Finset.filter_eq_empty_iff] at h
  exact Finset.filter_true_of_mem fun id hid => by simpa using h hid

/-- What bringing the subscriptions in line with a page can come to: there is nothing to ask for,
the batch is given up, or it is answered. -/
inductive Aligns (s : Subscriptions) (rows : List Run) (log : BoardLog) (s' : Subscriptions) :
    Except RequestError SyncReport → Prop
  | idle (hsubset : inFlight rows ⊆ s.runs) (hrequested : requested log = [])
      (hreturned : Enumerates (returned log) (s.runs \ inFlight rows))
      (hruns : s'.runs = s.runs ∩ inFlight rows) :
      Aligns s rows log s' (.ok ⟨0, (s.runs \ inFlight rows).card, 0⟩)
  | givenUp (batch : List RunId) (arrived : List Patch) (hsubset : ¬ inFlight rows ⊆ s.runs)
      (hbatch : Enumerates batch (inFlight rows \ s.runs)) (hrequested : requested log = batch)
      (hasked : .asked (.subscribeAll batch) ⟨none, arrived⟩ ∈ log)
      (hreturned : Enumerates (returned log) (s.runs \ inFlight rows ∪ inFlight rows \ s.runs))
      (hruns : s'.runs = s.runs ∩ inFlight rows) : Aligns s rows log s' (.error .aborted)
  | answered (batch : List RunId) (result : RunId → Except RequestError Bool)
      (arrived : List Patch) (hsubset : ¬ inFlight rows ⊆ s.runs)
      (hbatch : Enumerates batch (inFlight rows \ s.runs)) (hrequested : requested log = batch)
      (hasked : .asked (.subscribeAll batch) ⟨some result, arrived⟩ ∈ log)
      (hreturned : Enumerates (returned log) (s.runs \ inFlight rows))
      (hruns : s'.runs = s.runs ∩ inFlight rows ∪ good result (inFlight rows \ s.runs)) :
      Aligns s rows log s' (.ok ⟨(good result (inFlight rows \ s.runs)).card,
        (s.runs \ inFlight rows).card, (bad result (inFlight rows \ s.runs)).card⟩)

lemma aligns_of_course {report : Except RequestError SyncReport}
    (h : (s.sync rows).Course log (s', report)) : s.Aligns rows log s' report := by
  obtain ⟨rest, outcome, hlog, hbatch, rfl⟩ := course_sync h
  have hlost := s.enumerates_stale rows
  have hnew := s.enumerates_missing rows
  have hrequested : requested log = requested rest := by
    rw [hlog, requested_append, requested_releasing, List.nil_append]
  have hreturned : returned log = s.stale rows ++ returned rest := by
    rw [hlog, returned_append, returned_releasing]
  rw [← hlost.card]
  cases hbatch with
  | idle hnil =>
    refine .idle (missing_eq_nil_iff.mp hnil) hrequested ?_ (s.runs_keep rows)
    rw [hreturned]
    exact (List.append_nil _).symm ▸ hlost
  | givenUp arrived hne =>
    obtain ⟨hask, hback⟩ := requested_batch _ _ ⟨none, arrived⟩
    rw [hask] at hrequested
    rw [hback] at hreturned
    refine .givenUp _ arrived (mt missing_eq_nil_iff.mpr hne) hnew hrequested (by simp [hlog]) ?_
      (s.runs_keep rows)
    rw [hreturned]
    refine hlost.append hnew (Finset.disjoint_left.mpr fun id hid hid' => ?_)
    exact (Finset.mem_sdiff.mp hid').2 (Finset.mem_sdiff.mp hid).1
  | answered result arrived hne =>
    obtain ⟨hask, hback⟩ := requested_batch _ [] ⟨some result, arrived⟩
    rw [show requested [_] = _ from hask] at hrequested
    rw [show returned [_] = _ from hback, List.append_nil] at hreturned
    obtain ⟨hgood, hbad⟩ := countP_outcomesOf result ((s.keep rows).missing (wanted rows))
    simp only [Except.map, hgood, hbad, hnew.countP, Bool.not_eq_true']
    refine .answered _ result arrived (mt missing_eq_nil_iff.mpr hne) hnew hrequested
      (by simp [hlog]) (hreturned ▸ hlost) ?_
    ext id
    rw [mem_runs, mem_settle_outcomesOf, mem_receive, ← mem_runs, s.runs_keep, hnew.mem_iff,
      Finset.mem_union, good, Finset.mem_filter]

/-- Nothing is done once the subscribed runs are those in flight. -/
lemma play_sync_of_aligned (h : s.runs = inFlight rows) (answer : (c : Call) → Call.Answer c) :
    (s.sync rows).play answer = ([], s, .ok ⟨0, 0, 0⟩) := by
  obtain ⟨rest, outcome, hlog, hbatch, hreport⟩ :=
    course_sync (Task.course_play answer (s.sync rows))
  have hstale : s.stale rows = [] := by
    have hlength := (s.enumerates_stale rows).card
    rw [h, Finset.sdiff_self, Finset.card_empty] at hlength
    exact List.eq_nil_of_length_eq_zero hlength.symm
  have hmissing : (s.keep rows).missing (wanted rows) = [] := missing_eq_nil_iff.mpr h.ge
  have hkeep : s.keep rows = s := by
    have hids : s.ids.filter (wants rows) = s.ids := by
      refine List.filter_eq_self.mpr fun id hid => ?_
      rwa [← mem_inFlight, ← h, mem_runs]
    simp only [keep, hids]
  rw [hstale] at hlog hreport
  rw [hkeep] at hbatch hmissing
  generalize (s.sync rows).play answer = played at hlog hbatch hreport
  obtain ⟨log, s', report⟩ := played
  cases hbatch with
  | idle =>
    exact Prod.ext hlog (Prod.ext rfl hreport)
  | givenUp arrived hne => exact absurd hmissing hne
  | answered result arrived hne => exact absurd hmissing hne

/-- If nothing has failed, the subscribed runs are those in flight. -/
lemma Aligns.runs_eq {subscribed released : Nat}
    (h : s.Aligns rows log s' (.ok ⟨subscribed, released, 0⟩)) : s'.runs = inFlight rows := by
  have hparts : s.runs ∩ inFlight rows ∪ inFlight rows \ s.runs = inFlight rows := by
    rw [Finset.inter_comm, Finset.union_comm]
    exact Finset.sdiff_union_inter _ _
  generalize hreport :
      (.ok ⟨subscribed, released, 0⟩ : Except RequestError SyncReport) = report at h
  cases h with
  | idle hsubset _ _ hruns => rw [hruns, Finset.inter_eq_right.mpr hsubset]
  | givenUp => cases hreport
  | answered batch result arrived _ _ _ _ _ hruns =>
    have hbad : (bad result (inFlight rows \ s.runs)).card = 0 := by
      obtain ⟨-, -, hbad⟩ := SyncReport.mk.inj (Except.ok.inj hreport)
      exact hbad.symm
    rw [hruns, good_of_card_bad hbad, hparts]

/-! ### The theorem -/

/-- The subscribed runs that a page no longer shows as in flight are given back, each once, and
those that it shows and that are not subscribed yet are asked for in one batch, each once.  The
batch is not made if there are none.  If it is given up, which is when the board is told to stop
before it has its results, its runs are given back as well; otherwise the runs with good results
come in, and the report counts them.  Once nothing has failed, doing it again does nothing. -/
theorem sync_aligns (s : Subscriptions) (rows : List Run) (answer : (c : Call) → Call.Answer c) :
    let log := ((s.sync rows).play answer).1
    let after := ((s.sync rows).play answer).2.1
    let report := ((s.sync rows).play answer).2.2
    let lost := s.runs \ inFlight rows
    let new := inFlight rows \ s.runs
    let kept := s.runs ∩ inFlight rows
    (∀ id ∈ s.runs, id ∉ requested log) ∧
      (inFlight rows ⊆ s.runs →
        requested log = [] ∧ Enumerates (returned log) lost ∧ after.runs = kept ∧
          report = .ok ⟨0, lost.card, 0⟩) ∧
      (¬ inFlight rows ⊆ s.runs → ∃ batch, Enumerates batch new ∧ requested log = batch ∧
        match ((answer (.subscribeAll batch)).result :
            Option (RunId → Except RequestError Bool)) with
        | none =>
          Enumerates (returned log) (lost ∪ new) ∧ after.runs = kept ∧ report = .error .aborted
        | some result =>
          Enumerates (returned log) lost ∧ after.runs = kept ∪ good result new ∧
            report = .ok ⟨(good result new).card, lost.card, (bad result new).card⟩ ∧
            (good result new).card + (bad result new).card = new.card) ∧
      ∀ subscribed released, report = .ok ⟨subscribed, released, 0⟩ →
        ∀ answer', (after.sync rows).play answer' = ([], after, .ok ⟨0, 0, 0⟩) := by
  intro log after report lost new kept
  obtain ⟨hcourse, hanswers⟩ := Task.course_of_play
    (show (s.sync rows).play answer = (log, after, report) from rfl)
  have haligns := aligns_of_course hcourse
  have hagain : ∀ subscribed released, report = .ok ⟨subscribed, released, 0⟩ →
      ∀ answer', (after.sync rows).play answer' = ([], after, .ok ⟨0, 0, 0⟩) :=
    fun _ _ hreport answer' => play_sync_of_aligned (Aligns.runs_eq (hreport ▸ haligns)) answer'
  have hapart : ∀ batch, Enumerates batch new → ∀ id ∈ s.runs, id ∉ batch :=
    fun batch hbatch id hlive hid => (Finset.mem_sdiff.mp ((hbatch.mem_iff id).mp hid)).2 hlive
  clear_value log after report
  cases haligns with
  | idle hsubset hrequested hreturned hruns =>
    exact ⟨fun _ _ => hrequested ▸ List.not_mem_nil, fun _ => ⟨hrequested, hreturned, hruns, rfl⟩,
      fun hnot => absurd hsubset hnot, hagain⟩
  | givenUp batch arrived hsubset hbatch hrequested hasked hreturned hruns =>
    refine ⟨hrequested ▸ hapart batch hbatch, fun hsub => absurd hsub hsubset,
      fun _ => ⟨batch, hbatch, hrequested, ?_⟩, hagain⟩
    rw [← hanswers _ _ hasked]
    exact ⟨hreturned, hruns, rfl⟩
  | answered batch result arrived hsubset hbatch hrequested hasked hreturned hruns =>
    refine ⟨hrequested ▸ hapart batch hbatch, fun hsub => absurd hsub hsubset,
      fun _ => ⟨batch, hbatch, hrequested, ?_⟩, hagain⟩
    rw [← hanswers _ _ hasked]
    exact ⟨hreturned, hruns, rfl, card_good_add_card_bad result new⟩

/-- One run is subscribed that the page shows as in flight, and one that it does not show. -/
def oneStale : Subscriptions :=
  ⟨["a", "x"], [], by decide⟩

/-- Two runs in flight that are not subscribed, one of them listed twice. -/
def twoNew : List Run :=
  [.bare "a" .pending, .bare "b" .processing, .bare "b" .processing, .bare "d" .pending,
    .bare "e" .succeeded]

/-- One of the two is refused. -/
theorem sync_aligns_of_refused :
    let played := (oneStale.sync twoNew).play (Board.answerWith ⟨[], 0⟩ "d")
    ¬ inFlight twoNew ⊆ oneStale.runs ∧
      (∃ batch, Enumerates batch (inFlight twoNew \ oneStale.runs) ∧ requested played.1 = batch) ∧
      requested played.1 = ["b", "d"] ∧ returned played.1 = ["x"] ∧
      played.2.1.ids = ["a", "b"] ∧ played.2.2 = .ok ⟨1, 1, 1⟩ := by
  intro played
  have hnew : ¬ inFlight twoNew ⊆ oneStale.runs := by decide
  obtain ⟨-, -, hbatch, -⟩ := sync_aligns oneStale twoNew (Board.answerWith ⟨[], 0⟩ "d")
  obtain ⟨batch, henumerates, hrequested, -⟩ := hbatch hnew
  exact ⟨hnew, ⟨batch, henumerates, hrequested⟩, rfl, rfl, rfl, rfl⟩

end RunBoard.Subscriptions
