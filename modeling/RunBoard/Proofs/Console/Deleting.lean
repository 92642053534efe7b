import RunBoard.Console.Runs
import RunBoard.Proofs.Board.Rows
import RunBoard.Proofs.Course

/-!
# What a deletion asks for

Runs are named to the command in any order, and perhaps more than once.  Each is fetched as often as
it is named, and the first one that cannot be had ends the command.  Only after that is it known
which of them have ended; these are removed in one request, and the others are told of.

`Fetches` and `Deletes` are the courses of the two parts.  What they ask for and what they tell are
read off the log of a course: `fetches`, `removals` and `Task.told`.
-/

namespace RunBoard.Console

open RunBoard.Text

/-- What happens while a command is carried out. -/
abbrev CommandLog := List (Task.Moment Backend.Operation Backend.Operation.Result Line)

variable {ids : List RunId} {runs : List Run} {json : Bool} {log rest : CommandLog}
  {result : Except Trouble Unit} {fetched : Except Trouble (List Run)} {id : RunId}

/-! ### What a log tells -/

/-- The run that is asked for at a moment, with its record if that can be had. -/
def fetchAt : Task.Moment Backend.Operation Backend.Operation.Result Line →
    Option (RunId × Option Run)
  | .asked (.fetch id) (.ok run) => some (id, some run)
  | .asked (.fetch id) (.error _) => some (id, none)
  | .asked (.list _) _ | .asked (.remove _) _ | .asked (.cancel _ _) _ | .asked .statistics _
  | .told _ => none

/-- The runs whose removal is asked for at a moment. -/
def removalAt : Task.Moment Backend.Operation Backend.Operation.Result Line → Option (List RunId)
  | .asked (.remove ids) _ => some ids
  | .asked (.list _) _ | .asked (.fetch _) _ | .asked (.cancel _ _) _ | .asked .statistics _
  | .told _ => none

/-- The runs that are asked for, each with its record if that can be had. -/
def fetches (log : CommandLog) : List (RunId × Option Run) :=
  log.filterMap fetchAt

/-- The records that could be had. -/
def records (log : CommandLog) : List Run :=
  (fetches log).filterMap Prod.snd

/-- The removals that are asked for. -/
def removals (log : CommandLog) : List (List RunId) :=
  log.filterMap removalAt

@[simp] lemma fetches_append : fetches (log ++ rest) = fetches log ++ fetches rest :=
  List.filterMap_append

@[simp] lemma removals_append : removals (log ++ rest) = removals log ++ removals rest :=
  List.filterMap_append

@[simp] lemma fetches_told (lines : List Line) : fetches (lines.map .told) = [] := by
  simp [fetches, fetchAt]

@[simp] lemma removals_told (lines : List Line) : removals (lines.map .told) = [] := by
  simp [removals, removalAt]

@[simp] lemma fetches_asked_remove {answer : Except RequestError Bool} :
    fetches (.asked (.remove ids) answer :: log) = fetches log := rfl

@[simp] lemma removals_asked_remove {answer : Except RequestError Bool} :
    removals (.asked (.remove ids) answer :: log) = ids :: removals log := rfl

/-! ### Fetching -/

/-- The failure of a command that cannot have a run. -/
def unfetched (id : RunId) (e : RequestError) : Trouble :=
  .request ("Failed to load run '" ++ id.text ++ "'") e

/-- The courses of fetching runs. -/
inductive Fetches : List RunId → CommandLog → Except Trouble (List Run) → Prop
  | empty : Fetches [] [] (.ok [])
  | broken (id : RunId) (ids : List RunId) (e : RequestError) :
      Fetches (id :: ids) [.asked (.fetch id) (.error e)] (.error (unfetched id e))
  | next {id : RunId} {ids : List RunId} {log : CommandLog} {fetched : Except Trouble (List Run)}
      (run : Run) (rest : Fetches ids log fetched) :
      Fetches (id :: ids) (.asked (.fetch id) (.ok run) :: log) (fetched.map (run :: ·))

lemma course_fetch {found : Except Trouble Run} (h : (fetch id).Course log found) :
    (∃ run, log = [.asked (.fetch id) (.ok run)] ∧ found = .ok run) ∨
      ∃ e, log = [.asked (.fetch id) (.error e)] ∧ found = .error (unfetched id e) := by
  obtain ⟨answer, rest, rfl, hend⟩ := Task.course_ask_iff.mp h
  cases answer with
  | ok run =>
    obtain ⟨rfl, rfl⟩ := Task.course_done_iff.mp hend
    exact .inl ⟨run, rfl, rfl⟩
  | error e =>
    obtain ⟨rfl, rfl⟩ := Task.course_done_iff.mp hend
    exact .inr ⟨e, rfl, rfl⟩

lemma course_fetchAll (h : (fetchAll ids).Course log fetched) : Fetches ids log fetched := by
  induction ids generalizing log fetched with
  | nil =>
    obtain ⟨rfl, rfl⟩ := Task.course_done_iff.mp h
    exact .empty
  | cons id ids ih =>
    obtain ⟨found, first, later, rfl, hfetch, hrest⟩ := Task.course_bind_iff.mp h
    rcases course_fetch hfetch with ⟨run, rfl, rfl⟩ | ⟨e, rfl, rfl⟩
    · obtain ⟨more, log, last, rfl, hmore, hend⟩ := Task.course_bind_iff.mp hrest
      cases more with
      | error t =>
        obtain ⟨rfl, rfl⟩ := Task.course_done_iff.mp hend
        rw [List.append_nil]
        exact .next run (ih hmore)
      | ok runs =>
        obtain ⟨rfl, rfl⟩ := Task.course_done_iff.mp hend
        rw [List.append_nil]
        exact .next run (ih hmore)
    · obtain ⟨rfl, rfl⟩ := Task.course_done_iff.mp hrest
      exact .broken id ids e

namespace Fetches

lemma removals_eq (h : Fetches ids log fetched) : removals log = [] := by
  induction h with
  | empty | broken => rfl
  | next run rest ih => exact ih

lemma told_eq (h : Fetches ids log fetched) : Task.told log = [] := by
  induction h with
  | empty | broken => rfl
  | next run rest ih => exact ih

/-- The runs are asked for in the order in which they are named. -/
lemma asked (h : Fetches ids log fetched) : (fetches log).map Prod.fst <+: ids := by
  induction h with
  | empty => exact List.prefix_rfl
  | broken id ids e => exact ⟨ids, rfl⟩
  | next run rest ih => exact (List.prefix_cons_inj _).mpr ih

/-- If all runs can be had, all that are named have been fetched, and these are their records. -/
lemma of_ok (h : Fetches ids log (.ok runs)) : (fetches log).map Prod.fst = ids ∧
    records log = runs ∧ ∀ id, (id, none) ∉ fetches log := by
  generalize hfetched : (Except.ok runs : Except Trouble (List Run)) = fetched at h
  induction h generalizing runs with
  | empty =>
    obtain rfl := Except.ok.inj hfetched
    exact ⟨rfl, rfl, fun _ => List.not_mem_nil⟩
  | broken => cases hfetched
  | @next id ids log found run rest ih =>
    cases found with
    | error t => cases hfetched
    | ok more =>
      obtain rfl := Except.ok.inj hfetched
      obtain ⟨hids, hrecords, hhad⟩ := ih rfl
      refine ⟨congrArg (id :: ·) hids, congrArg (run :: ·) hrecords, fun other hmem => ?_⟩
      rcases List.mem_cons.mp hmem with heq | hmem
      · cases heq
      · exact hhad other hmem

/-- Otherwise the command fails with the one that cannot. -/
lemma of_error {t : Trouble} (h : Fetches ids log (.error t)) :
    ∃ id e, (id, none) ∈ fetches log ∧ t = unfetched id e := by
  generalize hfetched : (Except.error t : Except Trouble (List Run)) = fetched at h
  induction h with
  | empty => cases hfetched
  | broken id ids e => exact ⟨id, e, List.mem_singleton_self _, Except.error.inj hfetched⟩
  | @next id ids log found run rest ih =>
    cases found with
    | ok more => cases hfetched
    | error t' =>
      obtain ⟨id', e, hmem, heq⟩ := ih hfetched
      exact ⟨id', e, List.mem_cons_of_mem _ hmem, heq⟩

end Fetches

/-! ### Deleting -/

/-- The runs that have ended, in their order. -/
def endedIds (runs : List Run) : List RunId :=
  (runs.filter Run.isTerminal).map Run.id

/-- The runs that have not ended, in their order. -/
def unfinished (runs : List Run) : List Run :=
  runs.filter fun run => !run.isTerminal

/-- What is told of the runs that are not deleted before any is. -/
def skipping (json : Bool) (runs : List Run) : List Line :=
  if json then [] else ((unfinished runs).map skipLine).map .output

/-- What is told after the answer to the removal: if it was accepted, what has been deleted, and for
other programs also what has not. -/
def closing (json : Bool) (runs : List Run) : Except RequestError Bool → List Line
  | .error _ | .ok false => []
  | .ok true =>
    if json then
      [.output (Json.ofMembers [
        ("deleted", .array ((endedIds runs).map fun id => .string id.text)),
        ("skipped", .array ((unfinished runs).map fun run => .string run.id.text))]).pretty]
    else
      ["", "  ✓ Deleted " ++ decimal (endedIds runs).length ++ " run(s)", ""].map .output

/-- What becomes of the command after the answer to the removal. -/
def verdict : Except RequestError Bool → Except Trouble Unit
  | .error e => .error (.request "Failed to delete runs" e)
  | .ok false => .error (.refused "Backend refused to delete runs")
  | .ok true => .ok ()

/-- The courses of deleting runs. -/
inductive Deletes (ids : List RunId) (json : Bool) : CommandLog → Except Trouble Unit → Prop
  | broken {log : CommandLog} {t : Trouble} (fetching : Fetches ids log (.error t)) :
      Deletes ids json log (.error t)
  | idle {log : CommandLog} {runs : List Run} (fetching : Fetches ids log (.ok runs))
      (none : endedIds runs = []) :
      Deletes ids json (log ++ (skipping json runs).map .told) (.error (.action .nothingToDelete))
  | asked {log : CommandLog} {runs : List Run} (fetching : Fetches ids log (.ok runs))
      (some : endedIds runs ≠ []) (answer : Except RequestError Bool) :
      Deletes ids json
        (log ++ (skipping json runs).map .told ++
          .asked (.remove (endedIds runs)) answer :: (closing json runs answer).map .told)
        (verdict answer)

/-- Removes the runs that have ended, once all have been fetched. -/
def removeEnded (json : Bool) (runs : List Run) : Course (Except Trouble Unit) := do
  if (endedIds runs).isEmpty then return .error (.action .nothingToDelete)
  match ← askRemoval (endedIds runs) with
  | .error e => return .error (.request "Failed to delete runs" e)
  | .ok false => return .error (.refused "Backend refused to delete runs")
  | .ok true =>
    Task.emitAll (closing json runs (.ok true))
    return .ok ()

/-- A deletion fetches all runs first, then tells of those that it skips, and then removes the
others. -/
lemma delete_eq (ids : List RunId) (json : Bool) :
    delete ids json = fetchAll ids >>= fun
      | .error t => pure (.error t)
      | .ok runs => Task.emitAll (skipping json runs) >>= fun _ => removeEnded json runs := by
  cases json <;> rfl

lemma course_removeEnded (h : (removeEnded json runs).Course log result) :
    (endedIds runs = [] ∧ log = [] ∧ result = .error (.action .nothingToDelete)) ∨
      (endedIds runs ≠ [] ∧ ∃ answer : Except RequestError Bool,
        log = .asked (.remove (endedIds runs)) answer :: (closing json runs answer).map .told ∧
        result = verdict answer) := by
  unfold removeEnded at h
  split at h
  · rename_i hnone
    obtain ⟨rfl, rfl⟩ := Task.course_done_iff.mp h
    exact .inl ⟨List.isEmpty_iff.mp hnone, rfl, rfl⟩
  · rename_i hsome
    obtain ⟨answer, asked, rest, rfl, hask, hrest⟩ := Task.course_bind_iff.mp h
    obtain rfl := Task.course_query_iff.mp hask
    refine .inr ⟨fun hnone => hsome (List.isEmpty_iff.mpr hnone), answer, ?_⟩
    match answer with
    | .error e =>
      obtain ⟨rfl, rfl⟩ := Task.course_done_iff.mp hrest
      exact ⟨rfl, rfl⟩
    | .ok false =>
      obtain ⟨rfl, rfl⟩ := Task.course_done_iff.mp hrest
      exact ⟨rfl, rfl⟩
    | .ok true =>
      obtain ⟨_, told, last, rfl, htold, hend⟩ := Task.course_bind_iff.mp hrest
      obtain rfl := Task.course_emitAll_iff.mp htold
      obtain ⟨rfl, rfl⟩ := Task.course_done_iff.mp hend
      exact ⟨by rw [List.append_nil]; rfl, rfl⟩

lemma course_delete (h : (delete ids json).Course log result) : Deletes ids json log result := by
  rw [delete_eq] at h
  obtain ⟨fetched, first, rest, rfl, hfetch, hrest⟩ := Task.course_bind_iff.mp h
  have hfetches := course_fetchAll hfetch
  cases fetched with
  | error t =>
    obtain ⟨rfl, rfl⟩ := Task.course_done_iff.mp hrest
    rw [List.append_nil]
    exact .broken hfetches
  | ok runs =>
    obtain ⟨_, told, last, rfl, htold, hremove⟩ := Task.course_bind_iff.mp hrest
    obtain rfl := Task.course_emitAll_iff.mp htold
    rcases course_removeEnded hremove with ⟨hnone, rfl, rfl⟩ | ⟨hsome, answer, rfl, rfl⟩
    · rw [List.append_nil]
      exact .idle hfetches hnone
    · rw [← List.append_assoc]
      exact .asked hfetches hsome answer

namespace Deletes

/-- After the fetching no run is asked for. -/
lemma exists_fetches (h : Deletes ids json log result) :
    ∃ first fetched, Fetches ids first fetched ∧ fetches log = fetches first := by
  cases h with
  | broken fetching => exact ⟨_, _, fetching, rfl⟩
  | idle fetching hnone => exact ⟨_, _, fetching, by simp⟩
  | asked fetching hsome answer => exact ⟨_, _, fetching, by simp⟩

/-- If a run cannot be had, nothing is removed and nothing is told. -/
lemma of_missing (h : Deletes ids json log result) (hmissing : ∃ id, (id, none) ∈ fetches log) :
    removals log = [] ∧ Task.told log = [] ∧
      ∃ id e, (id, none) ∈ fetches log ∧ result = .error (unfetched id e) := by
  obtain ⟨id, hmem⟩ := hmissing
  cases h with
  | broken fetching =>
    -- the one the command fails with is the first that is missing, which need not be `id`
    obtain ⟨id, e, hmem, rfl⟩ := fetching.of_error
    exact ⟨fetching.removals_eq, fetching.told_eq, id, e, hmem, rfl⟩
  | idle fetching hnone => exact absurd (by simpa using hmem) (fetching.of_ok.2.2 id)
  | asked fetching hsome answer => exact absurd (by simpa using hmem) (fetching.of_ok.2.2 id)

/-- If all runs can be had, those that have ended are removed, if there are any. -/
lemma of_had (h : Deletes ids json log result) (hhad : ∀ id, (id, none) ∉ fetches log) :
    (fetches log).map Prod.fst = ids ∧
      (endedIds (records log) = [] → removals log = [] ∧
        Task.told log = skipping json (records log) ∧
        result = .error (.action .nothingToDelete)) ∧
      (endedIds (records log) ≠ [] → removals log = [endedIds (records log)] ∧
        ∃ (before : CommandLog) (answer : Except RequestError Bool),
          log = before ++ .asked (.remove (endedIds (records log))) answer ::
            (closing json (records log) answer).map .told ∧
          fetches before = fetches log ∧ Task.told before = skipping json (records log) ∧
          result = verdict answer) := by
  cases h with
  | broken fetching =>
    obtain ⟨id, e, hmem, rfl⟩ := fetching.of_error
    exact absurd hmem (hhad id)
  | @idle first found fetching hnone =>
    obtain ⟨hids, hrecords, -⟩ := fetching.of_ok
    have hruns : records (first ++ (skipping json found).map .told) = found := by
      simpa [records] using hrecords
    rw [hruns]
    refine ⟨by simpa using hids, fun _ => ⟨?_, ?_, rfl⟩, fun hsome => absurd hnone hsome⟩
    · simp [fetching.removals_eq]
    · simp [fetching.told_eq]
  | @asked first found fetching hsome answer =>
    obtain ⟨hids, hrecords, -⟩ := fetching.of_ok
    have hruns : records (first ++ (skipping json found).map .told ++
        .asked (.remove (endedIds found)) answer :: (closing json found answer).map .told) =
          found := by
      simpa [records] using hrecords
    rw [hruns]
    refine ⟨by simpa using hids, fun hnone => absurd hnone hsome, fun _ => ⟨?_, ?_⟩⟩
    · simp [fetching.removals_eq]
    · exact ⟨_, answer, rfl, by simp, by simp [fetching.told_eq], rfl⟩

end Deletes

/-- A run that has ended is removed once unless its record was had twice. -/
lemma nodup_endedIds_iff : (endedIds runs).Nodup ↔
    runs.Pairwise fun r s => r.isTerminal → s.isTerminal → r.id ≠ s.id := by
  rw [endedIds, List.Nodup, List.pairwise_map, List.pairwise_filter]

/-- Records of the runs that were asked for are in the order in which these were. -/
lemma sublist_fetches {found : List (RunId × Option Run)}
    (h : ∀ id run, (id, some run) ∈ found → run.id = id) :
    ((found.filterMap Prod.snd).map Run.id).Sublist (found.map Prod.fst) := by
  induction found with
  | nil => exact List.Sublist.refl _
  | cons f found ih =>
    have hrest := ih fun id run hmem => h id run (List.mem_cons_of_mem _ hmem)
    obtain ⟨id, _ | run⟩ := f
    · exact hrest.cons id
    · obtain rfl := h id run List.mem_cons_self
      exact hrest.cons_cons run.id

/-- **A deletion asks for one removal at most, and for runs that have ended.**  The runs are fetched
in the order in which they are named.  If one cannot be had, nothing is removed, nothing is told,
and the command fails with it.  Otherwise all have been fetched, and if none of them has ended, the
others are told of, and the command fails for want of something to delete.  If some have ended, then
after all fetching, and after telling of the others, one removal is asked for, with the runs that
have ended in their order; its answer settles the rest.  A run is named twice in it exactly if its
record was had twice and it had ended both times, and with records of the runs that were asked for
the order is that in which these were named. -/
theorem removes_ended_of_fetched (course : (delete ids json).Course log result) :
    let runs := records log
    (fetches log).map Prod.fst <+: ids ∧
    ((∃ id, (id, none) ∈ fetches log) → removals log = [] ∧ Task.told log = [] ∧
      ∃ id e, (id, none) ∈ fetches log ∧ result = .error (unfetched id e)) ∧
    ((∀ id, (id, none) ∉ fetches log) → (fetches log).map Prod.fst = ids ∧
      (endedIds runs = [] → removals log = [] ∧ Task.told log = skipping json runs ∧
        result = .error (.action .nothingToDelete)) ∧
      (endedIds runs ≠ [] → removals log = [endedIds runs] ∧
        ∃ (before : CommandLog) (answer : Except RequestError Bool),
          log = before ++ .asked (.remove (endedIds runs)) answer ::
            (closing json runs answer).map .told ∧
          fetches before = fetches log ∧ Task.told before = skipping json runs ∧
          result = verdict answer)) ∧
    ((endedIds runs).Nodup ↔
      runs.Pairwise fun r s => r.isTerminal → s.isTerminal → r.id ≠ s.id) ∧
    ((∀ id run, (id, some run) ∈ fetches log → run.id = id) → (endedIds runs).Sublist ids) := by
  intro runs
  have deletes := course_delete course
  obtain ⟨first, fetched, fetching, hfetches⟩ := deletes.exists_fetches
  have hasked : (fetches log).map Prod.fst <+: ids := hfetches ▸ fetching.asked
  refine ⟨hasked, deletes.of_missing, deletes.of_had, nodup_endedIds_iff, fun honest => ?_⟩
  exact (List.filter_sublist.map Run.id).trans ((sublist_fetches honest).trans hasked.sublist)

/-- A backend that has some runs and accepts every removal. -/
def holding (runs : List Run) : (op : Backend.Operation) → op.Result
  | .fetch id =>
    match runs.find? (·.id = id) with
    | some run => (.ok run : Except RequestError Run)
    | none => (.error .notFound : Except RequestError Run)
  | .remove _ => (.ok true : Except RequestError Bool)
  | op => op.failed .aborted

/-- A run that has failed, one that is being executed, and one that has succeeded. -/
def someRuns : List Run :=
  [.bare "a" .failed, .bare "b" .processing, .bare "c" .succeeded]

/-- What happens when they are deleted, the one in flight named twice. -/
def deletionOfSome : CommandLog × Except Trouble Unit :=
  (delete ["c", "b", "a", "b"] false).play (holding someRuns)

theorem removes_ended_of_fetched_of_some :
    (∀ id, (id, none) ∉ fetches deletionOfSome.1) ∧ endedIds (records deletionOfSome.1) ≠ [] ∧
      removals deletionOfSome.1 = [(["c", "a"] : List RunId)] ∧
      (fetches deletionOfSome.1).map Prod.fst = (["c", "b", "a", "b"] : List RunId) ∧
      Task.told deletionOfSome.1 = ["  ! Skipping run b (processing): still in flight",
        "  ! Skipping run b (processing): still in flight",
        "", "  ✓ Deleted 2 run(s)", ""].map .output ∧
      (endedIds (records deletionOfSome.1)).Sublist ["c", "b", "a", "b"] := by
  have course : (delete ["c", "b", "a", "b"] false).Course deletionOfSome.1 deletionOfSome.2 :=
    Task.course_play _ _
  have hhad : ∀ id, (id, none) ∉ fetches deletionOfSome.1 := by
    intro id
    have hsome : ∀ f ∈ fetches deletionOfSome.1, f.2.isSome = true := by decide
    exact fun hmem => Bool.false_ne_true (hsome _ hmem)
  have hsome : endedIds (records deletionOfSome.1) ≠ [] := by decide
  have hhonest : ∀ id run, (id, some run) ∈ fetches deletionOfSome.1 → run.id = id := by
    intro id run hmem
    have hsame : ∀ f ∈ fetches deletionOfSome.1, ∀ run ∈ f.2, run.id = f.1 := by decide
    exact hsame _ hmem run rfl
  obtain ⟨-, -, hfetched, -, hsublist⟩ := removes_ended_of_fetched course
  obtain ⟨hids, -, hremoves⟩ := hfetched hhad
  exact ⟨hhad, hsome, (hremoves hsome).1, hids, rfl, hsublist hhonest⟩

/-- A run that is named twice is removed twice in one request, although the backend tells of it
truthfully. -/
theorem removes_twice_what_is_named_twice :
    let course := (delete ["a", "a"] false).play (holding someRuns)
    (delete ["a", "a"] false).Course course.1 course.2 ∧
      (∀ id run, (id, some run) ∈ fetches course.1 → run.id = id) ∧
      removals course.1 = [(["a", "a"] : List RunId)] ∧
      (Backend.Operation.remove ["a", "a"]).request.bind (·.body) =
        some (Backend.batchBody Backend.runCollection ["a", "a"]) := by
  intro course
  refine ⟨Task.course_play _ _, fun id run hmem => ?_, rfl, rfl⟩
  have hsame : ∀ f ∈ fetches course.1, ∀ run ∈ f.2, run.id = f.1 := by decide
  exact hsame _ hmem run rfl

end RunBoard.Console
