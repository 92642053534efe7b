import RunBoard.Proofs.Board.Commands

/-!
# The page under the query

A board changes its query before it asks for the page, and keeps its rows if the page cannot be
fetched.  So the rows belong to the last page that could be fetched, and the query to the last page
that was asked for.  The two agree unless the board has been turned in vain since.

`Keeps` follows the query through a task: every page that the task asks for is one of that query,
and so is the board at the end.  `OnFetched` follows the rows: they are always among the last page
that was fetched.
-/

namespace RunBoard.Board

variable {b b' : Board} {log : BoardLog} {q : Query} {α β : Type}

/-! ### The pages that were fetched -/

/-- The page that was fetched at a moment, with its query. -/
def listedAt : Task.Moment Call Call.Answer Event → Option (Query × Page)
  | .asked (.list q) ⟨.ok page, _⟩ => some (q, page)
  | _ => none

/-- The pages that were fetched in a course, each with its query. -/
def listed (log : BoardLog) : List (Query × Page) :=
  log.filterMap listedAt

@[simp] lemma listed_append (log rest : BoardLog) :
    listed (log ++ rest) = listed log ++ listed rest :=
  List.filterMap_append ..

@[simp] lemma listed_releasing (ids : List RunId) : listed (releasing ids) = [] := by
  simp [listed, releasing, listedAt]

@[simp] lemma listed_reporting (e : RequestError) : listed (reporting e) = [] := by
  unfold reporting
  split <;> rfl

lemma listed_cons (m : Task.Moment Call Call.Answer Event) (log : BoardLog) :
    listed (m :: log) = (listedAt m).toList ++ listed log := by
  cases h : listedAt m <;> simp [listed, h]

lemma mem_listed_iff {page : Page} :
    (q, page) ∈ listed log ↔ ∃ arrived, .asked (.list q) ⟨.ok page, arrived⟩ ∈ log := by
  simp only [listed, List.mem_filterMap]
  constructor
  · rintro ⟨m, hm, hlisted⟩
    unfold listedAt at hlisted
    split at hlisted
    · obtain ⟨rfl, rfl⟩ := Prod.mk.inj (Option.some.inj hlisted)
      exact ⟨_, hm⟩
    · cases hlisted
  · rintro ⟨arrived, hm⟩
    exact ⟨_, hm, rfl⟩

lemma Follows.listed_eq (h : b.Follows log b') : listed log = [] := by
  cases h with
  | settled batch =>
    rw [listed_append, listed_releasing, List.nil_append]
    cases batch with
    | idle => rfl
    | answered => rfl
  | givenUp => simp [listed_cons, listedAt]

/-- Without a page that was fetched, the rows stay. -/
lemma Loads.rows_eq_of_unlisted {shown : Bool} (h : b.Loads log b' shown)
    (unlisted : listed log = []) : b'.rows = b.rows := by
  cases h with
  | shown page arrived follows => simp [listed_cons, listedAt] at unlisted
  | failed e arrived => exact failed_rows _ e

/-! ### The query that a task keeps to -/

/-- The query of the board after an operation. -/
def Operation.target (op : Operation) (q : Query) : Query :=
  match op with
  | .command (.setPage page perPage) => q.withPage page perPage
  | .command (.setWorkflow workflow) => q.withWorkflow workflow
  | _ => q

/-- Whether an operation turns to another page or another workflow. -/
def Operation.turns : Operation → Bool
  | .command (.setPage _ _) | .command (.setWorkflow _) => true
  | _ => false

lemma Operation.target_of_not_turns {op : Operation} (h : ¬op.turns = true) : op.target q = q := by
  unfold target
  split
  · exact absurd rfl h
  · exact absurd rfl h
  · rfl

/-- A task asks for pages of one query only, and the board has this query at the end. -/
def Keeps (q : Query) (t : BoardTask (Board × α)) : Prop :=
  ∀ log b a, t.Course log (b, a) →
    b.query = q ∧ ∀ asked answer, .asked (.list asked) answer ∈ log → asked = q

namespace Keeps

lemma done {a : α} (h : b.query = q) : Keeps q (pure (b, a) : BoardTask (Board × α)) := by
  intro log c x hcourse
  obtain ⟨rfl, heq⟩ := Task.course_done_iff.mp hcourse
  obtain ⟨rfl, rfl⟩ := Prod.mk.inj heq
  exact ⟨h, fun _ _ hmem => absurd hmem List.not_mem_nil⟩

lemma bind {t : BoardTask (Board × α)} {f : Board × α → BoardTask (Board × β)} (ht : Keeps q t)
    (hf : ∀ b a, b.query = q → Keeps q (f (b, a))) : Keeps q (t >>= f) := by
  intro log c x hcourse
  obtain ⟨⟨d, a⟩, first, rest, rfl, hfirst, hrest⟩ := Task.course_bind_iff.mp hcourse
  obtain ⟨hquery, hasked⟩ := ht _ _ _ hfirst
  obtain ⟨hlast, hasked'⟩ := hf d a hquery _ _ _ hrest
  refine ⟨hlast, fun asked answer hmem => ?_⟩
  rcases List.mem_append.mp hmem with hmem | hmem
  · exact hasked asked answer hmem
  · exact hasked' asked answer hmem

/-- A task that asks for no page and leaves the query alone. -/
lemma of_course {t : BoardTask (Board × α)}
    (h : ∀ log b a, t.Course log (b, a) →
      b.query = q ∧ ∀ asked answer, .asked (.list asked) answer ∉ log) : Keeps q t := by
  intro log c x hcourse
  obtain ⟨hquery, hnone⟩ := h log c x hcourse
  exact ⟨hquery, fun asked answer hmem => absurd hmem (hnone asked answer)⟩

end Keeps

lemma notMem_releasing (ids : List RunId) (c : Call) (answer : Call.Answer c) :
    .asked c answer ∉ releasing ids := by
  simp [releasing]

lemma notMem_reporting (e : RequestError) (c : Call) (answer : Call.Answer c) :
    .asked c answer ∉ reporting e := by
  unfold reporting
  split <;> simp

lemma Follows.query_eq (h : b.Follows log b') : b'.query = b.query := by
  cases h <;> rfl

lemma Follows.notMem (h : b.Follows log b') (asked : Query) (answer : Call.Answer (.list asked)) :
    .asked (.list asked) answer ∉ log := by
  cases h with
  | settled batch => cases batch <;> simp [notMem_releasing]
  | givenUp => simp [notMem_releasing]

/-- Loading asks for the page of the query, and for no other. -/
lemma Loads.keeps {shown : Bool} (h : b.Loads log b' shown) :
    b'.query = b.query ∧ ∀ asked answer, .asked (.list asked) answer ∈ log → asked = b.query := by
  cases h with
  | shown page arrived follows =>
    refine ⟨follows.query_eq, fun asked answer hmem => ?_⟩
    rcases List.mem_cons.mp hmem with heq | hmem
    · exact (Call.list.inj (Task.Moment.asked.inj heq).1)
    · exact absurd hmem (follows.notMem asked answer)
  | failed e arrived =>
    have hquery : ((b.receive arrived).failed e).query = b.query := by
      rw [failed_eq]
      rfl
    refine ⟨hquery, fun asked answer hmem => ?_⟩
    rcases List.mem_cons.mp hmem with heq | hmem
    · exact (Call.list.inj (Task.Moment.asked.inj heq).1)
    · exact absurd hmem (notMem_reporting e _ answer)

lemma keeps_load (h : b.query = q) : Keeps q b.load := by
  intro log c shown hcourse
  subst h
  exact (course_load hcourse).keeps

lemma keeps_request {action : Call} {result : action.Result → Except RequestError Bool}
    (hlist : ∀ asked, action ≠ .list asked) (h : b.query = q) :
    Keeps q (b.request action result) := by
  refine .of_course fun log c outcome hcourse => ?_
  have hne : ∀ (answer : action.Answer) (asked : Query) (answer' : Call.Answer (.list asked)),
      (.asked (.list asked) answer' : Task.Moment Call Call.Answer Event) ≠ .asked action answer :=
    fun _ asked _ heq => hlist asked (Task.Moment.asked.inj heq).1.symm
  cases course_request hcourse with
  | answered => exact ⟨h, fun asked answer hmem => hne _ _ _ (List.mem_singleton.mp hmem)⟩
  | failed =>
    refine ⟨h, fun asked answer hmem => ?_⟩
    rcases List.mem_cons.mp hmem with heq | hmem
    · exact hne _ _ _ heq
    · exact notMem_reporting _ _ _ hmem

lemma keeps_teardown (h : b.query = q) : Keeps q b.teardown := by
  refine .of_course fun log c count hcourse => ?_
  obtain ⟨rfl, rfl, -⟩ := course_teardown_iff.mp hcourse
  exact ⟨h, fun _ _ => notMem_releasing _ _ _⟩

lemma keeps_applyPatch {patch : Patch} (h : b.query = q) : Keeps q (b.applyPatch patch) := by
  refine .of_course fun log c outcome hcourse => ?_
  obtain ⟨rfl, rfl, -⟩ := course_applyPatch_iff.mp hcourse
  refine ⟨h, fun asked answer hmem => ?_⟩
  split at hmem
  · exact notMem_releasing _ _ _ hmem
  · exact absurd hmem List.not_mem_nil

lemma keeps_cancelRun (id : RunId) (h : b.query = q) : Keeps q (b.cancelRun id) := by
  unfold cancelRun
  split
  · exact .done h
  · split
    · exact .done h
    · refine .bind (keeps_request (by simp) h) fun c outcome hc => ?_
      rcases outcome with e | _ | _
      · exact .done hc
      · exact .done hc
      · exact .bind (keeps_load hc) fun d shown hd => .done hd

lemma keeps_deleteRun (id : RunId) (h : b.query = q) : Keeps q (b.deleteRun id) := by
  unfold deleteRun
  split
  · exact .done h
  · split
    · exact .done h
    · refine .bind (keeps_request (by simp) h) fun c outcome hc => ?_
      rcases outcome with e | _ | _
      · exact .done hc
      · exact .done hc
      · exact .bind (keeps_load hc) fun d shown hd => .done hd

lemma keeps_deleteSelected (h : b.query = q) : Keeps q b.deleteSelected := by
  unfold deleteSelected
  dsimp only
  split
  · exact .done h
  · refine .bind (keeps_request (by simp) h) fun c outcome hc => ?_
    rcases outcome with e | _ | _
    · exact .done hc
    · exact .done hc
    · exact .bind (keeps_load hc) fun d shown hd => .done hd

lemma toggle_query (b : Board) (id : RunId) : (b.toggle id).1.query = b.query := by
  rw [toggle_eq]

lemma openDetail_query (b : Board) (id : RunId) : (b.openDetail id).1.query = b.query := by
  rw [openDetail_eq]

lemma keeps_turnTo (query : Query) : Keeps query (b.turnTo query) := by
  intro log c shown hcourse
  obtain ⟨rest, rfl, hloads⟩ := course_turnTo hcourse
  obtain ⟨hquery, hasked⟩ := hloads.keeps
  refine ⟨hquery, fun asked answer hmem => ?_⟩
  rcases List.mem_append.mp hmem with hmem | hmem
  · exact absurd hmem (notMem_releasing _ _ answer)
  · exact hasked asked answer hmem

lemma keeps_handle (b : Board) (c : Command) :
    Keeps ((Operation.command c).target b.query) (b.handle c) := by
  cases c with
  | refresh => exact .bind (keeps_load rfl) fun d _ hd => .done hd
  | setPage page perPage => exact .bind (keeps_turnTo _) fun d _ hd => .done hd
  | setWorkflow workflow => exact .bind (keeps_turnTo _) fun d _ hd => .done hd
  | select ids => exact .done rfl
  | toggle id => exact .done (toggle_query b id)
  | clearSelection => exact .done rfl
  | cancel id => exact .bind (keeps_cancelRun id rfl) fun d _ hd => .done hd
  | delete id => exact .bind (keeps_deleteRun id rfl) fun d _ hd => .done hd
  | deleteSelected => exact .bind (keeps_deleteSelected rfl) fun d _ hd => .done hd
  | openDetail id =>
    have hquery := openDetail_query b id
    simp only [handle]
    split <;> rename_i heq <;> rw [heq] at hquery <;> exact .done hquery
  | closeDetail => exact .done rfl

lemma keeps_applyAll (patches : List Patch) (h : b.query = q) : Keeps q (b.applyAll patches) := by
  induction patches generalizing b with
  | nil => exact .done h
  | cons patch patches ih =>
    exact .bind (keeps_applyPatch h) fun c outcome hc => .bind (ih hc) fun d n hd => .done hd

/-- The query after an operation, which is also that of every page that was asked for in it. -/
lemma query_of_course_perform {op : Operation} (h : (b.perform op).Course log b') :
    b'.query = op.target b.query ∧
      ∀ asked answer, .asked (.list asked) answer ∈ log → asked = op.target b.query := by
  have ofKeeps : ∀ {γ : Type} {t : BoardTask (Board × γ)}, Keeps (op.target b.query) t →
      (t >>= fun p => pure p.1).Course log b' → b'.query = op.target b.query ∧
        ∀ asked answer, .asked (.list asked) answer ∈ log → asked = op.target b.query := by
    intro γ t hkeeps hcourse
    obtain ⟨a, hfirst⟩ := course_board_iff.mp hcourse
    exact hkeeps _ _ _ hfirst
  cases op with
  | command c => exact ofKeeps (keeps_handle b c) h
  | apply patch => exact ofKeeps (keeps_applyPatch rfl) h
  | drain => exact ofKeeps (keeps_applyAll (b := b.emptied) b.live.inbox rfl) h
  | teardown => exact ofKeeps (keeps_teardown rfl) h
  | receive patches =>
    obtain ⟨rfl, rfl⟩ := Task.course_done_iff.mp h
    exact ⟨rfl, fun _ _ hmem => absurd hmem List.not_mem_nil⟩
  | take =>
    obtain ⟨rfl, _, rfl⟩ := course_perform_take h
    exact ⟨rfl, fun _ _ hmem => absurd hmem List.not_mem_nil⟩

/-- An operation that turns asks for the page of its query. -/
lemma asks_of_turns {op : Operation} (hturns : op.turns = true)
    (h : (b.perform op).Course log b') :
    ∃ answer, .asked (.list (op.target b.query)) answer ∈ log := by
  have ofTurn : ∀ {query : Query} {outcome : Except ActionError Unit},
      ((b.turnTo query >>= fun p => pure (p.1, outcome)) >>= fun p => pure p.1).Course log b' →
        ∃ answer, .asked (.list query) answer ∈ log := by
    intro query outcome hcourse
    simp only [Task.course_bind_iff, Task.pure_eq_done, Task.course_done_iff] at hcourse
    obtain ⟨_, _, _, rfl, ⟨⟨c, shown⟩, first, _, rfl, hturn, -, -⟩, -, -⟩ := hcourse
    obtain ⟨rest, rfl, hloads⟩ := course_turnTo hturn
    cases hloads with
    | shown page arrived => exact ⟨⟨.ok page, arrived⟩, by simp⟩
    | failed e arrived => exact ⟨⟨.error e, arrived⟩, by simp⟩
  cases op with
  | command c =>
    cases c with
    | setPage page perPage => exact ofTurn h
    | setWorkflow workflow => exact ofTurn h
    | _ => cases hturns
  | _ => cases hturns

/-! ### The rows are those of the page that was fetched last -/

/-- The identifiers of the rows are among those of the page that was fetched last; if none was
fetched, among those of the rows before. -/
def OnFetched (b : Board) (log : BoardLog) (b' : Board) : Prop :=
  b'.rows.map Run.id ⊆
    match (listed log).getLast? with
    | some (_, page) => page.items.map Run.id
    | none => b.rows.map Run.id

namespace OnFetched

lemma of_subset (hnone : listed log = []) (h : b'.rows.map Run.id ⊆ b.rows.map Run.id) :
    OnFetched b log b' := by
  simpa [OnFetched, hnone] using h

lemma of_rows_eq (hnone : listed log = []) (h : b'.rows = b.rows) : OnFetched b log b' :=
  of_subset hnone (by rw [h]; exact List.Subset.refl _)

lemma trans {c : Board} {rest : BoardLog} (h : OnFetched b log c) (h' : OnFetched c rest b') :
    OnFetched b (log ++ rest) b' := by
  unfold OnFetched at h h' ⊢
  rw [listed_append, List.getLast?_append]
  cases hlast : (listed rest).getLast? with
  | some last => simpa [hlast] using h'
  | none =>
    rw [hlast] at h'
    simpa using List.Subset.trans h' h

lemma patched (b : Board) (patch : Patch) :
    (b.patched patch).rows.map Run.id ⊆ b.rows.map Run.id := by
  have hmerges := Subscriptions.merges_merge b.live patch b.rows b.detail
  simp only [Board.patched]
  generalize b.live.merge patch b.rows b.detail = merged at hmerges
  cases hmerges with
  | notSubscribed | notOnPage | stale => exact List.Subset.refl _
  | removed => exact (List.eraseP_sublist.map Run.id).subset
  | applied => simp

lemma step (h : Step b log b') : OnFetched b log b' := by
  cases h with
  | patch patch =>
    refine of_subset ?_ (patched b patch)
    split
    · exact listed_releasing _
    · rfl
  | load page arrived follows =>
    have hrows : b'.rows = ((b.receive arrived).replacePage page).rows := by
      cases follows <;> rfl
    simp [OnFetched, listed_cons, listedAt, follows.listed_eq, hrows, map_id_replacePage]
  | fail e arrived => exact of_rows_eq (by simp [listed_cons, listedAt]) (failed_rows _ e)
  | remove | cancel => exact of_rows_eq rfl rfl
  | removeFailed | cancelFailed => exact of_rows_eq (by simp [listed_cons, listedAt]) rfl
  | drop ids => exact of_subset rfl ((List.filter_sublist.map Run.id).subset)
  | take hnext =>
    obtain ⟨_, -, rfl⟩ := nextPatch?_eq_some_iff.mp hnext
    exact of_rows_eq rfl rfl
  | receive | empty | turn | select | clearSelection | closeDetail => exact of_rows_eq rfl rfl
  | toggle id => exact of_rows_eq rfl (by simp)
  | openDetail id => exact of_rows_eq rfl (by simp)

lemma history {deeds : List Deed} (h : History b deeds b') : OnFetched b (logOf deeds) b' :=
  h.keep (fun _ => of_rows_eq rfl rfl) trans step
    fun _ => of_rows_eq (listed_releasing _) rfl

end OnFetched

/-! ### The law -/

/-- A deed that turned to another page or workflow and could not fetch the page. -/
structure Deed.TurnsInVain (deed : Deed) : Prop where
  turns : deed.operation.turns = true
  failed : ∃ q e arrived, .asked (.list q) ⟨.error e, arrived⟩ ∈ deed.log

/-- The query is that of the page that was fetched last, or the board has been turned in vain
since. -/
lemma query_of_history {query : Query} {deeds : List Deed} (h : History (.new query) deeds b) :
    ∀ q page, (listed (logOf deeds)).getLast? = some (q, page) →
      q = b.query ∨ ∃ before deed after, deeds = before ++ deed :: after ∧ deed.TurnsInVain ∧
        listed (logOf (deed :: after)) = [] := by
  induction h with
  | start => simp [logOf, listed]
  | @next deeds c d deed _ course ih =>
    obtain ⟨hquery, hasked⟩ := query_of_course_perform course
    intro q page hlast
    rw [logOf_append, listed_append, List.getLast?_append] at hlast
    cases hnew : (listed deed.log).getLast? with
    | some last =>
      -- the page was fetched in this deed
      obtain ⟨arrived, hmem⟩ : ∃ arrived, .asked (.list q) ⟨.ok page, arrived⟩ ∈ deed.log := by
        rw [hnew, Option.some_or, Option.some.injEq] at hlast
        exact mem_listed_iff.mp (hlast ▸ List.mem_of_getLast? hnew)
      exact Or.inl ((hasked q _ hmem).trans hquery.symm)
    | none =>
      have hnone : listed deed.log = [] := List.getLast?_eq_none_iff.mp hnew
      rw [hnew, Option.none_or] at hlast
      by_cases hturns : deed.operation.turns = true
      · -- it asked for a page, and did not get it
        obtain ⟨⟨result, arrived⟩, hmem⟩ := asks_of_turns hturns course
        cases result with
        | ok got =>
          have hgot := mem_listed_iff.mpr ⟨arrived, hmem⟩
          rw [hnone] at hgot
          exact absurd hgot List.not_mem_nil
        | error e =>
          exact Or.inr ⟨deeds, deed, [], rfl, ⟨hturns, _, e, arrived, hmem⟩,
            by simpa [logOf] using hnone⟩
      · have hsame : d.query = c.query := by
          rw [hquery, Operation.target_of_not_turns hturns]
        rcases ih q page hlast with heq | ⟨before, vain, after, rfl, hvain, hsince⟩
        · exact Or.inl (heq.trans hsame.symm)
        · refine Or.inr ⟨before, vain, after ++ [deed], by simp, hvain, ?_⟩
          have happend : vain :: (after ++ [deed]) = (vain :: after) ++ [deed] := rfl
          rw [happend, logOf_append, listed_append, hsince, hnone, List.append_nil]

/-- **The rows belong to the query**, unless the board was turned in vain.  After every history of
a new board that shows some row, a page has been fetched, and every row is that of a run on the last
page that was.  That page was asked for with the query of the board, unless since then the board was
turned to another page or workflow whose page could not be fetched. -/
theorem page_of_query_unless_turned_in_vain {query : Query} {deeds : List Deed} {b : Board}
    (history : History (.new query) deeds b) (shown : b.rows ≠ []) :
    ∃ q page, (listed (logOf deeds)).getLast? = some (q, page) ∧
      b.rows.map Run.id ⊆ page.items.map Run.id ∧
      (q = b.query ∨ ∃ before deed after, deeds = before ++ deed :: after ∧ deed.TurnsInVain ∧
        listed (logOf (deed :: after)) = []) := by
  have hshows : OnFetched (.new query) (logOf deeds) b := .history history
  unfold OnFetched at hshows
  cases hlast : (listed (logOf deeds)).getLast? with
  | none =>
    rw [hlast] at hshows
    have hrows : b.rows.map Run.id = [] := List.subset_nil.mp hshows
    exact absurd (List.map_eq_nil_iff.mp hrows) shown
  | some last =>
    obtain ⟨q, page⟩ := last
    rw [hlast] at hshows
    exact ⟨q, page, rfl, hshows, query_of_history history q page hlast⟩

/-- A page is loaded, and then another one cannot be fetched. -/
def turnedInVain : (Deed × Board) × (Deed × Board) :=
  let loaded := (Board.new (.of none 1 10 false)).act (.command .refresh)
    (answerWith ⟨[.bare "a" .succeeded], 1⟩ "refused")
  (loaded, loaded.2.act (.command (.setPage 3 10)) fun
    | .list _ => ⟨.error (.transport "down"), []⟩
    | .remove _ | .cancel _ _ | .subscribe _ => ⟨.ok true, []⟩
    | .subscribeAll _ => ⟨none, []⟩)

theorem page_of_query_unless_turned_in_vain_after_failure :
    turnedInVain.2.2.rows ≠ [] ∧ turnedInVain.2.2.query = .of none 3 10 false ∧
    ∃ q page, (listed (logOf [turnedInVain.1.1, turnedInVain.2.1])).getLast? = some (q, page) ∧
      turnedInVain.2.2.rows.map Run.id ⊆ page.items.map Run.id ∧
      (q = turnedInVain.2.2.query ∨ ∃ before deed after,
        [turnedInVain.1.1, turnedInVain.2.1] = before ++ deed :: after ∧ deed.TurnsInVain ∧
        listed (logOf (deed :: after)) = []) := by
  have history : History (.new (.of none 1 10 false)) [turnedInVain.1.1, turnedInVain.2.1]
      turnedInVain.2.2 := .next (.next .start (course_act _ _ _)) (course_act _ _ _)
  have shown : turnedInVain.2.2.rows ≠ [] := by
    intro h
    cases h
  exact ⟨shown, rfl, page_of_query_unless_turned_in_vain history shown⟩

/-- After turning in vain the rows of the old page stand under the new query, and their numbers are
those of rows on the page that could not be fetched. -/
theorem old_rows_under_new_query :
    turnedInVain.1.2.rows.map Run.id = ["a"] ∧ turnedInVain.1.2.rowNumber 0 = 1 ∧
    turnedInVain.2.2.rows.map Run.id = ["a"] ∧ turnedInVain.2.2.rowNumber 0 = 21 ∧
    ¬ ∀ (query : Query) (deeds : List Deed) (b : Board), History (.new query) deeds b →
      b.rows ≠ [] → ∃ page, (listed (logOf deeds)).getLast? = some (b.query, page) := by
  refine ⟨rfl, rfl, rfl, rfl, fun law => ?_⟩
  have history : History (.new (.of none 1 10 false)) [turnedInVain.1.1, turnedInVain.2.1]
      turnedInVain.2.2 := .next (.next .start (course_act _ _ _)) (course_act _ _ _)
  obtain ⟨page, hlast⟩ := law _ _ _ history (by intro h; cases h)
  have hquery : turnedInVain.2.2.query = .of none 1 10 false := by
    have hfetched : (listed (logOf [turnedInVain.1.1, turnedInVain.2.1])).getLast? =
        some (.of none 1 10 false, ⟨[.bare "a" .succeeded], 1⟩) := rfl
    exact (Prod.mk.inj (Option.some.inj (hlast.symm.trans hfetched))).1
  exact absurd hquery (by decide)

end RunBoard.Board
