import RunBoard.Proofs.Session.Conduct

/-!
# What a session waits for once it has been told to stop

A session that has been told to stop gives up the page and the subscriptions that it waits for, and
after that it has no need of the backend any more.  A removal or a cancellation that is pending is
not given up: the session waits for its answer, however long that takes, and leaves only then.

`Yields` describes tasks that ask for nothing else than what is given up.  The first page and what
follows a removal or a cancellation are such tasks, and so every chore of a session `Acts`: it
yields, or it begins with a removal or a cancellation and yields after that.
-/

namespace RunBoard

/-- Whether a call asks for something to be done to runs. -/
def Call.isAction : Call → Bool
  | remove _ | cancel _ _ => true
  | list _ | subscribe _ | subscribeAll _ => false

namespace Session

variable {α β : Type} {s : Session} {told : Bool} {w : Work} {r r' : Running}
  {happened : List Happening} {b : Board}

/-! ### Tasks that yield -/

/-- A task asks for nothing else than what is given up. -/
def Yields : BoardTask α → Prop
  | .done _ => True
  | .tell _ task => Yields task
  | .ask c k => c.interruptible = true ∧ ∀ answer, Yields (k answer)

/-- A task asks for nothing. -/
def Quiet : BoardTask α → Prop
  | .done _ => True
  | .tell _ task => Quiet task
  | .ask _ _ => False

/-- A task yields, or it begins with an action and yields after that. -/
def Acts (task : BoardTask α) : Prop :=
  Yields task ∨ ∃ c k, task = .ask c k ∧ c.isAction = true ∧ ∀ answer, Yields (k answer)

lemma Yields.bind {task : BoardTask α} {f : α → BoardTask β} (h : Yields task)
    (hf : ∀ a, Yields (f a)) : Yields (task >>= f) := by
  induction task with
  | done a => exact hf a
  | tell e task ih => exact ih h
  | ask c k ih => exact ⟨h.1, fun answer => ih answer (h.2 answer)⟩

lemma Quiet.bind {task : BoardTask α} {f : α → BoardTask β} (h : Quiet task)
    (hf : ∀ a, Quiet (f a)) : Quiet (task >>= f) := by
  induction task with
  | done a => exact hf a
  | tell e task ih => exact ih h
  | ask c k => exact absurd h not_false

lemma Quiet.yields {task : BoardTask α} (h : Quiet task) : Yields task := by
  induction task with
  | done a => trivial
  | tell e task ih => exact ih h
  | ask c k => exact absurd h not_false

lemma Acts.bind {task : BoardTask α} {f : α → BoardTask β} (h : Acts task)
    (hf : ∀ a, Yields (f a)) : Acts (task >>= f) := by
  rcases h with h | ⟨c, k, rfl, haction, hk⟩
  · exact Or.inl (h.bind hf)
  · exact Or.inr ⟨c, _, rfl, haction, fun answer => (hk answer).bind hf⟩

lemma quiet_emitAll (events : List Event) : Quiet (Task.emitAll events : BoardTask Unit) := by
  induction events with
  | nil => trivial
  | cons e events ih => exact ih

lemma quiet_report (e : RequestError) : Quiet (report e) := by
  unfold report
  split
  · trivial
  · trivial

/-! ### The tasks of a session -/

lemma quiet_teardown (b : Board) : Quiet b.teardown := by
  have hlive : Quiet b.live.teardown := (quiet_emitAll _).bind fun _ => trivial
  exact hlive.bind fun _ => trivial

lemma yields_subscribeAll (live : Subscriptions) (ids : List RunId) :
    Yields (live.subscribeAll ids) := by
  unfold Subscriptions.subscribeAll
  dsimp only
  split
  · trivial
  · refine ⟨rfl, fun ⟨result, arrived⟩ => ?_⟩
    cases result with
    | none => exact Quiet.yields ((quiet_emitAll _).bind fun _ => trivial)
    | some result => trivial

lemma yields_follow (b : Board) : Yields b.follow := by
  have hsync : Yields (b.live.sync b.rows) :=
    (quiet_emitAll _).yields.bind fun _ => (yields_subscribeAll _ _).bind fun _ => trivial
  refine hsync.bind fun ⟨live, outcome⟩ => ?_
  cases outcome with
  | ok _ => trivial
  | error e =>
    exact Quiet.yields ((quiet_teardown _).bind fun _ => (quiet_report e).bind fun _ => trivial)

lemma yields_load (b : Board) : Yields b.load := by
  refine ⟨rfl, fun ⟨result, arrived⟩ => ?_⟩
  cases result with
  | ok page => exact (yields_follow _).bind fun _ => trivial
  | error e => exact Quiet.yields ((quiet_report e).bind fun _ => trivial)

lemma yields_turnTo (b : Board) (query : Query) : Yields (b.turnTo query) :=
  (quiet_teardown b).yields.bind fun _ => yields_load _

lemma acts_request (b : Board) {c : Call} (result : c.Result → Except RequestError Bool)
    (haction : c.isAction = true) : Acts (b.request c result) := by
  refine Or.inr ⟨c, _, rfl, haction, fun answer => ?_⟩
  rw [Task.bind]
  dsimp only
  cases result answer.result with
  | ok accepted => trivial
  | error e => exact Quiet.yields ((quiet_report e).bind fun _ => trivial)

lemma acts_cancelRun (b : Board) (id : RunId) : Acts (b.cancelRun id) := by
  unfold Board.cancelRun
  split
  · exact Or.inl trivial
  · split
    · exact Or.inl trivial
    · refine (acts_request b _ rfl).bind fun ⟨c, outcome⟩ => ?_
      rcases outcome with e | _ | _
      · trivial
      · trivial
      · exact (yields_load c).bind fun _ => trivial

lemma acts_deleteRun (b : Board) (id : RunId) : Acts (b.deleteRun id) := by
  unfold Board.deleteRun
  split
  · exact Or.inl trivial
  · split
    · exact Or.inl trivial
    · refine (acts_request b _ rfl).bind fun ⟨c, outcome⟩ => ?_
      rcases outcome with e | _ | _
      · trivial
      · trivial
      · exact (yields_load _).bind fun _ => trivial

lemma acts_deleteSelected (b : Board) : Acts b.deleteSelected := by
  unfold Board.deleteSelected
  dsimp only
  split
  · exact Or.inl trivial
  · refine (acts_request b _ rfl).bind fun ⟨c, outcome⟩ => ?_
    rcases outcome with e | _ | _
    · trivial
    · trivial
    · exact (yields_load _).bind fun _ => trivial

lemma acts_handle (b : Board) (c : Command) : Acts (b.handle c) := by
  cases c with
  | refresh => exact Or.inl ((yields_load b).bind fun _ => trivial)
  | setPage page perPage => exact Or.inl ((yields_turnTo b _).bind fun _ => trivial)
  | setWorkflow workflow => exact Or.inl ((yields_turnTo b _).bind fun _ => trivial)
  | select | toggle | clearSelection | closeDetail => exact Or.inl trivial
  | cancel id => exact (acts_cancelRun b id).bind fun _ => trivial
  | delete id => exact (acts_deleteRun b id).bind fun _ => trivial
  | deleteSelected => exact (acts_deleteSelected b).bind fun _ => trivial
  | openDetail id =>
    simp only [Board.handle]
    split <;> exact Or.inl trivial

lemma quiet_applyPatch (b : Board) (patch : Patch) : Quiet (b.applyPatch patch) := by
  have happly : Quiet (b.live.apply patch b.rows b.detail) := by
    unfold Subscriptions.apply
    dsimp only
    split
    · trivial
    · trivial
  refine happly.bind fun ⟨live, merged⟩ => ?_
  dsimp only
  split
  · trivial
  · trivial

/-- A chore acts, and what is done on leaving asks for nothing. -/
def Work.Regular : Work → Prop
  | .chore task => Acts task
  | .leaving task => Quiet task
  | .idle | .returned _ => True

lemma regular_of_step (h : r.work.Regular) (step : Step r happened r') : r'.work.Regular := by
  cases step with
  | own step =>
    cases step with
    | @command s told c rest =>
      have hobey : Acts (s.obey c rest) := (acts_handle _ _).bind fun _ => trivial
      exact hobey.bind fun _ => trivial
    | patch => exact Or.inl (Quiet.yields ((quiet_applyPatch _ _).bind fun _ => trivial))
    | stop => exact (quiet_teardown _).bind fun _ => trivial
    | tell =>
      rcases h with h | ⟨c, k, heq, -⟩
      · exact Or.inl h
      · cases heq
    | giveUp _ arrived =>
      rcases h with ⟨-, h⟩ | ⟨c, k, heq, -, h⟩
      · exact Or.inl (h _)
      · cases heq
        exact Or.inl (h _)
    | finish => trivial
    | release => exact h
    | leave => trivial
  | answer answer =>
    rcases h with ⟨-, h⟩ | ⟨c, k, heq, -, h⟩
    · exact Or.inl (h _)
    · cases heq
      exact Or.inl (h _)
  | send | close | tellToStop => exact h
  | receive => trivial

lemma regular_of_runs {trace : List Happening} (runs : Runs (begin s) trace r) :
    r.work.Regular := by
  induction runs with
  | start =>
    have hstart : Yields s.start := (yields_load _).bind fun _ => trivial
    exact Or.inl (hstart.bind fun _ => trivial)
  | next _ step ih => exact regular_of_step ih step

/-! ### Returning without the backend -/

/-- However a session goes on by itself, it returns; it needs no answer for that. -/
inductive Returns : Running → Prop
  | returned {s : Session} {told : Bool} {b : Board} : Returns ⟨s, told, .returned b⟩
  | step {r : Running} (able : ∃ happened r', Own r happened r')
      (always : ∀ happened r', Own r happened r' → Returns r') : Returns r

lemma returns_leaving {task : BoardTask Board} (h : Quiet task) :
    Returns ⟨s, told, .leaving task⟩ := by
  induction task with
  | done b =>
    refine .step ⟨_, _, .leave⟩ fun _ _ hown => ?_
    cases hown
    exact .returned
  | tell e task ih =>
    refine .step ⟨_, _, .release⟩ fun _ _ hown => ?_
    cases hown
    exact ih h
  | ask c k => exact absurd h not_false

lemma returns_idle : Returns ⟨s, true, .idle⟩ := by
  refine .step ⟨_, _, .stop rfl⟩ fun _ _ hown => ?_
  cases hown with
  | command turn => cases turn
  | patch turn => cases turn
  | stop turn => exact returns_leaving ((quiet_teardown _).bind fun _ => trivial)

lemma returns_chore {task : BoardTask (Session × Option Frame)} (h : Yields task) :
    Returns ⟨s, true, .chore task⟩ := by
  induction task with
  | done p =>
    refine .step ⟨_, _, .finish⟩ fun _ _ hown => ?_
    cases hown
    exact returns_idle
  | tell e task ih =>
    refine .step ⟨_, _, .tell⟩ fun _ _ hown => ?_
    cases hown
    exact ih h
  | ask c k ih =>
    obtain ⟨hinterruptible, hk⟩ := h
    rw [← Call.isSome_abandoned?] at hinterruptible
    obtain ⟨result, habandoned⟩ := Option.isSome_iff_exists.mp hinterruptible
    refine .step ⟨_, _, .giveUp habandoned []⟩ fun _ _ hown => ?_
    cases hown
    exact ih _ (hk _)

/-- A pending action is not given up. -/
lemma not_returns_of_action {c : Call} {k : Call.Answer c → BoardTask (Session × Option Frame)}
    (haction : c.isAction = true) : ¬Returns ⟨s, told, .chore (.ask c k)⟩ := by
  intro h
  cases h with
  | step able =>
    obtain ⟨happened, r', hown⟩ := able
    cases hown with
    | giveUp abandoned => cases c <;> cases haction <;> cases abandoned

/-- **A session that is told to stop waits for nothing but an action that is pending.**  In every
state that a run can reach after that, the session returns by itself, however it goes on, exactly if
it does not wait for the answer to a removal or a cancellation.  If it waits for any answer, it
returns by itself once it has got it. -/
theorem returns_once_told_iff_not_acting {b₀ : Board} {trace : List Happening} {r : Running}
    (runs : Runs (begin (.new b₀)) trace r) (told : r.told = true) :
    (Returns r ↔ ∀ c k, r.work = .chore (.ask c k) → c.isAction = false) ∧
      ∀ c k, r.work = .chore (.ask c k) →
        ∀ answer, Returns ⟨r.session, true, .chore (k answer)⟩ := by
  have hregular := regular_of_runs runs
  obtain ⟨s, stopping, work⟩ := r
  obtain rfl : stopping = true := told
  have hforward : Returns ⟨s, true, work⟩ →
      ∀ c k, work = .chore (.ask c k) → c.isAction = false := by
    rintro hreturns c k rfl
    by_contra haction
    exact not_returns_of_action (Bool.eq_true_of_not_eq_false haction) hreturns
  cases work with
  | idle => exact ⟨⟨hforward, fun _ => returns_idle⟩, nofun⟩
  | leaving task => exact ⟨⟨hforward, fun _ => returns_leaving hregular⟩, nofun⟩
  | returned b => exact ⟨⟨hforward, fun _ => .returned⟩, nofun⟩
  | chore task =>
    rcases hregular with hyields | ⟨c, k, rfl, haction, hk⟩
    · refine ⟨⟨hforward, fun _ => returns_chore hyields⟩, ?_⟩
      rintro c k heq answer
      cases heq
      exact returns_chore (hyields.2 answer)
    · refine ⟨⟨hforward, fun hnone => ?_⟩, ?_⟩
      · rw [hnone c k rfl] at haction
        cases haction
      · rintro c' k' heq answer
        cases heq
        exact returns_chore (hk answer)

/-- A run is canceled, and the session is told to stop before the backend has answered. -/
lemma told_to_stop_while_canceling :
    ∃ trace r, Runs (begin (.new (.new (.of none 1 10 false)))) trace r ∧ r.told = true ∧
      ∃ k, r.work = .chore (.ask (.cancel "" "a") k) := by
  have loading : Runs (begin (.new (.new (.of none 1 10 false)))) [] _ := .start
  have listed := loading.next (.answer (c := .list (.of none 1 10 false))
    ⟨.ok ⟨[.bare "a" .pending], 1⟩, []⟩ trivial fun _ => rfl)
  have subscribed := listed.next (.answer (c := .subscribeAll ["a"])
    ⟨some fun _ => .ok true, []⟩ rfl fun _ => rfl)
  have loaded := subscribed.next (.own .finish)
  have sent := loaded.next (.send (.cancel "a") (by simp))
  have begun := sent.next (.own (.command (c := .cancel "a") rfl))
  exact ⟨_, _, begun.next .tellToStop, rfl, _, rfl⟩

theorem returns_once_told_iff_not_acting_of_cancel :
    ∃ trace r, Runs (begin (.new (.new (.of none 1 10 false)))) trace r ∧ r.told = true ∧
      ∃ k, r.work = .chore (.ask (.cancel "" "a") k) ∧ ¬Returns r ∧
        ∀ answer, Returns ⟨r.session, true, .chore (k answer)⟩ := by
  obtain ⟨trace, r, runs, told, k, hwork⟩ := told_to_stop_while_canceling
  obtain ⟨hiff, hanswered⟩ := returns_once_told_iff_not_acting runs told
  refine ⟨trace, r, runs, told, k, hwork, fun hreturns => ?_, hanswered _ k hwork⟩
  have haction := hiff.mp hreturns _ k hwork
  cases haction

/-- A session that is told to stop need not return before the backend answers. -/
theorem waits_for_cancel_once_told :
    ¬ ∀ (b₀ : Board) (trace : List Happening) (r : Running), Runs (begin (.new b₀)) trace r →
      r.told = true → Returns r := by
  intro law
  obtain ⟨trace, ⟨s, told, work⟩, runs, htold, k, rfl⟩ := told_to_stop_while_canceling
  exact not_returns_of_action rfl (law _ _ _ runs htold)

end Session

end RunBoard
