import Mathlib.Logic.Function.Basic
import RunBoard.Proofs.Board.Subscribing
import RunBoard.Proofs.Realtime.Coherence

/-!
# Views that share a hub

Each view has a listener of its own on the hub and keeps the runs that it has subscribed.  A view
subscribes runs in batches: a batch puts one subscription to the hub for each run that is missing,
and it is over when all of them have ended, or when it is given up, and then those that are still
running are dropped and all of its runs are left again.

`Audience` is a hub with its views, and `Audience.step` says what each event does to them.  What a
view does between two waits is one event, and so the events of all views, of the connection and of
the backend can follow each other in any order.  An event that a view is not ready for does nothing.

The task of a batch puts a single question, and the runs of its view stay the same until there is an
answer; so the task is carried out as a whole when the batch is settled or withdrawn.
-/

namespace RunBoard.Realtime

open Backend (runTopic)

/-- One run of a batch, and the subscription that was put to the hub for it. -/
structure Attempt where
  id : RunId
  ticket : Ticket
  /-- The result, once the subscription has ended. -/
  result : Option (Except RequestError Bool)

/-- A batch that is not over yet. -/
structure Batch where
  wanted : List RunId
  attempts : List Attempt
  givenUp : Bool

/-- What a view keeps of its subscriptions. -/
structure View where
  live : Subscriptions
  batch : Option Batch

/-- The patches that effects bring to a listener. -/
def arrivals (l : Listener) (effects : List Effect) : List Patch :=
  effects.filterMap fun
    | .deliver k patch => if k = l then some patch else none
    | .connect | .disconnect | .post _ _ _ | .finish _ _ => none

/-- The attempt when subscriptions have ended. -/
def Attempt.hear (ends : List Ending) (t : Attempt) : Attempt :=
  match ends.lookup t.ticket with
  | none => t
  | some result => { t with result := some result }

namespace Batch

/-- The batch when subscriptions have ended. -/
def hear (ends : List Ending) (b : Batch) : Batch :=
  { b with attempts := b.attempts.map (Attempt.hear ends) }

/-- The batch with one more attempt. -/
def add (b : Batch) (id : RunId) (τ : Ticket) : Batch :=
  { b with attempts := b.attempts ++ [⟨id, τ, none⟩] }

/-- The batch without an attempt. -/
def remove (b : Batch) (τ : Ticket) : Batch :=
  { b with attempts := b.attempts.filter (·.ticket ≠ τ) }

/-- The result for a run, which has an attempt that has ended. -/
def resultOf (b : Batch) (id : RunId) : Except RequestError Bool :=
  ((b.attempts.find? (·.id == id)).bind Attempt.result).getD (.error .aborted)

/-- Whether a run can be attempted: it is missing, and it has not been attempted yet. -/
def Lacks (b : Batch) (live : Subscriptions) (id : RunId) : Prop :=
  b.givenUp = false ∧ id ∈ live.missing b.wanted ∧ ∀ t ∈ b.attempts, t.id ≠ id

/-- Whether each run that is missing has been attempted, and all attempts have ended. -/
def Answered (b : Batch) (live : Subscriptions) : Prop :=
  b.givenUp = false ∧ (∀ t ∈ b.attempts, t.result.isSome) ∧
    ∀ id ∈ live.missing b.wanted, ∃ t ∈ b.attempts, t.id = id

/-- Whether the batch has been given up, and its attempts with it. -/
def Deserted (b : Batch) : Prop :=
  b.givenUp = true ∧ b.attempts.isEmpty

instance (b : Batch) (live : Subscriptions) (id : RunId) : Decidable (b.Lacks live id) :=
  inferInstanceAs (Decidable (_ ∧ _ ∧ _))

instance (b : Batch) (live : Subscriptions) : Decidable (b.Answered live) :=
  inferInstanceAs (Decidable (_ ∧ _ ∧ _))

instance (b : Batch) : Decidable b.Deserted :=
  inferInstanceAs (Decidable (_ ∧ _))

end Batch

/-- The view of a listener when the hub has had effects. -/
def View.hear (l : Listener) (effects : List Effect) (v : View) : View :=
  ⟨v.live.receive (arrivals l effects), v.batch.map (Batch.hear (endings effects))⟩

namespace View

/-- The attempts of a view. -/
def attempts (v : View) : List Attempt :=
  match v.batch with
  | none => []
  | some b => b.attempts

/-- The runs that a view is subscribing. -/
def pending (v : View) : List RunId :=
  match v.batch with
  | none => []
  | some b => v.live.missing b.wanted

/-- The runs that the hub may have come to know of: those that have been attempted, and all of the
batch once it has been given up. -/
def touched (v : View) : List RunId :=
  match v.batch with
  | none => []
  | some b => if b.givenUp then v.live.missing b.wanted else b.attempts.map Attempt.id

end View

/-- How the calls of a batch are answered; patches do not wait for the answer, but are received as
they come. -/
def answerBatch (result : Option (RunId → Except RequestError Bool)) : (c : Call) → Call.Answer c
  | .list _ => ⟨(.error .aborted : Except RequestError Page), []⟩
  | .remove _ => ⟨(.error .aborted : Except RequestError Bool), []⟩
  | .cancel _ _ => ⟨(.error .aborted : Except RequestError Bool), []⟩
  | .subscribe _ => ⟨(.error .aborted : Except RequestError Bool), []⟩
  | .subscribeAll _ => ⟨result, []⟩

/-- A hub, and for each listener the view that it belongs to. -/
structure Audience where
  hub : Hub
  views : Listener → View
  /-- A ticket that has not been used yet. -/
  next : Ticket

/-- What happens to a batch. -/
inductive BatchEvent where
  /-- It puts a subscription to the hub. -/
  | attempt (id : RunId)
  /-- It takes in its results, and is over. -/
  | settle
  | giveUp
  /-- It drops an attempt, after it has been given up. -/
  | abandon (ticket : Ticket)
  /-- It leaves all its runs, after it has been given up, and is over. -/
  | withdraw

/-- What happens to an audience. -/
inductive AudienceEvent where
  /-- A view begins a batch. -/
  | want (l : Listener) (wanted : List RunId)
  | batch (l : Listener) (event : BatchEvent)
  | release (l : Listener) (id : RunId)
  | releaseAll (l : Listener)
  /-- An errand of the hub looks whether it can go on. -/
  | resume (ticket : Ticket)
  /-- The time that an errand has for a connection is over. -/
  | expire (ticket : Ticket)
  /-- The backend answers a post. -/
  | posted (ticket : Ticket) (result : Except RequestError Unit)
  | message (name data : String)
  /-- The connection is lost, and the backend is being called again. -/
  | lost
  /-- The connection is lost for good. -/
  | ended

namespace Audience

/-- A hub that nobody has used, and views without subscriptions. -/
def new (patience : Nat) : Audience :=
  ⟨.new patience, fun _ => ⟨.empty, none⟩, 0⟩

/-- Changes the view of a listener. -/
def put (a : Audience) (l : Listener) (v : View) : Audience :=
  { a with views := Function.update a.views l v }

/-- Something happens to the hub, and all views hear of its effects. -/
def perform (a : Audience) (event : HubEvent) : Audience :=
  ⟨(a.hub.step event).1, fun l => (a.views l).hear l (a.hub.step event).2, a.next + 1⟩

/-- A view tells its surroundings of an event: if it does not want the patches of a run any more,
its listener leaves the topic of the run. -/
def tell (l : Listener) (a : Audience) : Event → Audience
  | .unsubscribe id => a.perform (.unsubscribe a.next (runTopic id) l)
  | .notify _ => a

/-- A view carries out a task on its subscriptions, after which it has no batch. -/
def carry {α : Type} (a : Audience) (l : Listener) (task : BoardTask (Subscriptions × α))
    (result : Option (RunId → Except RequestError Bool)) : Audience :=
  let (log, live, _) := task.play (answerBatch result)
  (Task.told log).foldl (tell l) (a.put l ⟨live, none⟩)

/-- What an event does to the batch of a view. -/
def stepBatch (a : Audience) (l : Listener) (live : Subscriptions) (b : Batch) :
    BatchEvent → Audience
  | .attempt id =>
    if b.Lacks live id then
      (a.put l ⟨live, some (b.add id a.next)⟩).perform (.subscribe a.next (runTopic id) l)
    else a
  | .settle =>
    if b.Answered live then a.carry l (live.subscribeAll b.wanted) (some b.resultOf) else a
  | .giveUp => a.put l ⟨live, some { b with givenUp := true }⟩
  | .abandon τ =>
    if b.givenUp ∧ ∃ t ∈ b.attempts, t.ticket = τ then
      (a.put l ⟨live, some (b.remove τ)⟩).perform (.drop τ)
    else a
  | .withdraw =>
    if b.Deserted then a.carry l (live.subscribeAll b.wanted) none else a

/-- What an event does. -/
def step (a : Audience) : AudienceEvent → Audience
  | .want l wanted =>
    match a.views l with
    | ⟨live, none⟩ => a.put l ⟨live, some ⟨wanted, [], false⟩⟩
    | ⟨_, some _⟩ => a
  | .batch l event =>
    match a.views l with
    | ⟨_, none⟩ => a
    | ⟨live, some b⟩ => a.stepBatch l live b event
  | .release l id =>
    match a.views l with
    | ⟨live, none⟩ => a.carry l (live.release id) none
    | ⟨_, some _⟩ => a
  | .releaseAll l =>
    match a.views l with
    | ⟨live, none⟩ => a.carry l live.releaseAll none
    | ⟨_, some _⟩ => a
  | .resume τ => a.perform (.resume τ)
  | .expire τ => a.perform (.expire τ)
  | .posted τ result => a.perform (.posted τ result)
  | .message name data => a.perform (.message a.next name data)
  | .lost => a.perform .lost
  | .ended => a.perform .ended

/-- What events do one after the other. -/
def run (a : Audience) (events : List AudienceEvent) : Audience :=
  events.foldl step a

end Audience

/-! ### What the effects of the hub change -/

namespace Attempt

variable {ends : List Ending} {t : Attempt}

@[simp] lemma hear_id : (t.hear ends).id = t.id := by
  unfold hear
  split <;> rfl

@[simp] lemma hear_ticket : (t.hear ends).ticket = t.ticket := by
  unfold hear
  split <;> rfl

/-- An attempt hears of an end of its subscription, or of nothing. -/
lemma hear_cases (ends : List Ending) (t : Attempt) :
    (∃ result, (t.ticket, result) ∈ ends ∧ t.hear ends = { t with result := some result }) ∨
    ((∀ result, (t.ticket, result) ∉ ends) ∧ t.hear ends = t) := by
  unfold hear
  cases hlookup : ends.lookup t.ticket with
  | none =>
    refine .inr ⟨fun result hmem => ?_, rfl⟩
    have hne := List.lookup_eq_none_iff.mp hlookup _ hmem
    simp at hne
  | some result => exact .inl ⟨result, mem_of_lookup_eq_some hlookup, rfl⟩

end Attempt

namespace View

variable {l : Listener} {effects : List Effect} {v : View} {id : RunId}

@[simp] lemma mem_hear_live : id ∈ (v.hear l effects).live ↔ id ∈ v.live := Iff.rfl

@[simp] lemma hear_attempts :
    (v.hear l effects).attempts = v.attempts.map (Attempt.hear (endings effects)) := by
  obtain ⟨live, batch⟩ := v
  cases batch <;> rfl

@[simp] lemma hear_pending : (v.hear l effects).pending = v.pending := by
  obtain ⟨live, batch⟩ := v
  cases batch <;> rfl

@[simp] lemma hear_touched : (v.hear l effects).touched = v.touched := by
  obtain ⟨live, batch⟩ := v
  cases batch with
  | none => rfl
  | some b => simp [touched, hear, Batch.hear, Subscriptions.missing, Function.comp_def]

end View

/-! ### What the tasks of a view come to -/

section Tasks

variable {s s' : Subscriptions} {ids : List RunId} {id : RunId} {log : BoardLog}

lemma play_answered {result : RunId → Except RequestError Bool} {outcome : Except RequestError _}
    (h : (s.subscribeAll ids).play (answerBatch (some result)) = (log, s', outcome)) :
    Task.told log = [] ∧ ∀ id, id ∈ s' ↔ id ∈ s ∨ id ∈ s.missing ids ∧ (result id).isOk := by
  obtain ⟨hcourse, hasked⟩ := Task.course_of_play h
  rcases Subscriptions.course_subscribeAll_iff.mp hcourse with hnil | _ | ⟨result', arrived⟩
  · refine ⟨rfl, fun id => ?_⟩
    simp [hnil]
  · -- a batch that is given up has no result
    have hnone := hasked _ _ List.mem_cons_self
    exact absurd (congrArg Call.Answer.result hnone) (by simp [answerBatch])
  · have hsome := congrArg Call.Answer.result (hasked _ _ List.mem_cons_self)
    obtain rfl : result' = result := Option.some.inj hsome
    exact ⟨rfl, fun id => Subscriptions.mem_settle_outcomesOf⟩

lemma play_givenUp {outcome : Except RequestError _}
    (h : (s.subscribeAll ids).play (answerBatch none) = (log, s', outcome)) :
    Task.told log = (s.missing ids).map .unsubscribe ∧ ∀ id, id ∈ s' ↔ id ∈ s := by
  obtain ⟨hcourse, hasked⟩ := Task.course_of_play h
  rcases Subscriptions.course_subscribeAll_iff.mp hcourse with hnil | _ | ⟨result, arrived⟩
  · exact ⟨by rw [hnil]; rfl, fun id => Iff.rfl⟩
  · exact ⟨told_releasing _, fun id => Iff.rfl⟩
  · have hsome := congrArg Call.Answer.result (hasked _ _ List.mem_cons_self)
    exact absurd hsome (by simp [answerBatch])

lemma play_release {result : Option (RunId → Except RequestError Bool)} {was : Bool}
    (h : (s.release id).play (answerBatch result) = (log, s', was)) :
    Task.told log = (if id ∈ s then [id] else []).map .unsubscribe ∧
      ∀ j, j ∈ s' ↔ j ∈ s ∧ j ≠ id := by
  have hcourse := Subscriptions.course_release_iff.mp (Task.course_of_play h).1
  by_cases hid : id ∈ s
  · rw [if_pos hid] at hcourse ⊢
    obtain ⟨rfl, rfl, _⟩ := hcourse
    exact ⟨told_releasing [id], fun j => Subscriptions.mem_erase⟩
  · rw [if_neg hid] at hcourse ⊢
    obtain ⟨rfl, rfl, _⟩ := hcourse
    refine ⟨rfl, fun j => ⟨fun hj => ⟨hj, ?_⟩, And.left⟩⟩
    rintro rfl
    exact hid hj

lemma play_releaseAll {result : Option (RunId → Except RequestError Bool)} {count : Nat}
    (h : s.releaseAll.play (answerBatch result) = (log, s', count)) :
    Task.told log = s.ids.map .unsubscribe ∧ ∀ id, id ∉ s' := by
  obtain ⟨rfl, rfl, _⟩ := Subscriptions.course_releaseAll_iff.mp (Task.course_of_play h).1
  exact ⟨told_releasing _, fun id => List.not_mem_nil⟩

end Tasks

end RunBoard.Realtime
