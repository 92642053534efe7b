import RunBoard.Proofs.Realtime.Handshake
import RunBoard.Proofs.Realtime.Agreement

/-!
# Who gets which messages

A message goes to all who listen to its topic at that moment, and to each of them once.  Who listens
changes in four ways: a listener comes, a listener leaves, a subscription leaves that has waited for
an entry in vain, and all are taken off whose topic could not be opened.  `Moment.seating` reads
from an event and its outcome which of them it is, without a look at the table of topics, and
`Moment.listeners_next` says that the table follows.

So what a listener gets on a topic in a run can be told from what happened: it is what was read
while the listener was seated (`received_eq_due`).
-/

namespace RunBoard.Realtime

open Backend (runTopic)

/-! ### Who is seated where -/

/-- What an event does to those who listen. -/
inductive Seating where
  | stays
  | comes (topic : String) (l : Listener)
  | leaves (topic : String) (l : Listener)
  /-- All are taken off a topic. -/
  | clears (topic : String)
  deriving DecidableEq, Repr

namespace Seating

/-- Those who listen to a topic after an event, given those before it. -/
def seat (topic : String) (seated : List Listener) : Seating → List Listener
  | stays => seated
  | comes t l => if t = topic ∧ l ∉ seated then seated ++ [l] else seated
  | leaves t l => if t = topic then seated.filter (· ≠ l) else seated
  | clears t => if t = topic then [] else seated

variable {s : Seating} {topic : String} {seated : List Listener} {l : Listener}

lemma nodup_seat (s : Seating) (h : seated.Nodup) : (s.seat topic seated).Nodup := by
  cases s with
  | stays => exact h
  | comes t l =>
    simp only [seat]
    split
    · rename_i hnew
      rw [List.nodup_append]
      refine ⟨h, List.nodup_singleton l, fun a ha b hb hab => hnew.2 ?_⟩
      rwa [← List.mem_singleton.mp hb, ← hab]
    · exact h
  | leaves t l =>
    simp only [seat]
    split
    · exact h.filter _
    · exact h
  | clears t =>
    simp only [seat]
    split
    · exact List.nodup_nil
    · exact h

/-- Who is not seated, and does not come, is not seated afterwards. -/
lemma notMem_seat (h : l ∉ seated) (hs : s ≠ .comes topic l) : l ∉ s.seat topic seated := by
  cases s with
  | stays => exact h
  | comes t k =>
    simp only [seat]
    split
    · rename_i hnew
      have hne : l ≠ k := by
        rintro rfl
        exact hs (by rw [hnew.1])
      simp [h, hne]
    · exact h
  | leaves t k =>
    simp only [seat]
    split
    · exact fun hmem => h (List.mem_filter.mp hmem).1
    · exact h
  | clears t =>
    simp only [seat]
    split
    · exact List.not_mem_nil
    · exact h

end Seating

/-- What it does to those who listen that the errand of a ticket goes on, given the subscriptions
that end with that.  If an opening fails, all are taken off its topic; and if a subscription fails
that has heard that its entry has gone, but not why, its listener leaves. -/
def Hub.settledBy (h : Hub) (τ : Ticket) (ends : List Ending) : Seating :=
  if ends.any fun e => e.1 == τ && !e.2.isOk then
    match h.claim? τ with
    | some (.opening topic _) => .clears topic
    | some (.joining topic l _ .pending true) => .leaves topic l
    | _ => .stays
  else .stays

namespace Moment

/-- What a moment does to those who listen. -/
def seating (m : Moment) : Seating :=
  match m.event with
  | .subscribe _ topic l => .comes topic l
  | .unsubscribe _ topic l => .leaves topic l
  | .drop τ =>
    match m.hub.claim? τ with
    | some (.opening topic _) => .clears topic
    | _ => .stays
  | .resume τ | .expire τ | .posted τ _ => m.hub.settledBy τ m.ends
  | .message _ _ _ | .lost | .ended => .stays

/-- The patch that is read at a moment, with its topic.  The greeting of a connection is not one. -/
def patch? (m : Moment) : Option (String × Patch) :=
  match m.event with
  | .message _ name data =>
    if m.hub.reads ∧ name ≠ Hub.greeting then
      match Json.decodeText Patch.decode data with
      | .ok patch => some (name, patch)
      | .error _ => none
    else none
  | _ => none

/-- The patch that is read at a moment, if it is one of a topic. -/
def patchOn? (m : Moment) (topic : String) : Option Patch :=
  m.patch?.bind fun (name, patch) => if name = topic then some patch else none

/-- The patches that a listener gets at a moment. -/
def received (l : Listener) (m : Moment) : List Patch :=
  arrivals l (m.hub.step m.event).2

/-- Whether the event of a moment is a message with the name of a topic. -/
def isOn (m : Moment) (topic : String) : Bool :=
  match m.event with
  | .message _ name _ => name == topic
  | _ => false

end Moment

/-- The patches that a listener gets on a topic. -/
def receivedOn (topic : String) (l : Listener) (moments : List Moment) : List Patch :=
  (moments.filter (·.isOn topic)).flatMap (Moment.received l)

/-- The patches that are read on a topic while a listener is seated, given those who are seated at
the beginning. -/
def dueOn (topic : String) (l : Listener) (seated : List Listener) : List Moment → List Patch
  | [] => []
  | m :: moments =>
    (if l ∈ seated then (m.patchOn? topic).toList else []) ++
      dueOn topic l (m.seating.seat topic seated) moments

/-! ### The table -/

namespace Topics

variable {t t' : Topics} {topic x : String} {l : Listener} {e : Entry}

lemma Sets.listeners_eq {entry : Option Entry} (hs : t.Sets topic entry t') (x : String) :
    t'.listeners x =
      if topic = x then (entry.map Entry.listeners).getD [] else t.listeners x := by
  unfold listeners
  rw [hs x]
  by_cases hx : x = topic
  · simp [hx]
  · simp [hx, Ne.symm hx]

lemma listeners_erase :
    (t.erase topic).listeners x = if topic = x then [] else t.listeners x :=
  sets_erase.listeners_eq x

lemma listeners_register : (t.register topic l).1.listeners x =
    if topic = x ∧ l ∉ t.listeners x then t.listeners x ++ [l] else t.listeners x := by
  rcases t.register_cases topic l with ⟨e, hfind, hl, hreg⟩ | ⟨t', hnone, hset, -, hreg⟩ |
    ⟨e, t', hfind, hl, hset, -, hreg⟩
  · rw [hreg]
    by_cases hx : topic = x
    · subst hx
      rw [if_neg (by simp [listeners_of_find? hfind, hl])]
    · rw [if_neg fun h => hx h.1]
  · rw [hreg]
    refine (hset.listeners_eq x).trans ?_
    by_cases hx : topic = x
    · subst hx
      simp [listeners_of_find?_none hnone, opened]
    · simp [hx]
  · rw [hreg]
    refine (hset.listeners_eq x).trans ?_
    by_cases hx : topic = x
    · subst hx
      simp [listeners_of_find? hfind, hl, Entry.welcome]
    · simp [hx]

lemma listeners_unregister : (t.unregister topic l).1.listeners x =
    if topic = x then (t.listeners x).filter (· ≠ l) else t.listeners x := by
  rcases t.unregister_cases topic l with ⟨hl, hreg⟩ | ⟨e, t', hfind, hl, hset, -, hreg⟩
  · rw [hreg]
    by_cases hx : topic = x
    · subst hx
      rw [if_pos rfl]
      refine (List.filter_eq_self.mpr fun k hk => ?_).symm
      simpa using fun h : k = l => hl (h ▸ hk)
    · rw [if_neg hx]
  · rw [hreg]
    refine (hset.listeners_eq x).trans ?_
    by_cases hx : topic = x
    · subst hx
      rw [if_pos rfl, if_pos rfl, listeners_of_find? hfind]
      unfold Entry.without
      -- the entry goes with the last one who listens
      split
      · rename_i hempty
        exact (List.isEmpty_iff.mp hempty).symm
      · rfl
    · rw [if_neg hx, if_neg hx]

end Topics

/-! ### What the operations of a hub come to -/

@[simp] lemma arrivals_append {l : Listener} (effects more : List Effect) :
    arrivals l (effects ++ more) = arrivals l effects ++ arrivals l more :=
  List.filterMap_append

namespace Hub

variable {h : Hub} {τ : Ticket} {e : Errand} {topic x : String} {l : Listener}
  {r : Hub × List Effect}

/-- An operation seats those who listen, and delivers nothing. -/
structure Seats (h : Hub) (s : Seating) (r : Hub × List Effect) : Prop where
  listeners : ∀ x, r.1.topics.listeners x = s.seat x (h.topics.listeners x)
  silent : ∀ k, arrivals k r.2 = []

/-- An operation leaves the table alone, ends no subscription, and delivers nothing. -/
structure Rests (h : Hub) (r : Hub × List Effect) : Prop where
  topics : r.1.topics = h.topics
  ends : endings r.2 = []
  silent : ∀ k, arrivals k r.2 = []

lemma rests_refl (h : Hub) : h.Rests (h, []) :=
  ⟨rfl, rfl, fun _ => rfl⟩

/-- Where no subscription ends, all stay. -/
lemma settledBy_nil : h.settledBy τ [] = .stays := rfl

lemma settledBy_ok {result : Bool} : h.settledBy τ [(τ, .ok result)] = .stays := by
  simp [settledBy, Except.isOk, Except.toBool]

lemma settledBy_error {error : RequestError} : h.settledBy τ [(τ, .error error)] =
    match h.claim? τ with
    | some (.opening topic _) => .clears topic
    | some (.joining topic l _ .pending true) => .leaves topic l
    | _ => .stays := by
  simp [settledBy, Except.isOk, Except.toBool]

/-- A subscription that has not heard that its entry has gone takes nobody along. -/
lemma settledBy_of_joining {serial : Nat} {latest : Handshake} {ends : List Ending}
    (hclaim : h.claim? τ = some (.joining topic l serial latest false)) :
    h.settledBy τ ends = .stays := by
  unfold settledBy
  split
  · rw [hclaim]
    cases latest <;> rfl
  · rfl

lemma Rests.seats (hr : h.Rests r) : h.Seats (h.settledBy τ (endings r.2)) r := by
  refine ⟨fun x => ?_, hr.silent⟩
  rw [hr.ends, settledBy_nil, hr.topics]
  rfl

lemma silent_disconnect : ∀ k, arrivals k h.disconnect.2 = [] := by
  intro k
  unfold disconnect
  dsimp only
  split <;> rfl

lemma silent_disconnectIfIdle : ∀ k, arrivals k h.disconnectIfIdle.2 = [] := by
  unfold disconnectIfIdle
  split
  · exact silent_disconnect
  · exact fun _ => rfl

lemma disconnectIfIdle_topics : h.disconnectIfIdle.1.topics = h.topics := by
  unfold disconnectIfIdle
  split
  · exact disconnect_topics
  · rfl

lemma seats_abandon (h : Hub) (topic message : String) :
    h.Seats (.clears topic) (h.abandon topic message) := by
  refine ⟨fun x => ?_, silent_disconnectIfIdle⟩
  unfold abandon
  rw [disconnectIfIdle_topics]
  cases hfind : h.topics.find? topic with
  | none =>
    by_cases hx : topic = x
    · subst hx
      simp [Seating.seat, Topics.listeners_of_find?_none hfind]
    · simp [Seating.seat, hx]
  | some entry => exact Topics.listeners_erase

lemma listeners_activate : (h.activate topic).topics.listeners x = h.topics.listeners x := by
  cases hfind : h.topics.find? topic with
  | none => simp [activate, hfind]
  | some entry =>
    have hset : h.topics.Sets topic _ (h.topics.modify topic Entry.activated) :=
      Topics.sets_modify fun _ htopic => htopic
    have hmodify := hset.listeners_eq x
    rw [hfind] at hmodify
    have htopics : (h.activate topic).topics = h.topics.modify topic Entry.activated := by
      unfold activate
      rw [hfind]
      rfl
    rw [htopics, hmodify]
    split
    · rename_i hx
      subst hx
      simp [Topics.listeners_of_find? hfind, Entry.activated]
    · rfl

/-- With a failed opening all are taken off its topic, and nothing else changes who listens. -/
lemma seats_conclude {result : Except RequestError Unit} (hclaim : h.claim? τ = e.claim?)
    (hposts : e.progress? ≠ none) :
    h.Seats (h.settledBy τ (endings (h.conclude τ e result).2)) (h.conclude τ e result) := by
  have hrests : h.Rests (h.remove τ, []) := ⟨rfl, rfl, fun _ => rfl⟩
  cases e with
  | joining => exact absurd rfl hposts
  | shrinking | restoring => exact hrests.seats
  | opening topic l p =>
    cases result with
    | ok _ =>
      refine ⟨fun x => ?_, fun _ => rfl⟩
      have hends : endings (h.conclude τ (.opening topic l p) (.ok ())).2 = [(τ, .ok true)] := rfl
      rw [hends, settledBy_ok]
      exact listeners_activate
    | error error =>
      obtain ⟨hlisteners, hsilent⟩ := (h.remove τ).seats_abandon topic error.message
      have hends : endings (h.conclude τ (.opening topic l p) (.error error)).2 =
          [(τ, .error error)] := by
        simp [conclude, endings_abandon]
      rw [hends, settledBy_error, hclaim]
      refine ⟨hlisteners, fun k => ?_⟩
      simp only [conclude, arrivals_append, hsilent k]
      rfl

lemma rests_put {effects : List Effect} (hends : endings effects = [])
    (hsilent : ∀ k, arrivals k effects = []) : h.Rests (h.put τ e, effects) :=
  ⟨put_topics, hends, hsilent⟩

lemma seats_post (hclaim : h.claim? τ = e.claim?) (hposts : e.progress? ≠ none) :
    h.Seats (h.settledBy τ (endings (h.post τ e).2)) (h.post τ e) := by
  unfold post
  -- it waits for its turn; or the connection has gone, and the errand ends; or it posts
  split
  · exact (rests_put rfl fun _ => rfl).seats
  · split
    · exact seats_conclude hclaim hposts
    · exact (rests_put rfl fun _ => rfl).seats

/-- With a connection, posting fails nobody. -/
lemma rests_queue (hclient : h.client ≠ none) : h.Rests (h.queue τ e) := by
  have hturns : Rests { h with turns := h.turns ++ [τ] } (h.queue τ e) := by
    unfold queue post
    split
    · exact rests_put rfl fun _ => rfl
    · split
      · rename_i hlost
        exact absurd hlost hclient
      · exact rests_put rfl fun _ => rfl
  exact ⟨hturns.topics, hturns.ends, hturns.silent⟩

lemma rests_resume_connecting (herrand : h.errand? τ = some e)
    (hwaits : e.progress? = some .connecting) : h.Rests (h.resume τ) := by
  rw [resume_eq_go herrand hwaits]
  unfold go
  dsimp only
  split
  · rename_i hconnected
    exact rests_queue (Option.isSome_iff_ne_none.mp hconnected)
  · exact rests_refl h

lemma topics_unregister : (h.unregister topic l).1.topics = (h.topics.unregister topic l).1 := by
  unfold unregister
  split
  · rename_i hreg
    rw [hreg]
  · rename_i hreg
    rw [hreg]
    rfl

/-- A subscription that has heard that its entry has gone, but not why, takes its listener along. -/
lemma seats_await {serial : Nat} {latest : Handshake} {gone : Bool}
    (hclaim : h.claim? τ = some (.joining topic l serial latest gone)) :
    h.Seats (h.settledBy τ (endings (h.await τ topic l latest gone).2))
      (h.await τ topic l latest gone) := by
  cases latest with
  | active =>
    refine ⟨fun x => ?_, fun _ => rfl⟩
    have hends : endings (h.await τ topic l .active gone).2 = [(τ, .ok true)] := rfl
    rw [hends, settledBy_ok]
    rfl
  | failed message =>
    refine ⟨fun x => ?_, fun _ => rfl⟩
    have hends : endings (h.await τ topic l (.failed message) gone).2 =
      [(τ, .error (.realtime message))] := rfl
    rw [hends, settledBy_error, hclaim]
    rfl
  | pending =>
    cases gone with
    | false => exact (rests_refl h).seats
    | true =>
      refine ⟨fun x => ?_, fun _ => rfl⟩
      have hends : endings (h.await τ topic l .pending true).2 =
        [(τ, .error (.realtime "realtime topic closed during its handshake"))] := rfl
      rw [hends, settledBy_error, hclaim]
      exact (congrArg (Topics.listeners · x) topics_unregister).trans Topics.listeners_unregister

lemma seats_resume : h.Seats (h.settledBy τ (endings (h.resume τ).2)) (h.resume τ) := by
  cases herrand : h.errand? τ with
  | none =>
    have hidle : h.resume τ = (h, []) := by simp only [resume, herrand]
    rw [hidle]
    exact (rests_refl h).seats
  | some e =>
    have hclaim : h.claim? τ = e.claim? := by simp [claim?, herrand]
    cases hprogress : e.progress? with
    | none =>
      cases e with
      | joining topic l serial latest gone =>
        have hawait : h.resume τ = h.await τ topic l latest gone := by simp only [resume, herrand]
        rw [hawait]
        exact seats_await hclaim
      | _ => exact absurd hprogress (by simp [Errand.progress?])
    | some p =>
      cases p with
      -- what waits for a connection joins the line at most, and ends nothing
      | connecting => exact (rests_resume_connecting herrand hprogress).seats
      | queued =>
        rw [resume_eq_go herrand hprogress]
        exact seats_post hclaim (by simp [hprogress])
      | posting client names =>
        rw [resume_eq_go herrand hprogress]
        exact (rests_refl h).seats

lemma seats_expire : h.Seats (h.settledBy τ (endings (h.expire τ).2)) (h.expire τ) := by
  unfold expire
  split
  · rename_i e herrand
    split
    · rename_i hwaits
      exact seats_conclude (by simp [claim?, herrand]) (by simp [hwaits.1])
    · exact (rests_refl h).seats
  · exact (rests_refl h).seats

lemma seats_posted {result : Except RequestError Unit} :
    h.Seats (h.settledBy τ (endings (h.posted τ result).2)) (h.posted τ result) := by
  unfold Hub.posted
  split
  · rename_i e herrand
    split
    · rename_i client names hprogress
      exact seats_conclude (by simp [claim?, herrand]) (by simp [hprogress])
    · exact (rests_refl h).seats
  · exact (rests_refl h).seats

lemma seats_drop : h.Seats (Moment.seating ⟨h, .drop τ⟩) (h.drop τ) := by
  simp only [Moment.seating, drop, claim?]
  cases h.errand? τ with
  | none => exact ⟨fun _ => rfl, fun _ => rfl⟩
  | some e =>
    cases e with
    | opening topic l p =>
      have habandon := (h.remove τ).seats_abandon topic
        "subscription dropped before the realtime handshake finished"
      exact ⟨habandon.listeners, habandon.silent⟩
    | joining | shrinking | restoring => exact ⟨fun _ => rfl, fun _ => rfl⟩

lemma seats_subscribe : h.Seats (.comes topic l) (h.subscribe τ topic l) := by
  have hregister : ∀ x, (h.topics.register topic l).1.listeners x =
      Seating.seat x (h.topics.listeners x) (.comes topic l) := fun _ => Topics.listeners_register
  rcases h.topics.register_cases topic l with ⟨entry, hfind, hl, hreg⟩ |
    ⟨topics, hfind, hset, hnext, hreg⟩ | ⟨entry, topics, hfind, hl, hset, hnext, hreg⟩
  · -- it listens to the topic already
    rw [hreg] at hregister
    unfold subscribe
    rw [hreg]
    exact ⟨hregister, fun _ => rfl⟩
  · -- it is the first one, and its opening cannot fail before there is a connection
    rw [hreg] at hregister
    have hconnect : ({ h with topics }.connect).1.topics = topics ∧
        ∀ k, arrivals k ({ h with topics }.connect).2 = [] := by
      unfold connect
      split
      · exact ⟨rfl, fun _ => rfl⟩
      · exact ⟨rfl, fun _ => rfl⟩
    have herrand : (({ h with topics }.connect).1.put τ (.opening topic l .connecting)).errand? τ =
        some (.opening topic l .connecting) := errand?_put.trans (if_pos rfl)
    have hrests := rests_resume_connecting herrand rfl
    unfold subscribe
    rw [hreg]
    refine ⟨fun x => ?_, fun k => ?_⟩
    · dsimp only
      rw [hrests.topics, put_topics, hconnect.1]
      exact hregister x
    · dsimp only
      rw [arrivals_append, hconnect.2 k, hrests.silent k]
      rfl
  · rw [hreg] at hregister
    -- a subscription that has just joined takes nobody along
    have herrand : ({ h with topics }.put τ
        (.joining topic l entry.serial entry.handshake false)).errand? τ =
          some (.joining topic l entry.serial entry.handshake false) :=
      errand?_put.trans (if_pos rfl)
    have hseats := seats_resume (h := { h with topics }.put τ
      (.joining topic l entry.serial entry.handshake false)) (τ := τ)
    rw [settledBy_of_joining (claim?_eq_some.mpr ⟨_, herrand, rfl⟩)] at hseats
    unfold subscribe
    rw [hreg]
    refine ⟨fun x => (hseats.listeners x).trans ?_, hseats.silent⟩
    rw [put_topics]
    exact hregister x

lemma unsubscribe_topics :
    (h.unsubscribe τ topic l).1.topics = (h.topics.unregister topic l).1 := by
  have hunregister : (h.unregister topic l).1.topics = (h.topics.unregister topic l).1 :=
    topics_unregister
  unfold unsubscribe
  split
  · rename_i heq
    rw [heq] at hunregister
    exact hunregister
  · rename_i heq
    rw [heq] at hunregister
    split
    · exact disconnect_topics.trans hunregister
    · exact put_topics.trans hunregister

lemma seats_unsubscribe : h.Seats (.leaves topic l) (h.unsubscribe τ topic l) := by
  refine ⟨fun x => ?_, fun k => ?_⟩
  · rw [unsubscribe_topics]
    exact Topics.listeners_unregister
  · unfold unsubscribe
    split
    · rfl
    · split
      · exact silent_disconnect k
      · rfl

lemma seats_greet {data : String} : h.Seats .stays (h.greet τ data) := by
  unfold greet
  split
  · exact ⟨fun _ => rfl, fun _ => rfl⟩
  · rename_i client _
    dsimp only
    split
    · exact ⟨fun _ => rfl, fun _ => rfl⟩
    · have hrests := rests_queue (h := { h with client := some client }) (τ := τ)
        (e := .restoring .queued) (by simp)
      exact ⟨fun x => by rw [hrests.topics]; rfl, hrests.silent⟩

/-- Of those who are called one after the other, each hears the message once. -/
lemma arrivals_map_deliver {listeners : List Listener} {patch : Patch} (hnodup : listeners.Nodup) :
    arrivals l (listeners.map fun k => .deliver k patch) =
      if l ∈ listeners then [patch] else [] := by
  induction listeners with
  | nil => rfl
  | cons k listeners ih =>
    obtain ⟨hk, hrest⟩ := List.nodup_cons.mp hnodup
    have hfirst : arrivals l ((k :: listeners).map fun k => .deliver k patch) =
        (if k = l then [patch] else []) ++
          arrivals l (listeners.map fun k => .deliver k patch) := by
      unfold arrivals
      rw [List.map_cons, List.filterMap_cons]
      by_cases hkl : k = l
      · simp [hkl]
      · simp [hkl]
    rw [hfirst, ih hrest]
    by_cases hkl : k = l
    · subst hkl
      simp [hk]
    · simp [hkl, Ne.symm hkl]

/-- What a listener gets of a message: nothing, unless it listens to the topic and the message can
be decoded. -/
lemma arrivals_deliver {name data : String} (hnodup : (h.topics.listeners name).Nodup) :
    arrivals l (h.deliver name data) =
      match Json.decodeText Patch.decode data with
      | .ok patch => if l ∈ h.topics.listeners name then [patch] else []
      | .error _ => [] := by
  unfold deliver
  cases hlisteners : h.topics.listeners name with
  | nil => cases Json.decodeText Patch.decode data <;> rfl
  | cons k listeners =>
    cases Json.decodeText Patch.decode data with
    | error => rfl
    | ok patch => exact arrivals_map_deliver (hlisteners ▸ hnodup)

end Hub

/-! ### Moments -/

/-- Nobody listens to a topic twice. -/
def Hub.Single (h : Hub) : Prop :=
  ∀ topic, (h.topics.listeners topic).Nodup

namespace Moment

variable {m : Moment} {l : Listener} {topic name : String} {patch : Patch}

/-- After a moment those are seated that its event and its outcome tell. -/
lemma listeners_next (m : Moment) (topic : String) :
    m.next.topics.listeners topic = m.seating.seat topic (m.hub.topics.listeners topic) := by
  obtain ⟨h, event⟩ := m
  cases event with
  | subscribe τ x l => exact Hub.seats_subscribe.listeners topic
  | unsubscribe τ x l => exact Hub.seats_unsubscribe.listeners topic
  | drop τ => exact Hub.seats_drop.listeners topic
  | resume τ => exact Hub.seats_resume.listeners topic
  | expire τ => exact Hub.seats_expire.listeners topic
  | posted τ result => exact Hub.seats_posted.listeners topic
  | message τ name data =>
    simp only [next, Hub.step]
    split
    · unfold Hub.message
      split
      · exact Hub.seats_greet.listeners topic
      · rfl
    · rfl
  | lost | ended =>
    simp only [next, Hub.step]
    split <;> rfl

/-- Nobody comes but with a subscription. -/
lemma event_of_comes (h : m.seating = .comes topic l) : ∃ τ, m.event = .subscribe τ topic l := by
  have hsettled : ∀ τ, m.hub.settledBy τ m.ends ≠ .comes topic l := by
    intro τ
    unfold Hub.settledBy
    split
    · split <;> simp
    · simp
  unfold seating at h
  split at h
  · obtain ⟨rfl, rfl⟩ := Seating.comes.inj h
    exact ⟨_, ‹_›⟩
  · cases h
  · split at h <;> cases h
  · exact absurd h (hsettled _)
  · exact absurd h (hsettled _)
  · exact absurd h (hsettled _)
  · cases h
  · cases h
  · cases h

/-- A moment brings a listener the patch that is read at it, once, if the listener listens to the
topic, and nothing else. -/
lemma received_eq (hsingle : m.hub.Single) (l : Listener) :
    m.received l =
      match m.patch? with
      | some (topic, patch) => if l ∈ m.hub.topics.listeners topic then [patch] else []
      | none => [] := by
  obtain ⟨h, event⟩ := m
  cases event with
  | subscribe τ x l => exact Hub.seats_subscribe.silent _
  | unsubscribe τ x l => exact Hub.seats_unsubscribe.silent _
  | drop τ => exact Hub.seats_drop.silent _
  | resume τ => exact Hub.seats_resume.silent _
  | expire τ => exact Hub.seats_expire.silent _
  | posted τ result => exact Hub.seats_posted.silent _
  | message τ name data =>
    simp only [received, Hub.step, patch?]
    by_cases hreads : h.reads = true
    · by_cases hname : name = Hub.greeting
      -- a greeting may have the topics posted anew, but it delivers nothing
      · simpa [hreads, hname, Hub.message] using Hub.seats_greet.silent l
      · simp only [hreads, hname, Hub.message, if_true, if_false]
        rw [Hub.arrivals_deliver (hsingle name)]
        cases Json.decodeText Patch.decode data <;> simp [hname]
    · simp [hreads]
      rfl
  | lost | ended =>
    simp only [received, Hub.step]
    split <;> rfl

lemma isOn_of_patch? (h : m.patch? = some (name, patch)) : m.isOn topic = (name == topic) := by
  unfold patch? at h
  unfold isOn
  split at h
  · split at h
    · split at h
      · obtain ⟨rfl, rfl⟩ := Prod.mk.inj (Option.some.inj h)
        rfl
      · cases h
    · cases h
  · cases h

/-- What a listener gets on a topic at a moment. -/
lemma received_on (hsingle : m.hub.Single) (topic : String) (l : Listener) :
    (if m.isOn topic then m.received l else []) =
      if l ∈ m.hub.topics.listeners topic then (m.patchOn? topic).toList else [] := by
  have hreceived := received_eq hsingle l
  cases hpatch : m.patch? with
  | none =>
    rw [hpatch] at hreceived
    simp [patchOn?, hpatch, hreceived]
  | some found =>
    obtain ⟨name, patch⟩ := found
    rw [hpatch] at hreceived
    have hon : m.isOn topic = (name == topic) := isOn_of_patch? hpatch
    by_cases hname : name = topic
    · subst hname
      simp [patchOn?, hpatch, hreceived, hon]
    · simp [patchOn?, hpatch, hon, hname]

end Moment

namespace Hub

variable {h : Hub} {l : Listener} {topic : String}

lemma single_new (patience : Nat) : (Hub.new patience).Single :=
  fun _ => List.nodup_nil

lemma listeners_step (h : Hub) (event : HubEvent) (topic : String) :
    (h.step event).1.topics.listeners topic =
      (Moment.seating ⟨h, event⟩).seat topic (h.topics.listeners topic) :=
  Moment.listeners_next ⟨h, event⟩ topic

lemma Single.step (hh : h.Single) (event : HubEvent) : (h.step event).1.Single := by
  intro topic
  rw [listeners_step]
  exact Seating.nodup_seat _ (hh topic)

lemma Single.run (hh : h.Single) (events : List HubEvent) : (h.run events).1.Single := by
  induction events generalizing h with
  | nil => exact hh
  | cons event events ih => exact ih (hh.step event)

lemma Single.of_mem_moments {events : List HubEvent} {m : Moment} (hh : h.Single)
    (hm : m ∈ h.moments events) : m.hub.Single := by
  induction events generalizing h with
  | nil => cases hm
  | cons event events ih =>
    rcases List.mem_cons.mp hm with rfl | hm
    · exact hh
    · exact ih (hh.step event) hm

/-- What a listener gets on a topic in a run is what it is owed, given those who listen at the
beginning. -/
lemma Single.receivedOn_eq (hh : h.Single) (events : List HubEvent) (topic : String)
    (l : Listener) :
    receivedOn topic l (h.moments events) =
      dueOn topic l (h.topics.listeners topic) (h.moments events) := by
  induction events generalizing h with
  | nil => rfl
  | cons event events ih =>
    have hfirst : receivedOn topic l (h.moments (event :: events)) =
        (if Moment.isOn ⟨h, event⟩ topic then Moment.received l ⟨h, event⟩ else []) ++
          receivedOn topic l ((h.step event).1.moments events) := by
      unfold receivedOn
      rw [moments, List.filter_cons]
      split <;> simp
    have hthis := Moment.received_on (m := ⟨h, event⟩) hh topic l
    rw [hfirst, hthis, ih (hh.step event), listeners_step]
    rfl

/-- Who is not seated, and does not come, is owed nothing. -/
lemma dueOn_eq_nil {seated : List Listener} {events : List HubEvent} (hl : l ∉ seated)
    (hcomes : ∀ τ, .subscribe τ topic l ∉ events) :
    dueOn topic l seated (h.moments events) = [] := by
  induction events generalizing h seated with
  | nil => rfl
  | cons event events ih =>
    have hseat : l ∉ (Moment.seating ⟨h, event⟩).seat topic seated := by
      refine Seating.notMem_seat hl fun hseating => ?_
      obtain ⟨τ, hevent⟩ := Moment.event_of_comes hseating
      exact hcomes τ (hevent ▸ List.mem_cons_self)
    simp only [moments, dueOn, if_neg hl, List.nil_append]
    exact ih hseat fun τ hmem => hcomes τ (List.mem_cons_of_mem _ hmem)

lemma arrivals_run (l : Listener) (events : List HubEvent) :
    arrivals l (h.run events).2 = (h.moments events).flatMap (Moment.received l) := by
  induction events generalizing h with
  | nil => rfl
  | cons event events ih =>
    simp only [run, moments, arrivals_append, ih, List.flatMap_cons]
    rfl

/-- Who leaves a topic does not listen to it any more. -/
lemma notMem_listeners_unsubscribe {τ : Ticket} :
    l ∉ (h.step (.unsubscribe τ topic l)).1.topics.listeners topic := by
  rw [listeners_step]
  simp [Moment.seating, Seating.seat]

end Hub

lemma runTopic_ne_greeting (id : RunId) : runTopic id ≠ Hub.greeting := by
  intro h
  have hlist := congrArg String.toList h
  simp [runTopic, Backend.runCollection, Hub.greeting] at hlist

/-- **Each message once, in order, while one listens.**  In a run of a new hub, whatever the events,
a listener gets on each topic exactly what is read on it while the listener is seated, in this
order. Its whole inbox is made of what the moments of the run bring it, and each of them brings the
patch that is read, once, if the listener listens to its topic, and nothing if no patch is read.
After a listener has left a topic it gets nothing more on it, unless it comes again.  Two runs have
no topic in common, and none has the name of a greeting. -/
theorem received_eq_due (patience : Nat) (events : List HubEvent) (l : Listener) :
    (∀ topic, receivedOn topic l ((Hub.new patience).moments events) =
      dueOn topic l [] ((Hub.new patience).moments events)) ∧
    arrivals l ((Hub.new patience).run events).2 =
      ((Hub.new patience).moments events).flatMap (Moment.received l) ∧
    (∀ m ∈ (Hub.new patience).moments events, m.received l =
      match m.patch? with
      | some (topic, patch) => if l ∈ m.hub.topics.listeners topic then [patch] else []
      | none => []) ∧
    (∀ τ topic more, (∀ σ, .subscribe σ topic l ∉ more) →
      receivedOn topic l ((((Hub.new patience).run events).1.step
        (.unsubscribe τ topic l)).1.moments more) = []) ∧
    (∀ id j, runTopic id = runTopic j → id = j) ∧ ∀ id, runTopic id ≠ Hub.greeting := by
  have hnew : (Hub.new patience).Single := Hub.single_new patience
  refine ⟨fun topic => hnew.receivedOn_eq events topic l, Hub.arrivals_run l events,
    fun m hm => Moment.received_eq (hnew.of_mem_moments hm) l, ?_,
    fun id j h => runTopic_inj.mp h, runTopic_ne_greeting⟩
  intro τ topic more hcomes
  rw [((hnew.run events).step _).receivedOn_eq]
  exact Hub.dueOn_eq_nil Hub.notMem_listeners_unsubscribe hcomes

/-- A message that tells of the status of a run. -/
def news (status : String) : String :=
  "\x7b\"action\":\"update\",\"record\":\x7b\"id\":\"a\",\"status\":\"" ++ status ++ "\"\x7d\x7d"

/-- A listener subscribes a topic twice, and another one whose post fails.  Messages come all the
time, one of which cannot be decoded. -/
def busyInbox : List HubEvent :=
  [.subscribe 0 "a" ⟨1⟩, .message 1 "PB_CONNECT" "\x7b\"clientId\":\"c\"\x7d", .posted 1 (.ok ()),
    .resume 0, .message 2 "a" (news "pending"), .posted 0 (.ok ()), .subscribe 3 "a" ⟨1⟩,
    .subscribe 4 "a" ⟨2⟩, .message 5 "b" (news "failed"), .message 6 "a" "running",
    .subscribe 7 "b" ⟨1⟩, .message 8 "a" (news "processing"), .message 9 "b" (news "pending"),
    .resume 7, .posted 7 (.error (.transport "reset")), .message 10 "b" (news "failed")]

theorem received_eq_due_of_busyInbox :
    (receivedOn "a" ⟨1⟩ ((Hub.new 1000).moments busyInbox)).map (·.record.status) =
        [.pending, .processing] ∧
      (receivedOn "b" ⟨1⟩ ((Hub.new 1000).moments busyInbox)).map (·.record.status) = [.pending] ∧
      receivedOn "a" ⟨1⟩ ((((Hub.new 1000).run busyInbox).1.step
        (.unsubscribe 11 "a" ⟨1⟩)).1.moments [.message 12 "a" (news "succeeded")]) = [] ∧
      (receivedOn "a" ⟨2⟩ ((((Hub.new 1000).run busyInbox).1.step
        (.unsubscribe 11 "a" ⟨1⟩)).1.moments [.message 12 "a" (news "succeeded")])).length = 1 := by
  obtain ⟨hdue, -, -, hleft, -⟩ := received_eq_due 1000 busyInbox ⟨1⟩
  refine ⟨?_, ?_, hleft 11 "a" _ ?_, by decide +kernel⟩
  · rw [hdue]
    decide +kernel
  · rw [hdue]
    decide +kernel
  · simp

end RunBoard.Realtime
