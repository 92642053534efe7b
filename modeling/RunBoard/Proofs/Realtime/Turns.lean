import RunBoard.Proofs.Realtime.Topics
import RunBoard.Proofs.Realtime.Errands

/-!
# What an event can do to a hub

`Hub.Turn` lists what one event can do: which entry of the table it changes, which claims it takes
up, settles or gives up, and which subscriptions end with it.  `turn_step` says that there is
nothing else, for a hub that is `Coherent`: the claims agree with the table.  An event is only asked
to keep to what the callers promise, which is `Permits`.

Everything that is proved of runs of a hub goes through these two.  The rest of the hub, such as the
connection, the turns of those who post and the progress of each, is opened here for the last time.
-/

namespace RunBoard.Realtime

/-! ### The ends of subscriptions -/

/-- A ticket and the result with which its subscription has ended. -/
abbrev Ending := Ticket × Except RequestError Bool

/-- The end of a subscription that an effect tells of. -/
def Effect.ending? : Effect → Option Ending
  | .finish τ result => some (τ, result)
  | .connect | .disconnect | .post _ _ _ | .deliver _ _ => none

/-- The ends of subscriptions among effects. -/
def endings (effects : List Effect) : List Ending :=
  effects.filterMap Effect.ending?

@[simp] lemma endings_nil : endings [] = [] := rfl

@[simp] lemma endings_append (effects more : List Effect) :
    endings (effects ++ more) = endings effects ++ endings more :=
  List.filterMap_append

@[simp] lemma endings_finish (τ : Ticket) (result : Except RequestError Bool)
    (effects : List Effect) :
    endings (.finish τ result :: effects) = (τ, result) :: endings effects := rfl

namespace HubEvent

/-- The ticket that is used for the first time. -/
def begins? : HubEvent → Option Ticket
  | subscribe τ _ _ | unsubscribe τ _ _ | message τ _ _ => some τ
  | drop _ | resume _ | expire _ | posted _ _ | lost | ended => none

/-- The ticket of an errand that goes on. -/
def moves? : HubEvent → Option Ticket
  | resume τ | expire τ | posted τ _ => some τ
  | subscribe _ _ _ | unsubscribe _ _ _ | drop _ | message _ _ _ | lost | ended => none

/-- Whether an event can leave the table and the claims as they are. -/
def Calm (h : Hub) : HubEvent → Prop
  | subscribe _ _ _ | unsubscribe _ _ _ => False
  | drop τ => h.claim? τ = none
  | resume _ | expire _ | posted _ _ | message _ _ _ | lost | ended => True

lemma calm_of_moves {h : Hub} {event : HubEvent} {τ : Ticket} (he : event.moves? = some τ) :
    event.Calm h := by
  cases event with
  | resume | expire | posted => trivial
  | _ => exact absurd he (by simp [moves?])

end HubEvent

namespace Hub

variable {h h' : Hub} {τ σ : Ticket} {e : Errand} {topic : String} {l : Listener} {p : Progress}
  {message : String}

/-! ### Frames of the operations -/

lemma within_disconnectIfIdle : h.Within h.disconnectIfIdle.1 := by
  unfold disconnectIfIdle
  split
  · exact within_disconnect
  · exact .refl h

lemma within_topics {topics : Topics} : h.Within { h with topics } :=
  within_of_errands rfl

lemma within_abandon : h.Within (h.abandon topic message).1 := by
  unfold abandon
  refine Within.trans ?_ within_disconnectIfIdle
  split
  · exact .refl h
  · exact within_topics.trans within_announce

lemma within_activate : h.Within (h.activate topic) := by
  unfold activate
  split
  · exact .refl h
  · exact within_topics.trans within_announce

lemma within_unregister : h.Within (h.unregister topic l).1 := by
  unfold unregister
  split
  · exact within_topics
  · exact within_topics.trans within_announce

lemma within_conclude {result : Except RequestError Unit} :
    h.Within (h.conclude τ e result).1 := by
  unfold conclude
  split
  · exact within_remove.trans within_activate
  · exact within_remove.trans within_abandon
  · exact within_remove

lemma frame_post : h.Frame (some τ) (h.post τ e).1 := by
  unfold post
  split
  · refine frame_put fun names hposted => ?_
    rw [Errand.posted?_at_queued] at hposted
    exact absurd hposted (by simp)
  · split
    · exact within_conclude.frame
    · exact frame_put fun names hposted => Errand.posted?_at_posting hposted

lemma frame_queue : h.Frame (some τ) (h.queue τ e).1 := by
  have hturns : h.Within { h with turns := h.turns ++ [τ] } := within_of_errands rfl
  exact hturns.trans_frame frame_post

lemma within_await {latest : Handshake} {gone : Bool} :
    h.Within (h.await τ topic l latest gone).1 := by
  unfold await
  split
  · exact within_remove
  · exact within_remove
  · split
    · exact within_remove.trans within_unregister
    · exact .refl h

lemma frame_resume : h.Frame none (h.resume τ).1 := by
  unfold resume
  split
  · exact (Within.refl h).frame
  · rename_i e herrand
    have hknown : h.errand? τ ≠ none := by simp [herrand]
    split
    · exact within_await.frame
    all_goals
      split
      · split
        · exact frame_queue.of_known hknown
        · exact (Within.refl h).frame
      · exact frame_post.of_known hknown
      · exact (Within.refl h).frame

lemma frame_subscribe : h.Frame (some τ) (h.subscribe τ topic l).1 := by
  unfold subscribe
  split
  · exact (Within.refl h).frame
  · exact within_topics.trans_frame (frame_resume.after_put rfl)
  · rename_i topics _ _
    have hconnect : h.Within ({ h with topics }.connect).1 := by
      unfold connect
      split
      · exact within_topics
      · exact within_of_errands rfl
    exact hconnect.trans_frame (frame_resume.after_put rfl)

lemma frame_unsubscribe : h.Frame (some τ) (h.unsubscribe τ topic l).1 := by
  have hleave : h.Within (h.unregister topic l).1 := within_unregister
  unfold unsubscribe
  split
  · rename_i heq
    rw [heq] at hleave
    exact hleave.frame
  · rename_i heq
    rw [heq] at hleave
    split
    · exact (hleave.trans within_disconnect).frame
    · refine hleave.trans_frame (frame_put fun names hp => ?_)
      exact absurd hp (by simp [Errand.posted?, Errand.progress?])

/-- Whatever happens, the tickets stay distinct, only a ticket that is used for the first time is
new, and what has been posted since are the names of the table. -/
lemma frame_step (h : Hub) (event : HubEvent) : h.Frame event.begins? (h.step event).1 := by
  cases event with
  | subscribe τ topic l => exact frame_subscribe
  | unsubscribe τ topic l => exact frame_unsubscribe
  | drop τ =>
    simp only [step, drop]
    split
    · exact (within_remove.trans within_abandon).frame
    · exact within_remove.frame
    · exact (Within.refl h).frame
  | resume τ => exact frame_resume
  | expire τ =>
    simp only [step, expire]
    split
    · split
      · exact within_conclude.frame
      · exact (Within.refl h).frame
    · exact (Within.refl h).frame
  | posted τ result =>
    simp only [step, posted]
    split
    · split
      · exact within_conclude.frame
      · exact (Within.refl h).frame
    · exact (Within.refl h).frame
  | message τ name data =>
    simp only [step, Hub.message]
    split
    · split
      · unfold greet
        split
        · exact (Within.refl h).frame
        · rename_i client _
          have hclient : h.Within { h with client := some client } := within_of_errands rfl
          dsimp only
          split
          · exact hclient.frame
          · exact hclient.trans_frame frame_queue
      · exact (Within.refl h).frame
    · exact (Within.refl h).frame
  | lost =>
    simp only [step]
    split
    · exact (within_of_errands rfl : h.Within { h with client := none }).frame
    · exact (Within.refl h).frame
  | ended =>
    simp only [step]
    split
    · exact (within_of_errands rfl : h.Within { h with client := none, streaming := false }).frame
    · exact (Within.refl h).frame

/-! ### Coherence -/

/-- Whether a listener has a subscription on a topic that is still running. -/
def Subscribing (h : Hub) (topic : String) (l : Listener) : Prop :=
  ∃ p ∈ h.errands, ∃ c ∈ p.2.claim?, c.topic = topic ∧ c.listener = l

instance (h : Hub) (topic : String) (l : Listener) : Decidable (h.Subscribing topic l) :=
  inferInstanceAs (Decidable (∃ p ∈ h.errands, ∃ c ∈ p.2.claim?, c.topic = topic ∧ c.listener = l))

/-- What holds of a subscription that waits for an entry: it is registered on it and has heard of
its state, or it has heard that the entry has failed and is not registered. -/
def Waits (h : Hub) (topic : String) (l : Listener) (serial : Nat) (latest : Handshake)
    (gone : Bool) : Prop :=
  (gone = false ∧ ∃ entry, h.topics.find? topic = some entry ∧ entry.serial = serial ∧
    entry.handshake = latest ∧ l ∈ entry.listeners) ∨
  ((∃ message, latest = .failed message) ∧ h.topics.Gone serial ∧ l ∉ h.topics.listeners topic)

/-- The claims of a hub agree with its table. -/
structure Coherent (h : Hub) : Prop where
  nodup : h.tickets.Nodup
  sound : h.topics.Sound
  /-- The entry that an opening is for waits for it. -/
  opening : ∀ τ topic l, h.claim? τ = some (.opening topic l) →
    ∃ entry, h.topics.find? topic = some entry ∧ entry.handshake = .pending ∧ l ∈ entry.listeners
  /-- A topic has one opening. -/
  opener : ∀ τ σ topic l k, h.claim? τ = some (.opening topic l) →
    h.claim? σ = some (.opening topic k) → τ = σ
  joining : ∀ τ topic l serial latest gone,
    h.claim? τ = some (.joining topic l serial latest gone) →
      h.Waits topic l serial latest gone
  /-- What an opening posts has its topic among it. -/
  posted : ∀ τ topic l names, h.claim? τ = some (.opening topic l) →
    h.posted? τ = some names → topic ∈ names

/-- What the callers of a hub promise: a ticket that is not in use for what begins, and that nobody
wants or leaves a topic while a subscription of theirs on it is still running. -/
def Permits (h : Hub) : HubEvent → Prop
  | .subscribe τ topic l | .unsubscribe τ topic l => h.errand? τ = none ∧ ¬ h.Subscribing topic l
  | .message τ _ _ => h.errand? τ = none
  | .drop _ | .resume _ | .expire _ | .posted _ _ | .lost | .ended => True

/-! ### Turns -/

/-- `h.Moves topic entry claims h'`: of the table, only the entry of a topic has changed, and the
claims of `h'` are `claims`. -/
structure Moves (h : Hub) (topic : String) (entry : Option Entry) (claims : Ticket → Option Claim)
    (h' : Hub) : Prop where
  entry : h.topics.Sets topic entry h'.topics
  next : h'.topics.next = h.topics.next
  claims : ∀ σ, h'.claim? σ = claims σ

/-- `h.Stays claims h'`: the table has not changed, and the claims of `h'` are `claims`. -/
structure Stays (h : Hub) (claims : Ticket → Option Claim) (h' : Hub) : Prop where
  topics : h'.topics = h.topics
  claims : ∀ σ, h'.claim? σ = claims σ

/-- The claims with one more. -/
def taking (h : Hub) (τ : Ticket) (c : Claim) (σ : Ticket) : Option Claim :=
  if σ = τ then some c else h.claim? σ

/-- The claims without one. -/
def lacking (h : Hub) (τ σ : Ticket) : Option Claim :=
  if σ = τ then none else h.claim? σ

/-- The claims without one, when all others have heard of the state of an entry. -/
def settling (h : Hub) (τ : Ticket) (serial : Nat) (state : Handshake) (gone : Bool) (σ : Ticket) :
    Option Claim :=
  (h.lacking τ σ).map (Claim.hear serial state gone)

/-- What an event can do to a coherent hub, and which subscriptions end with it. -/
inductive Turn (h : Hub) : HubEvent → List Ending → Hub → Prop
  /-- Nothing happens that matters to a subscription. -/
  | calm {event : HubEvent} {h' : Hub} (hcalm : event.Calm h) (hstays : h.Stays h.claim? h') :
      Turn h event [] h'
  /-- Who listens already does not subscribe again. -/
  | redundant {τ : Ticket} {topic : String} {l : Listener} (hl : l ∈ h.topics.listeners topic) :
      Turn h (.subscribe τ topic l) [(τ, .ok false)] h
  /-- The first listener of a topic opens it. -/
  | opened {τ : Ticket} {topic : String} {l : Listener} {h' : Hub}
      (hfind : h.topics.find? topic = none)
      (hentry : h.topics.Sets topic (some (h.topics.opened topic l)) h'.topics)
      (hnext : h'.topics.next = h.topics.next + 1)
      (hclaims : ∀ σ, h'.claim? σ = h.taking τ (.opening topic l) σ) :
      Turn h (.subscribe τ topic l) [] h'
  /-- A listener waits for the outcome. -/
  | joined {τ : Ticket} {topic : String} {l : Listener} {entry : Entry} {h' : Hub}
      (hfind : h.topics.find? topic = some entry) (hl : l ∉ entry.listeners)
      (hstate : entry.handshake = .pending)
      (hmoves : h.Moves topic (some (entry.welcome l))
        (h.taking τ (.joining topic l entry.serial .pending false)) h') :
      Turn h (.subscribe τ topic l) [] h'
  /-- A listener joins an entry that the backend knows of. -/
  | welcomed {τ : Ticket} {topic : String} {l : Listener} {entry : Entry} {h' : Hub}
      (hfind : h.topics.find? topic = some entry) (hl : l ∉ entry.listeners)
      (hstate : entry.handshake = .active)
      (hmoves : h.Moves topic (some (entry.welcome l)) h.claim? h') :
      Turn h (.subscribe τ topic l) [(τ, .ok true)] h'
  /-- The topics have been posted, and the opening has succeeded. -/
  | activated {τ : Ticket} {topic : String} {l : Listener} {names : List String} {entry : Entry}
      {h' : Hub} (hclaim : h.claim? τ = some (.opening topic l))
      (hposted : h.posted? τ = some names) (hfind : h.topics.find? topic = some entry)
      (hmoves : h.Moves topic (some entry.activated)
        (h.settling τ entry.serial .active false) h') :
      Turn h (.posted τ (.ok ())) [(τ, .ok true)] h'
  /-- An opening fails. -/
  | failed {event : HubEvent} {τ : Ticket} {topic : String} {l : Listener} {entry : Entry}
      {error : RequestError} {h' : Hub} (hmoving : event.moves? = some τ)
      (hclaim : h.claim? τ = some (.opening topic l)) (hfind : h.topics.find? topic = some entry)
      (hmoves : h.Moves topic none (h.settling τ entry.serial (.failed error.message) true) h') :
      Turn h event [(τ, .error error)] h'
  /-- An opening is dropped. -/
  | dropped {τ : Ticket} {topic : String} {l : Listener} {entry : Entry} {message : String}
      {h' : Hub} (hclaim : h.claim? τ = some (.opening topic l))
      (hfind : h.topics.find? topic = some entry)
      (hmoves : h.Moves topic none (h.settling τ entry.serial (.failed message) true) h') :
      Turn h (.drop τ) [] h'
  /-- A subscription that has waited hears of the success. -/
  | accepted {τ : Ticket} {topic : String} {l : Listener} {serial : Nat} {gone : Bool} {h' : Hub}
      (hclaim : h.claim? τ = some (.joining topic l serial .active gone))
      (hstays : h.Stays (h.lacking τ) h') : Turn h (.resume τ) [(τ, .ok true)] h'
  /-- A subscription that has waited hears of the failure. -/
  | refused {τ : Ticket} {topic : String} {l : Listener} {serial : Nat} {message : String}
      {gone : Bool} {h' : Hub}
      (hclaim : h.claim? τ = some (.joining topic l serial (.failed message) gone))
      (hstays : h.Stays (h.lacking τ) h') : Turn h (.resume τ) [(τ, .error (.realtime message))] h'
  /-- Nobody waits any more for the outcome of an entry. -/
  | forgotten {τ : Ticket} {topic : String} {l : Listener} {serial : Nat} {latest : Handshake}
      {gone : Bool} {h' : Hub} (hclaim : h.claim? τ = some (.joining topic l serial latest gone))
      (hstays : h.Stays (h.lacking τ) h') : Turn h (.drop τ) [] h'
  /-- A listener leaves a topic. -/
  | left {τ : Ticket} {topic : String} {l : Listener} {entry : Entry} {h' : Hub}
      (hfind : h.topics.find? topic = some entry) (hl : l ∈ entry.listeners)
      (hmoves : h.Moves topic (entry.without l) h.claim? h') : Turn h (.unsubscribe τ topic l) [] h'
  /-- A listener leaves a topic that it does not listen to. -/
  | absent {τ : Ticket} {topic : String} {l : Listener} (hl : l ∉ h.topics.listeners topic) :
      Turn h (.unsubscribe τ topic l) [] h

lemma claim?_eq_some {c : Claim} :
    h.claim? τ = some c ↔ ∃ e, h.errand? τ = some e ∧ e.claim? = some c := by
  unfold claim?
  rw [Option.bind_eq_some_iff]

lemma subscribing_iff (hk : h.tickets.Nodup) :
    h.Subscribing topic l ↔ ∃ τ c, h.claim? τ = some c ∧ c.topic = topic ∧ c.listener = l := by
  constructor
  · rintro ⟨⟨τ, e⟩, hmem, c, hc, htopic, hl⟩
    exact ⟨τ, c, claim?_eq_some.mpr ⟨e, errand?_of_mem hk hmem, hc⟩, htopic, hl⟩
  · rintro ⟨τ, c, hclaim, htopic, hl⟩
    obtain ⟨e, herrand, hc⟩ := claim?_eq_some.mp hclaim
    exact ⟨(τ, e), mem_of_lookup_eq_some herrand, c, hc, htopic, hl⟩

/-! ### What the operations come to -/

lemma stays_refl (h : Hub) : h.Stays h.claim? h :=
  ⟨rfl, fun _ => rfl⟩

lemma stays_remove : h.Stays (h.lacking τ) (h.remove τ) :=
  ⟨rfl, fun _ => claim?_remove⟩

/-- Taking out an errand that nobody waits for changes no claim. -/
lemma stays_remove_of_none (hnone : h.claim? τ = none) : h.Stays h.claim? (h.remove τ) := by
  refine ⟨rfl, fun σ => ?_⟩
  rw [claim?_remove]
  split
  · rename_i hσ
    rw [hσ, hnone]
  · rfl

/-- An errand at another point of its progress has the claim that it had. -/
lemma stays_put (hclaim : h.claim? τ = e.claim?) : h.Stays h.claim? (h.put τ e) := by
  refine ⟨put_topics, fun σ => ?_⟩
  rw [claim?_put]
  split
  · rename_i hσ
    rw [hσ, hclaim]
  · rfl

lemma stays_disconnect (hk : h.tickets.Nodup) : h.Stays h.claim? h.disconnect.1 :=
  ⟨disconnect_topics, fun _ => claim?_disconnect hk⟩

lemma endings_disconnect : endings h.disconnect.2 = [] := by
  unfold disconnect
  dsimp only
  split <;> rfl

lemma stays_disconnectIfIdle (hk : h.tickets.Nodup) : h.Stays h.claim? h.disconnectIfIdle.1 := by
  unfold disconnectIfIdle
  split
  · exact stays_disconnect hk
  · exact stays_refl h

lemma endings_disconnectIfIdle : endings h.disconnectIfIdle.2 = [] := by
  unfold disconnectIfIdle
  split
  · exact endings_disconnect
  · rfl

lemma endings_abandon : endings (h.abandon topic message).2 = [] :=
  endings_disconnectIfIdle

lemma moves_abandon (message : String) {entry : Entry} (hk : h.tickets.Nodup)
    (hfind : h.topics.find? topic = some entry) :
    h.Moves topic none (fun σ => (h.claim? σ).map (Claim.hear entry.serial (.failed message) true))
      (h.abandon topic message).1 := by
  have hnodup : ({ h with topics := h.topics.erase topic }.announce entry.serial
      (.failed message) true).tickets.Nodup :=
    hk.sublist (within_topics.trans within_announce).tickets
  obtain ⟨htopics, hclaims⟩ := stays_disconnectIfIdle hnodup
  unfold abandon
  rw [hfind]
  refine ⟨?_, ?_, fun σ => (hclaims σ).trans claim?_announce⟩
  · rw [htopics]
    exact Topics.sets_erase
  · rw [htopics]
    rfl

lemma moves_activate {entry : Entry} (hfind : h.topics.find? topic = some entry) :
    h.Moves topic (some entry.activated)
      (fun σ => (h.claim? σ).map (Claim.hear entry.serial .active false)) (h.activate topic) := by
  unfold activate
  rw [hfind]
  refine ⟨?_, rfl, fun σ => claim?_announce⟩
  have hset : h.topics.Sets topic _ (h.topics.modify topic Entry.activated) :=
    Topics.sets_modify fun _ htopic => htopic
  rwa [hfind] at hset

/-- Giving up the topic of an errand that is taken out. -/
lemma moves_remove_abandon (message : String) {entry : Entry} (hk : h.tickets.Nodup)
    (hfind : h.topics.find? topic = some entry) :
    h.Moves topic none (h.settling τ entry.serial (.failed message) true)
      ((h.remove τ).abandon topic message).1 := by
  have hfind' : (h.remove τ).topics.find? topic = some entry := hfind
  obtain ⟨hset, hnext, hclaims⟩ :=
    moves_abandon message (hk.sublist within_remove.tickets) hfind'
  simp only [claim?_remove] at hclaims
  exact ⟨hset, hnext, hclaims⟩

/-- An opening that ends badly takes its topic with it. -/
lemma turn_conclude_error {event : HubEvent} {error : RequestError} (hh : h.Coherent)
    (hmoving : event.moves? = some τ) (hclaim : h.claim? τ = e.claim?)
    (hposts : e.progress? ≠ none) :
    h.Turn event (endings (h.conclude τ e (.error error)).2) (h.conclude τ e (.error error)).1 := by
  cases e with
  | opening topic l p =>
    obtain ⟨entry, hfind, _, _⟩ := hh.opening τ topic l hclaim
    have hturn := Turn.failed hmoving hclaim hfind
      (moves_remove_abandon error.message hh.nodup hfind)
    simpa [conclude, endings_abandon] using hturn
  | joining => exact absurd rfl hposts
  | shrinking p => exact .calm (HubEvent.calm_of_moves hmoving) (stays_remove_of_none hclaim)
  | restoring p => exact .calm (HubEvent.calm_of_moves hmoving) (stays_remove_of_none hclaim)

/-- Posting leaves everything as it is unless the connection is lost. -/
lemma stays_post (hclaim : h.claim? τ = e.claim?) (hclient : h.client ≠ none) :
    h.Stays h.claim? (h.post τ e).1 ∧ endings (h.post τ e).2 = [] := by
  unfold post
  split
  · exact ⟨stays_put (by rw [hclaim, Errand.claim?_at]), rfl⟩
  · split
    · rename_i hlost
      exact absurd hlost hclient
    · exact ⟨stays_put (by rw [hclaim, Errand.claim?_at]), rfl⟩

lemma stays_queue (hclaim : h.claim? τ = e.claim?) (hclient : h.client ≠ none) :
    h.Stays h.claim? (h.queue τ e).1 ∧ endings (h.queue τ e).2 = [] := by
  obtain ⟨⟨htopics, hclaims⟩, hends⟩ :=
    stays_post (h := { h with turns := h.turns ++ [τ] }) hclaim hclient
  exact ⟨⟨htopics, hclaims⟩, hends⟩

/-- How an errand that posts the topics goes on. -/
def go (h : Hub) (τ : Ticket) (e : Errand) : Progress → Hub × List Effect
  | .connecting => if h.isConnected then h.queue τ e else (h, [])
  | .queued => h.post τ e
  | .posting _ _ => (h, [])

lemma resume_eq_go (herrand : h.errand? τ = some e) (hp : e.progress? = some p) :
    h.resume τ = h.go τ e p := by
  unfold resume
  rw [herrand]
  cases e with
  | joining => exact absurd hp (by simp [Errand.progress?])
  | _ =>
    obtain rfl := Option.some.inj hp
    dsimp only
    split <;> rfl

/-- Whoever waits for a connection goes on without a change that matters. -/
lemma stays_resume_connecting (herrand : h.errand? τ = some e)
    (hwaits : e.progress? = some .connecting) :
    h.Stays h.claim? (h.resume τ).1 ∧ endings (h.resume τ).2 = [] := by
  have hclaim : h.claim? τ = e.claim? := by simp [claim?, herrand]
  rw [resume_eq_go herrand hwaits]
  unfold go
  dsimp only
  split
  · rename_i hconnected
    have hclient : h.client ≠ none := by
      rw [← Option.isSome_iff_ne_none]
      exact hconnected
    exact stays_queue hclaim hclient
  · exact ⟨stays_refl h, rfl⟩

/-- Posting fails when the connection is lost. -/
lemma turn_post {event : HubEvent} (hh : h.Coherent) (hmoving : event.moves? = some τ)
    (hclaim : h.claim? τ = e.claim?) (hposts : e.progress? ≠ none) :
    h.Turn event (endings (h.post τ e).2) (h.post τ e).1 := by
  by_cases hlost : h.client = none
  · unfold post
    split
    · refine .calm (HubEvent.calm_of_moves hmoving) (stays_put ?_)
      rw [hclaim, Errand.claim?_at]
    · rw [hlost]
      exact turn_conclude_error hh hmoving hclaim hposts
  · obtain ⟨hstays, hends⟩ := stays_post hclaim hlost
    rw [hends]
    exact .calm (HubEvent.calm_of_moves hmoving) hstays

lemma endings_deliver {name data : String} : endings (h.deliver name data) = [] := by
  unfold deliver
  split
  · rfl
  · split
    · rfl
    · induction h.topics.listeners name with
      | nil => rfl
      | cons l listeners ih => exact ih

/-! ### What each event does -/

lemma turn_subscribe_first {topics : Topics} (hfind : h.topics.find? topic = none)
    (hset : h.topics.Sets topic (some (h.topics.opened topic l)) topics)
    (hnext : topics.next = h.topics.next + 1)
    (hreg : h.topics.register topic l = (topics, .first h.topics.next)) :
    h.Turn (.subscribe τ topic l) (endings (h.subscribe τ topic l).2)
      (h.subscribe τ topic l).1 := by
  obtain ⟨hwith, hconnect⟩ : (({ h with topics }.connect).1.topics = topics ∧
      ∀ σ, ({ h with topics }.connect).1.claim? σ = h.claim? σ) ∧
      endings ({ h with topics }.connect).2 = [] := by
    unfold connect
    split
    · exact ⟨⟨rfl, fun _ => rfl⟩, rfl⟩
    · exact ⟨⟨rfl, fun _ => rfl⟩, rfl⟩
  have herrand : (({ h with topics }.connect).1.put τ (.opening topic l .connecting)).errand? τ =
      some (.opening topic l .connecting) := errand?_put.trans (if_pos rfl)
  obtain ⟨hstays, hends⟩ := stays_resume_connecting herrand rfl
  unfold subscribe
  rw [hreg]
  dsimp only
  rw [endings_append, hconnect, hends]
  refine .opened hfind ?_ ?_ fun σ => ?_
  · rw [hstays.topics, put_topics, hwith.1]
    exact hset
  · rw [hstays.topics, put_topics, hwith.1]
    exact hnext
  · rw [hstays.claims, claim?_put, hwith.2]
    rfl

lemma turn_subscribe_joined {topics : Topics} {entry : Entry} (hh : h.Coherent)
    (hp : h.Permits (.subscribe τ topic l)) (hfind : h.topics.find? topic = some entry)
    (hl : l ∉ entry.listeners) (hset : h.topics.Sets topic (some (entry.welcome l)) topics)
    (hnext : topics.next = h.topics.next)
    (hreg : h.topics.register topic l = (topics, .joined (entry.welcome l))) :
    h.Turn (.subscribe τ topic l) (endings (h.subscribe τ topic l).2)
      (h.subscribe τ topic l).1 := by
  have hnone : h.claim? τ = none := by simp [claim?, hp.1]
  have herrand : ({ h with topics }.put τ
      (.joining topic l entry.serial entry.handshake false)).errand? τ =
        some (.joining topic l entry.serial entry.handshake false) :=
    errand?_put.trans (if_pos rfl)
  have hsubscribe : h.subscribe τ topic l =
      ({ h with topics }.put τ (.joining topic l entry.serial entry.handshake false)).await τ
        topic l entry.handshake false := by
    unfold subscribe
    rw [hreg]
    simp only [Entry.welcome_serial, Entry.welcome_handshake, resume, herrand]
  have hput : ∀ e, ({ h with topics }.put τ e).topics = topics := fun _ => put_topics
  rw [hsubscribe]
  -- an entry that has failed is not in the table, so that there are only two cases
  rcases (hh.sound.entry topic entry hfind).2 with hstate | hstate
  · rw [hstate]
    refine .joined hfind hl hstate ⟨?_, ?_, fun σ => ?_⟩
    · show h.topics.Sets topic _ ({ h with topics }.put τ _).topics
      rwa [hput]
    · show ({ h with topics }.put τ _).topics.next = _
      rwa [hput]
    · exact claim?_put
  · rw [hstate]
    refine .welcomed hfind hl hstate ⟨?_, ?_, fun σ => ?_⟩
    · show h.topics.Sets topic _ ({ h with topics }.put τ _).topics
      rwa [hput]
    · show ({ h with topics }.put τ _).topics.next = _
      rwa [hput]
    · refine claim?_remove.trans ?_
      split
      · rename_i hσ
        rw [hσ, hnone]
      · rename_i hσ
        exact claim?_put.trans (if_neg hσ)

lemma turn_subscribe (hh : h.Coherent) (hp : h.Permits (.subscribe τ topic l)) :
    h.Turn (.subscribe τ topic l) (endings (h.subscribe τ topic l).2)
      (h.subscribe τ topic l).1 := by
  rcases h.topics.register_cases topic l with ⟨entry, hfind, hl, hreg⟩ |
    ⟨topics, hfind, hset, hnext, hreg⟩ | ⟨entry, topics, hfind, hl, hset, hnext, hreg⟩
  · unfold subscribe
    rw [hreg]
    exact .redundant (Topics.mem_listeners.mpr ⟨entry, hfind, hl⟩)
  · exact turn_subscribe_first hfind hset hnext hreg
  · exact turn_subscribe_joined hh hp hfind hl hset hnext hreg

/-- Nobody waits for an entry that its last listener leaves, since it would have to wait itself. -/
lemma hear_of_last {entry : Entry} {state : Handshake} (hh : h.Coherent)
    (hp : h.Permits (.unsubscribe τ topic l)) (hfind : h.topics.find? topic = some entry)
    (hlast : entry.without l = none) :
    (h.claim? σ).map (Claim.hear entry.serial state true) = h.claim? σ := by
  cases hclaim : h.claim? σ with
  | none => rfl
  | some c =>
    cases c with
    | opening => rfl
    | joining x k serial latest gone =>
      have hne : serial ≠ entry.serial := by
        rintro rfl
        rcases hh.joining σ x k entry.serial latest gone hclaim with
          ⟨_, other, hother, hserial, _, hk⟩ | ⟨_, hgone, _⟩
        · obtain rfl := hh.sound.serial topic x entry other hfind hother hserial.symm
          obtain rfl := Option.some.inj (hfind.symm.trans hother)
          by_cases hkl : k = l
          · subst hkl
            exact hp.2 ((subscribing_iff hh.nodup).mpr ⟨σ, _, hclaim, rfl, rfl⟩)
          · rw [Entry.without_of_mem hk hkl] at hlast
            exact absurd hlast (by simp)
        · exact hgone.2 topic entry hfind rfl
      simp [Claim.hear, hne]

lemma turn_unsubscribe (hh : h.Coherent) (hp : h.Permits (.unsubscribe τ topic l)) :
    h.Turn (.unsubscribe τ topic l) (endings (h.unsubscribe τ topic l).2)
      (h.unsubscribe τ topic l).1 := by
  have hnone : h.claim? τ = none := by simp [claim?, hp.1]
  rcases h.topics.unregister_cases topic l with ⟨hl, hreg⟩ |
    ⟨entry, topics, hfind, hl, hset, hnext, hreg⟩
  · have hsame : h.unsubscribe τ topic l = (h, []) := by
      unfold unsubscribe unregister
      rw [hreg]
    rw [hsame]
    exact .absent hl
  · cases hrest : entry.without l with
    | some rest =>
      have hstep : h.unsubscribe τ topic l = ({ h with topics }, []) := by
        unfold unsubscribe unregister
        rw [hreg, hrest]
        rfl
      rw [hstep]
      exact .left hfind hl ⟨hset, hnext, fun _ => rfl⟩
    | none =>
      -- the topic goes, and the hub closes the connection or posts the names that are left
      have hstep : h.unsubscribe τ topic l =
          let left := { h with topics }.announce entry.serial entry.handshake true
          if left.topics.isEmpty then left.disconnect
          else (left.put τ (.shrinking .connecting), []) := by
        unfold unsubscribe unregister
        rw [hreg, hrest]
        rfl
      have hclaims : ∀ σ, ({ h with topics }.announce entry.serial entry.handshake true).claim? σ =
          h.claim? σ := by
        intro σ
        rw [claim?_announce]
        exact hear_of_last (h := h) hh hp hfind hrest
      have hk : ({ h with topics }.announce entry.serial entry.handshake true).tickets.Nodup :=
        hh.nodup.sublist (within_topics.trans within_announce).tickets
      rw [hstep]
      dsimp only
      split
      · obtain ⟨htopics, hsame⟩ := stays_disconnect hk
        rw [endings_disconnect]
        refine .left hfind hl ⟨?_, ?_, fun σ => (hsame σ).trans (hclaims σ)⟩
        · rw [htopics]
          exact hset
        · rw [htopics]
          exact hnext
      · have hput := stays_put (e := .shrinking .connecting) ((hclaims τ).trans hnone)
        refine .left hfind hl ⟨?_, ?_, fun σ => (hput.claims σ).trans (hclaims σ)⟩
        · rw [hput.topics]
          exact hset
        · rw [hput.topics]
          exact hnext

lemma turn_drop (hh : h.Coherent) : h.Turn (.drop τ) (endings (h.drop τ).2) (h.drop τ).1 := by
  unfold drop
  split
  · rename_i topic l p herrand
    have hclaim : h.claim? τ = some (.opening topic l) := by simp [claim?, herrand, Errand.claim?]
    obtain ⟨entry, hfind, _, _⟩ := hh.opening τ topic l hclaim
    rw [endings_abandon]
    exact .dropped hclaim hfind (moves_remove_abandon _ hh.nodup hfind)
  · rename_i topic l serial latest gone herrand
    have hclaim : h.claim? τ = some (.joining topic l serial latest gone) := by
      simp [claim?, herrand, Errand.claim?]
    exact .forgotten hclaim stays_remove
  · rename_i hopening hjoining
    refine .calm ?_ (stays_refl h)
    show h.claim? τ = none
    cases herrand : h.errand? τ with
    | none => simp [claim?, herrand]
    | some e =>
      cases e with
      | opening topic l p => exact absurd herrand (hopening topic l p)
      | joining topic l serial latest gone =>
        exact absurd herrand (hjoining topic l serial latest gone)
      | shrinking => simp [claim?, herrand, Errand.claim?]
      | restoring => simp [claim?, herrand, Errand.claim?]

lemma turn_await {serial : Nat} {latest : Handshake} {gone : Bool} (hh : h.Coherent)
    (hclaim : h.claim? τ = some (.joining topic l serial latest gone)) :
    h.Turn (.resume τ) (endings (h.await τ topic l latest gone).2)
      (h.await τ topic l latest gone).1 := by
  unfold await
  cases latest with
  | active => exact .accepted hclaim stays_remove
  | failed message => exact .refused hclaim stays_remove
  | pending =>
    -- an entry that is still being opened cannot have gone
    rcases hh.joining τ topic l serial .pending gone hclaim with ⟨rfl, _⟩ | ⟨⟨_, hfailed⟩, _⟩
    · exact .calm trivial (stays_refl h)
    · exact absurd hfailed (by simp)

lemma turn_resume (hh : h.Coherent) :
    h.Turn (.resume τ) (endings (h.resume τ).2) (h.resume τ).1 := by
  cases herrand : h.errand? τ with
  | none =>
    have hidle : h.resume τ = (h, []) := by simp only [resume, herrand]
    rw [hidle]
    exact .calm trivial (stays_refl h)
  | some e =>
    have hclaim : h.claim? τ = e.claim? := by simp [claim?, herrand]
    cases hprogress : e.progress? with
    | none =>
      cases e with
      | joining topic l serial latest gone =>
        have hawait : h.resume τ = h.await τ topic l latest gone := by simp only [resume, herrand]
        rw [hawait]
        exact turn_await hh hclaim
      | _ => exact absurd hprogress (by simp [Errand.progress?])
    | some p =>
      cases p with
      | connecting =>
        obtain ⟨hstays, hends⟩ := stays_resume_connecting herrand hprogress
        rw [hends]
        exact .calm trivial hstays
      | queued =>
        rw [resume_eq_go herrand hprogress]
        exact turn_post hh rfl hclaim (by simp [hprogress])
      | posting client names =>
        rw [resume_eq_go herrand hprogress]
        exact .calm trivial (stays_refl h)

lemma turn_expire (hh : h.Coherent) :
    h.Turn (.expire τ) (endings (h.expire τ).2) (h.expire τ).1 := by
  unfold expire
  split
  · rename_i e herrand
    split
    · rename_i hwaits
      have hclaim : h.claim? τ = e.claim? := by simp [claim?, herrand]
      exact turn_conclude_error hh rfl hclaim (by simp [hwaits.1])
    · exact .calm trivial (stays_refl h)
  · exact .calm trivial (stays_refl h)

lemma turn_posted {result : Except RequestError Unit} (hh : h.Coherent) :
    h.Turn (.posted τ result) (endings (h.posted τ result).2) (h.posted τ result).1 := by
  unfold Hub.posted
  split
  · rename_i e herrand
    split
    · rename_i client names hprogress
      have hclaim : h.claim? τ = e.claim? := by simp [claim?, herrand]
      cases result with
      | error error => exact turn_conclude_error hh rfl hclaim (by simp [hprogress])
      | ok _ =>
        cases e with
        | opening topic l p =>
          obtain ⟨entry, hfind, _, _⟩ := hh.opening τ topic l hclaim
          have hposted : h.posted? τ = some names := by
            simp [posted?, herrand, Errand.posted?, hprogress]
          have hmoves := moves_activate
            (show (h.remove τ).topics.find? topic = some entry from hfind)
          simp only [claim?_remove] at hmoves
          exact .activated hclaim hposted hfind ⟨hmoves.entry, hmoves.next, hmoves.claims⟩
        | joining => exact absurd hprogress (by simp [Errand.progress?])
        | shrinking p => exact .calm trivial (stays_remove_of_none hclaim)
        | restoring p => exact .calm trivial (stays_remove_of_none hclaim)
    · exact .calm trivial (stays_refl h)
  · exact .calm trivial (stays_refl h)

lemma turn_message {name data : String} (hp : h.Permits (.message τ name data)) :
    h.Turn (.message τ name data) (endings (h.message τ name data).2)
      (h.message τ name data).1 := by
  have hnone : h.claim? τ = none := by simp [claim?, show h.errand? τ = none from hp]
  unfold Hub.message
  split
  · unfold greet
    split
    · exact .calm trivial (stays_refl h)
    · rename_i client _
      dsimp only
      split
      · exact .calm trivial ⟨rfl, fun _ => rfl⟩
      · obtain ⟨⟨htopics, hclaims⟩, hends⟩ := stays_queue
          (h := { h with client := some client }) (e := .restoring .queued) hnone (by simp)
        rw [hends]
        exact .calm trivial ⟨htopics, hclaims⟩
  · rw [endings_deliver]
    exact .calm trivial (stays_refl h)

/-- Nothing else can happen to a coherent hub than what a turn says. -/
theorem turn_step {event : HubEvent} (hh : h.Coherent) (hp : h.Permits event) :
    h.Turn event (endings (h.step event).2) (h.step event).1 := by
  cases event with
  | subscribe τ topic l => exact turn_subscribe hh hp
  | unsubscribe τ topic l => exact turn_unsubscribe hh hp
  | drop τ => exact turn_drop hh
  | resume τ => exact turn_resume hh
  | expire τ => exact turn_expire hh
  | posted τ result => exact turn_posted hh
  | message τ name data =>
    simp only [step]
    split
    · exact turn_message hp
    · exact .calm trivial (stays_refl h)
  | lost =>
    simp only [step]
    split
    · exact .calm trivial ⟨rfl, fun _ => rfl⟩
    · exact .calm trivial (stays_refl h)
  | ended =>
    simp only [step]
    split
    · exact .calm trivial ⟨rfl, fun _ => rfl⟩
    · exact .calm trivial (stays_refl h)

end Hub

end RunBoard.Realtime
