import RunBoard.Proofs.Realtime.Coherence

/-!
# All who wait for a handshake hear the same

A handshake is what lies between the first listener of a topic and the answer to its post.  It has
the serial number of the entry that the first listener has made, and all who come while the entry is
in the table take part in it.  It can be won, when the entry becomes active, or lost, when the entry
goes without ever having been active; never both, and what is lost stays lost.

`Trail` are the runs of a hub with all their intermediate states.  Every subscription that ends in a
trail ends the way its handshake does, and `handshake_agreement` says what follows from that.
-/

namespace RunBoard.Realtime

/-! ### The table after a turn -/

namespace Hub

variable {h h' : Hub} {event : HubEvent} {ends : List Ending} {τ σ : Ticket} {topic x : String}
  {l k : Listener} {entry e' : Entry} {serial : Nat} {latest : Handshake} {gone : Bool}

/-- An entry after a turn: it was there before in the same state, it has become active by an answer
to a post, or it is new. -/
lemma Turn.entry_cases (hturn : h.Turn event ends h')
    (hfind : h'.topics.find? x = some e') :
    (∃ e, h.topics.find? x = some e ∧ e.serial = e'.serial ∧ e.handshake = e'.handshake) ∨
    (∃ e τ l names, h.topics.find? x = some e ∧ e.serial = e'.serial ∧ e'.handshake = .active ∧
      event = .posted τ (.ok ()) ∧ h.claim? τ = some (.opening x l) ∧ h.posted? τ = some names) ∨
    (h.topics.find? x = none ∧ e'.serial = h.topics.next ∧ e'.handshake = .pending) := by
  cases hturn.ofTable with
  | same htopics => exact .inl ⟨e', htopics ▸ hfind, rfl, rfl⟩
  | opened _ hnone hset _ =>
    rcases hset.cases hfind with ⟨rfl, heq⟩ | ⟨_, hold⟩
    · obtain rfl := Option.some.inj heq
      exact .inr (.inr ⟨hnone, rfl, rfl⟩)
    · exact .inl ⟨e', hold, rfl, rfl⟩
  | @changed topic entry new hentry hset _ hchange =>
    rcases hset.cases hfind with ⟨rfl, heq⟩ | ⟨_, hold⟩
    · cases hchange with
      | welcomed =>
        obtain rfl := Option.some.inj heq
        exact .inl ⟨entry, hentry, rfl, rfl⟩
      | activated hclaim hposted =>
        obtain rfl := Option.some.inj heq
        exact .inr (.inl ⟨entry, _, _, _, hentry, rfl, rfl, rfl, hclaim, hposted⟩)
      | abandoned => exact absurd heq (by simp)
      | left =>
        obtain rfl := Entry.without_eq_some heq
        exact .inl ⟨entry, hentry, rfl, rfl⟩
    · exact .inl ⟨e', hold, rfl, rfl⟩

/-- A topic that keeps its entry through a turn keeps the serial number. -/
lemma Turn.serial_eq (hturn : h.Turn event ends h') (hfind : h.topics.find? x = some entry)
    (hfind' : h'.topics.find? x = some e') : e'.serial = entry.serial := by
  rcases hturn.entry_cases hfind' with ⟨e, he, hserial, _⟩ | ⟨e, _, _, _, he, hserial, _⟩ |
    ⟨hnone, _, _⟩
  · obtain rfl := Option.some.inj (hfind.symm.trans he)
    exact hserial.symm
  · obtain rfl := Option.some.inj (hfind.symm.trans he)
    exact hserial.symm
  · exact absurd (hnone.symm.trans hfind) (by simp)

lemma Turn.next_le (hturn : h.Turn event ends h') : h.topics.next ≤ h'.topics.next := by
  cases hturn.ofTable with
  | same htopics => rw [htopics]
  | opened _ _ _ hnext => omega
  | changed _ _ hnext _ => omega

/-- A serial number that has gone does not come back. -/
lemma Turn.gone_of (hturn : h.Turn event ends h') (hg : h.topics.Gone serial) :
    h'.topics.Gone serial := by
  obtain ⟨hlt, hgone⟩ := hg
  refine ⟨Nat.lt_of_lt_of_le hlt hturn.next_le, fun x e' he' => ?_⟩
  rcases hturn.entry_cases he' with ⟨e, hfind, hserial, _⟩ |
    ⟨e, _, _, _, hfind, hserial, _⟩ | ⟨_, hserial, _⟩
  · exact hserial ▸ hgone x e hfind
  · exact hserial ▸ hgone x e hfind
  · omega

/-- An opening after a turn was there before, or it is that of a new topic. -/
lemma Turn.opening_cases (hh : h.Coherent) (hturn : h.Turn event ends h')
    (hc : h'.claim? σ = some (.opening x k)) :
    h.claim? σ = some (.opening x k) ∨ (event = .subscribe σ x k ∧ h.topics.find? x = none) := by
  cases hturn.ofClaims hh with
  | same hclaims => exact .inl ((hclaims σ).symm.trans hc)
  | begun hevent hfresh hclaims =>
    rcases taking_eq_some ((hclaims σ).symm.trans hc) with ⟨rfl, rfl⟩ | ⟨_, hc₀⟩
    · exact .inr ⟨hevent, hfresh⟩
    · exact .inl hc₀
  | finished _ hclaims => exact .inl (lacking_eq_some ((hclaims σ).symm.trans hc)).2
  | settled _ _ _ _ hclaims =>
    obtain ⟨c₀, _, hc₀, heq⟩ := settling_eq_some ((hclaims σ).symm.trans hc)
    cases c₀ with
    | opening x' k' => exact .inl (heq ▸ hc₀)
    | joining x' k' s was before =>
      simp only [Claim.hear] at heq
      split at heq <;> exact absurd heq (by simp)

/-- A subscription that waits for an entry after a turn was waiting for it before, or it is new.  If
it has heard of the outcome with the turn, then the entry was being opened, and it has become active
or gone. -/
lemma Turn.joining_cases (hh : h.Coherent) (hturn : h.Turn event ends h')
    (hc : h'.claim? σ = some (.joining x k serial latest gone)) :
    (∃ was before, h.claim? σ = some (.joining x k serial was before) ∧
      (was = latest ∨ ∃ topic entry, h.topics.find? topic = some entry ∧ entry.serial = serial ∧
        entry.handshake = .pending ∧ (latest = .active ∨ h'.topics.Gone serial))) ∨
    (event = .subscribe σ x k ∧ latest = .pending ∧
      ∃ entry, h.topics.find? x = some entry ∧ entry.serial = serial ∧ k ∉ entry.listeners) := by
  cases hturn.ofClaims hh with
  | same hclaims => exact .inl ⟨latest, gone, (hclaims σ).symm.trans hc, .inl rfl⟩
  | begun hevent hfresh hclaims =>
    rcases taking_eq_some ((hclaims σ).symm.trans hc) with ⟨rfl, rfl⟩ | ⟨_, hc₀⟩
    · exact .inr ⟨hevent, hfresh⟩
    · exact .inl ⟨latest, gone, hc₀, .inl rfl⟩
  | finished _ hclaims =>
    exact .inl ⟨latest, gone, (lacking_eq_some ((hclaims σ).symm.trans hc)).2, .inl rfl⟩
  | @settled τ topic l entry state was' hover hclaim hfind hstate hclaims =>
    obtain ⟨c₀, _, hc₀, heq⟩ := settling_eq_some ((hclaims σ).symm.trans hc)
    cases c₀ with
    | opening => exact absurd heq (by simp [Claim.hear])
    | joining x' k' s was before =>
      simp only [Claim.hear] at heq
      split at heq
      · rename_i hs
        obtain ⟨rfl, rfl, rfl, rfl, _⟩ := Claim.joining.inj heq
        obtain ⟨other, hother, hpending, _⟩ := hh.opening τ topic l hclaim
        obtain rfl := Option.some.inj (hfind.symm.trans hother)
        exact .inl ⟨was, before, hc₀, .inr ⟨topic, entry, hfind, hs.symm, hpending, hs ▸ hstate⟩⟩
      · obtain ⟨rfl, rfl, rfl, rfl, _⟩ := Claim.joining.inj heq
        exact .inl ⟨latest, before, hc₀, .inl rfl⟩

/-- Whether the backend knows of the entry of a serial number. -/
def Knows (h : Hub) (serial : Nat) : Prop :=
  ∃ topic entry, h.topics.find? topic = some entry ∧ entry.serial = serial ∧
    entry.handshake = .active

lemma Knows.lt (hh : h.Coherent) (hk : h.Knows serial) : serial < h.topics.next := by
  obtain ⟨topic, entry, hfind, rfl, _⟩ := hk
  exact (hh.sound.entry topic entry hfind).1

lemma Knows.not_gone (hk : h.Knows serial) : ¬ h.topics.Gone serial := by
  obtain ⟨topic, entry, hfind, hserial, _⟩ := hk
  exact fun hgone => hgone.2 topic entry hfind hserial

/-- The entry of a serial number is in one state. -/
lemma Knows.active (hh : h.Coherent) (hk : h.Knows entry.serial)
    (hfind : h.topics.find? topic = some entry) : entry.handshake = .active := by
  obtain ⟨x, other, hother, hserial, hactive⟩ := hk
  obtain rfl := hh.sound.serial x topic other entry hother hfind hserial
  obtain rfl := Option.some.inj (hfind.symm.trans hother)
  exact hactive

/-- What the claim of a subscription says of the handshake that it takes part in. -/
def PartOf (h : Hub) (serial : Nat) : Claim → Prop
  | .opening topic _ => ∃ entry, h.topics.find? topic = some entry ∧ entry.serial = serial
  | .joining _ _ s _ _ => s = serial

/-- A subscription that fails has opened an entry, which goes with it, or has heard of a failure. -/
lemma Turn.error_cases {error : RequestError} (hh : h.Coherent) (hturn : h.Turn event ends h')
    (hend : (τ, .error error) ∈ ends) :
    (∃ topic l entry, h.claim? τ = some (.opening topic l) ∧ h.topics.find? topic = some entry ∧
      h'.topics.find? topic = none ∧ h'.topics.Gone entry.serial) ∨
    ∃ topic l serial message gone,
      h.claim? τ = some (.joining topic l serial (.failed message) gone) := by
  cases hturn with
  | failed _ hclaim hfind hmoves =>
    obtain ⟨rfl, _⟩ := Prod.mk.inj (List.mem_singleton.mp hend)
    exact .inl ⟨_, _, _, hclaim, hfind, hmoves.entry.find?_self,
      hh.sound.gone hfind hmoves.entry hmoves.next⟩
  | refused hclaim _ =>
    obtain ⟨rfl, _⟩ := Prod.mk.inj (List.mem_singleton.mp hend)
    exact .inr ⟨_, _, _, _, _, hclaim⟩
  | redundant | welcomed | activated | accepted => exact absurd hend (by simp)
  | calm | opened | joined | dropped | forgotten | left | absent =>
    exact absurd hend List.not_mem_nil

/-- When an opening fails or is dropped, its entry goes. -/
lemma Turn.closes (hh : h.Coherent) (hturn : h.Turn event ends h')
    (hclaim : h.claim? τ = some (.opening topic l)) (hfind : h.topics.find? topic = some entry)
    (hover : event = .drop τ ∨ ∃ error, (τ, .error error) ∈ ends) :
    h'.topics.find? topic = none ∧ h'.topics.Gone entry.serial := by
  rcases hover with rfl | ⟨error, hend⟩
  · cases hturn with
    | calm hcalm => exact absurd (hclaim.symm.trans hcalm) (by simp)
    | failed hmoving => exact absurd hmoving (by simp [HubEvent.moves?])
    | dropped hclaim' hfind' hmoves =>
      obtain ⟨rfl, _⟩ := Claim.opening.inj (Option.some.inj (hclaim.symm.trans hclaim'))
      obtain rfl := Option.some.inj (hfind.symm.trans hfind')
      exact ⟨hmoves.entry.find?_self, hh.sound.gone hfind hmoves.entry hmoves.next⟩
    | forgotten hclaim' => exact absurd (hclaim.symm.trans hclaim') (by simp)
  · rcases hturn.error_cases hh hend with ⟨topic', l', entry', hclaim', hfind', hnone, hgone⟩ |
      ⟨_, _, _, _, _, hclaim'⟩
    · obtain ⟨rfl, _⟩ := Claim.opening.inj (Option.some.inj (hclaim.symm.trans hclaim'))
      obtain rfl := Option.some.inj (hfind.symm.trans hfind')
      exact ⟨hnone, hgone⟩
    · exact absurd (hclaim.symm.trans hclaim') (by simp)

/-- The handshake of a subscription that succeeds is won. -/
lemma Turn.succeeds (hh : h.Coherent) (hturn : h.Turn event ends h')
    (hend : (τ, .ok true) ∈ ends) :
    (∃ c, h.claim? τ = some c ∧ ∀ serial, h.PartOf serial c → h'.Knows serial) ∨
    (∃ topic l entry, event = .subscribe τ topic l ∧ h'.topics.find? topic = some entry ∧
      entry.handshake = .active) := by
  cases hturn with
  | welcomed _ _ hstate hmoves =>
    obtain ⟨rfl, _⟩ := Prod.mk.inj (List.mem_singleton.mp hend)
    exact .inr ⟨_, _, _, rfl, hmoves.entry.find?_self, hstate⟩
  | activated hclaim _ hfind hmoves =>
    obtain ⟨rfl, _⟩ := Prod.mk.inj (List.mem_singleton.mp hend)
    refine .inl ⟨_, hclaim, ?_⟩
    rintro serial ⟨entry, hentry, rfl⟩
    obtain rfl := Option.some.inj (hfind.symm.trans hentry)
    exact ⟨_, _, hmoves.entry.find?_self, rfl, rfl⟩
  | @accepted τ' topic l serial gone _ hclaim hstays =>
    obtain ⟨rfl, _⟩ := Prod.mk.inj (List.mem_singleton.mp hend)
    refine .inl ⟨_, hclaim, ?_⟩
    rintro _ rfl
    rcases hh.joining τ topic l serial .active gone hclaim with
      ⟨_, entry, hfind, hserial, hactive, _⟩ | ⟨⟨_, hfailed⟩, _⟩
    · exact ⟨topic, entry, hstays.topics ▸ hfind, hserial, hactive⟩
    · exact absurd hfailed (by simp)
  | redundant | failed | refused => exact absurd hend (by simp)
  | calm | opened | joined | dropped | forgotten | left | absent =>
    exact absurd hend List.not_mem_nil

/-- The handshake of a subscription that fails is lost. -/
lemma Turn.fails {error : RequestError} (hh : h.Coherent) (hturn : h.Turn event ends h')
    (hend : (τ, .error error) ∈ ends) :
    ∃ c, h.claim? τ = some c ∧ ∀ serial, h.PartOf serial c →
      (h'.topics.Gone serial ∧ ∃ topic entry, h.topics.find? topic = some entry ∧
        entry.serial = serial ∧ entry.handshake = .pending) ∨
      ∃ topic l message gone, c = .joining topic l serial (.failed message) gone := by
  rcases hturn.error_cases hh hend with ⟨topic, l, entry, hclaim, hfind, _, hgone⟩ |
    ⟨topic, l, serial, message, gone, hclaim⟩
  · refine ⟨_, hclaim, ?_⟩
    rintro serial ⟨other, hother, rfl⟩
    obtain rfl := Option.some.inj (hfind.symm.trans hother)
    obtain ⟨e, he, hpending, _⟩ := hh.opening τ topic l hclaim
    obtain rfl := Option.some.inj (hfind.symm.trans he)
    exact .inl ⟨hgone, topic, entry, hfind, rfl, hpending⟩
  · refine ⟨_, hclaim, ?_⟩
    rintro _ rfl
    exact .inr ⟨topic, l, message, gone, rfl⟩

/-- What the callers of a hub keep to: nobody wants or leaves a topic while a subscription of theirs
on it is still running. -/
def Orderly (h : Hub) : HubEvent → Prop
  | .subscribe _ topic l | .unsubscribe _ topic l => ¬ h.Subscribing topic l
  | .drop _ | .resume _ | .expire _ | .posted _ _ | .message _ _ _ | .lost | .ended => True

instance (h : Hub) (event : HubEvent) : Decidable (h.Orderly event) :=
  match event with
  | .subscribe _ topic l | .unsubscribe _ topic l =>
    inferInstanceAs (Decidable (¬ h.Subscribing topic l))
  | .drop _ | .resume _ | .expire _ | .posted _ _ | .message _ _ _ | .lost | .ended =>
    .isTrue trivial

lemma permits_of_orderly (ho : h.Orderly event)
    (hfresh : ∀ τ, event.begins? = some τ → h.errand? τ = none) : h.Permits event := by
  cases event with
  | subscribe τ topic l => exact ⟨hfresh τ rfl, ho⟩
  | unsubscribe τ topic l => exact ⟨hfresh τ rfl, ho⟩
  | message τ name data => exact hfresh τ rfl
  | _ => trivial

end Hub

/-! ### Trails -/

/-- A moment of a run: a hub, and what happens to it. -/
structure Moment where
  hub : Hub
  event : HubEvent

namespace Moment

/-- The hub after a moment. -/
def next (m : Moment) : Hub :=
  (m.hub.step m.event).1

/-- The subscriptions that end with a moment. -/
def ends (m : Moment) : List Ending :=
  endings (m.hub.step m.event).2

/-- Whether a moment brings a good answer to a post that had a topic among its names, when the entry
of a serial number was in the table. -/
def Confirms (m : Moment) (topic : String) (serial : Nat) : Prop :=
  ∃ τ names, m.event = .posted τ (.ok ()) ∧ m.hub.posted? τ = some names ∧ topic ∈ names ∧
    ∃ entry, m.hub.topics.find? topic = some entry ∧ entry.serial = serial

/-- Whether a subscription on a topic begins with a moment. -/
def Begins (m : Moment) (τ : Ticket) (topic : String) (l : Listener) : Prop :=
  m.event = .subscribe τ topic l

/-- Whether a subscription begins to take part in the handshake of a serial number: its listener is
new to the topic, and the entry is that of the topic then. -/
def Joins (m : Moment) (τ : Ticket) (topic : String) (l : Listener) (serial : Nat) : Prop :=
  m.event = .subscribe τ topic l ∧ l ∉ m.hub.topics.listeners topic ∧
    ∃ entry, m.next.topics.find? topic = some entry ∧ entry.serial = serial

/-- Whether an opening fails or is dropped, and its entry has a serial number. -/
def Closes (m : Moment) (topic : String) (serial : Nat) : Prop :=
  ∃ τ l entry, m.hub.claim? τ = some (.opening topic l) ∧
    m.hub.topics.find? topic = some entry ∧ entry.serial = serial ∧
    (m.event = .drop τ ∨ ∃ error, (τ, .error error) ∈ m.ends)

end Moment

/-- `Trail patience moments h`: the moments of a run of a new hub that has come to the state `h`.
No two subscriptions have a ticket in common, and the callers are orderly. -/
inductive Trail (patience : Nat) : List Moment → Hub → Prop
  | start : Trail patience [] (.new patience)
  | more {moments : List Moment} {h : Hub} {event : HubEvent} (ht : Trail patience moments h)
      (hfresh : ∀ τ, event.begins? = some τ → ∀ m ∈ moments, m.event.begins? ≠ some τ)
      (ho : h.Orderly event) : Trail patience (moments ++ [⟨h, event⟩]) (h.step event).1

/-- The moments of a run. -/
def Hub.moments (h : Hub) : List HubEvent → List Moment
  | [] => []
  | event :: events => ⟨h, event⟩ :: moments (h.step event).1 events

/-- Events make a trail if the tickets that they use for the first time are all different, and the
callers are orderly at every moment. -/
lemma Trail.run {patience : Nat} {moments : List Moment} {h : Hub} (ht : Trail patience moments h)
    (events : List HubEvent)
    (hfresh : ((moments.map Moment.event ++ events).filterMap HubEvent.begins?).Nodup)
    (ho : ∀ m ∈ h.moments events, m.hub.Orderly m.event) :
    Trail patience (moments ++ h.moments events) (h.run events).1 := by
  induction events generalizing moments h with
  | nil => simpa [Hub.moments, Hub.run] using ht
  | cons event events ih =>
    have hnew : ∀ τ, event.begins? = some τ → ∀ m ∈ moments, m.event.begins? ≠ some τ := by
      intro τ hτ m hm hbegins
      rw [List.filterMap_append, List.nodup_append] at hfresh
      refine hfresh.2.2 τ ?_ τ ?_ rfl
      · exact List.mem_filterMap.mpr ⟨m.event, List.mem_map_of_mem hm, hbegins⟩
      · exact List.mem_filterMap.mpr ⟨event, List.mem_cons_self, hτ⟩
    have hmore : Trail patience (moments ++ [⟨h, event⟩]) (h.step event).1 :=
      ht.more hnew (ho ⟨h, event⟩ List.mem_cons_self)
    have hrest := ih hmore (by simpa using hfresh) fun m hm => ho m (List.mem_cons_of_mem _ hm)
    simpa [Hub.moments, Hub.run] using hrest

/-- Whether a subscription has succeeded. -/
def Succeeded (moments : List Moment) (τ : Ticket) : Prop :=
  ∃ m ∈ moments, (τ, .ok true) ∈ m.ends

/-- Whether a subscription has failed. -/
def Failed (moments : List Moment) (τ : Ticket) : Prop :=
  ∃ m ∈ moments, ∃ error, (τ, .error error) ∈ m.ends

/-- Whether the entry of a serial number has ever been active. -/
def Won (moments : List Moment) (serial : Nat) : Prop :=
  ∃ m ∈ moments, m.next.Knows serial

/-- Whether the entry of a serial number has gone without ever having been active. -/
def Lost (moments : List Moment) (h : Hub) (serial : Nat) : Prop :=
  h.topics.Gone serial ∧ ¬ Won moments serial

/-- What holds of a trail and the hub it has led to. -/
structure Accounted (moments : List Moment) (h : Hub) : Prop where
  coherent : h.Coherent
  begun : ∀ τ ∈ h.tickets, ∃ m ∈ moments, m.event.begins? = some τ
  ended : ∀ m ∈ moments, ∀ τ result, (τ, result) ∈ m.ends →
    ∃ m ∈ moments, m.event.begins? = some τ
  /-- An entry that is active has been won by an answer to a post, and one that is not, has not. -/
  active : ∀ topic entry, h.topics.find? topic = some entry → entry.handshake = .active →
    Won moments entry.serial ∧ ∃ m ∈ moments, m.Confirms topic entry.serial
  pending : ∀ topic entry, h.topics.find? topic = some entry → entry.handshake = .pending →
    ¬ Won moments entry.serial
  won_lt : ∀ serial, Won moments serial → serial < h.topics.next
  failed : ∀ τ topic l serial message gone,
    h.claim? τ = some (.joining topic l serial (.failed message) gone) → Lost moments h serial
  closed : ∀ m ∈ moments, ∀ topic serial, m.Closes topic serial → Lost moments h serial
  /-- A subscription that runs is the one that has begun. -/
  about : ∀ m ∈ moments, ∀ τ topic l c, m.Begins τ topic l → h.claim? τ = some c →
    c.topic = topic ∧ c.listener = l
  part : ∀ m ∈ moments, ∀ τ topic l serial c, m.Joins τ topic l serial → h.claim? τ = some c →
    h.PartOf serial c
  joined : ∀ τ serial c, h.claim? τ = some c → h.PartOf serial c →
    ∃ m ∈ moments, m.Joins τ c.topic c.listener serial
  succeeded : ∀ m ∈ moments, ∀ τ topic l serial, m.Joins τ topic l serial →
    Succeeded moments τ → Won moments serial
  lost : ∀ m ∈ moments, ∀ τ topic l serial, m.Joins τ topic l serial →
    Failed moments τ → Lost moments h serial

/-! ### What one more moment changes -/

section More

variable {moments : List Moment} {h : Hub} {event : HubEvent} {m : Moment} {τ : Ticket}
  {serial : Nat}

lemma won_append : Won (moments ++ [m]) serial ↔ Won moments serial ∨ m.next.Knows serial := by
  simp [Won, or_and_right, exists_or]

lemma succeeded_append :
    Succeeded (moments ++ [m]) τ ↔ Succeeded moments τ ∨ (τ, .ok true) ∈ m.ends := by
  simp [Succeeded, or_and_right, exists_or]

lemma failed_append :
    Failed (moments ++ [m]) τ ↔ Failed moments τ ∨ ∃ error, (τ, .error error) ∈ m.ends := by
  simp [Failed, or_and_right, exists_or]

/-- What a callers' promise comes to, when the tickets of a trail are all different. -/
lemma Accounted.permits (ha : Accounted moments h)
    (hfresh : ∀ τ, event.begins? = some τ → ∀ m ∈ moments, m.event.begins? ≠ some τ)
    (ho : h.Orderly event) : h.Permits event := by
  refine Hub.permits_of_orderly ho fun τ hτ => ?_
  by_contra hknown
  obtain ⟨m, hm, hbegins⟩ := ha.begun τ (Hub.mem_tickets.mpr hknown)
  exact hfresh τ hτ m hm hbegins

/-- What an event does to an accounted trail, in the terms of the lemmas on turns. -/
structure Onward (moments : List Moment) (m : Moment) : Prop where
  past : Accounted moments m.hub
  fresh : ∀ τ, m.event.begins? = some τ → ∀ m' ∈ moments, m'.event.begins? ≠ some τ
  permits : m.hub.Permits m.event

namespace Onward

variable {topic : String} {l : Listener} {c : Claim}

lemma turn (ho : Onward moments m) : m.hub.Turn m.event m.ends m.next :=
  Hub.turn_step ho.past.coherent ho.permits

lemma coherent (ho : Onward moments m) : m.next.Coherent :=
  ho.past.coherent.step ho.permits

/-- What is lost stays lost. -/
lemma lost (ho : Onward moments m) (hl : Lost moments m.hub serial) :
    Lost (moments ++ [m]) m.next serial := by
  have hgone : m.next.topics.Gone serial := ho.turn.gone_of hl.1
  refine ⟨hgone, ?_⟩
  rw [won_append]
  rintro (hwon | hknows)
  · exact hl.2 hwon
  · exact hknows.not_gone hgone

/-- An entry that goes while it is being opened is lost. -/
lemma lost_of_pending {entry : Entry} (ho : Onward moments m)
    (hfind : m.hub.topics.find? topic = some entry) (hpending : entry.handshake = .pending)
    (hgone : m.next.topics.Gone entry.serial) : Lost (moments ++ [m]) m.next entry.serial := by
  refine ⟨hgone, ?_⟩
  rw [won_append]
  rintro (hwon | hknows)
  · exact ho.past.pending topic entry hfind hpending hwon
  · exact hknows.not_gone hgone

/-- A subscription that runs does not begin. -/
lemma not_begins (ho : Onward moments m) (hc : m.hub.claim? τ = some c) :
    m.event.begins? ≠ some τ := by
  intro hbegins
  obtain ⟨e, herrand, _⟩ := Hub.claim?_eq_some.mp hc
  have hknown : τ ∈ m.hub.tickets := Hub.mem_tickets.mpr (by simp [herrand])
  obtain ⟨m', hm', hbegun⟩ := ho.past.begun τ hknown
  exact ho.fresh τ hbegins m' hm' hbegun

lemma begun (ho : Onward moments m) (hτ : τ ∈ m.next.tickets) :
    ∃ m' ∈ moments ++ [m], m'.event.begins? = some τ := by
  rcases (Hub.frame_step m.hub m.event).tickets τ hτ with hbegins | hτ
  · exact ⟨m, by simp, hbegins⟩
  · obtain ⟨m', hm', hbegun⟩ := ho.past.begun τ hτ
    exact ⟨m', List.mem_append_left _ hm', hbegun⟩

lemma ended {result : Except RequestError Bool} (ho : Onward moments m)
    (hend : (τ, result) ∈ m.ends) : ∃ m' ∈ moments ++ [m], m'.event.begins? = some τ := by
  obtain ⟨_, topic, l, ⟨c, hc, _⟩ | hevent, _⟩ :=
    ho.turn.ending ho.past.coherent ho.permits hend
  · obtain ⟨e, herrand, _⟩ := Hub.claim?_eq_some.mp hc
    obtain ⟨m', hm', hbegun⟩ := ho.past.begun τ (Hub.mem_tickets.mpr (by simp [herrand]))
    exact ⟨m', List.mem_append_left _ hm', hbegun⟩
  · exact ⟨m, by simp, by rw [hevent]; rfl⟩

lemma active {entry : Entry} (ho : Onward moments m)
    (hfind : m.next.topics.find? topic = some entry) (hactive : entry.handshake = .active) :
    Won (moments ++ [m]) entry.serial ∧ ∃ m' ∈ moments ++ [m], m'.Confirms topic entry.serial := by
  rcases ho.turn.entry_cases hfind with ⟨e, he, hserial, hstate⟩ |
    ⟨e, τ, l, names, he, hserial, _, hevent, hclaim, hposted⟩ | ⟨_, _, hpending⟩
  · obtain ⟨hwon, m', hm', hconfirms⟩ := ho.past.active topic e he (hstate.trans hactive)
    rw [← hserial]
    exact ⟨won_append.mpr (.inl hwon), m', List.mem_append_left _ hm', hconfirms⟩
  · have hnames : topic ∈ names := ho.past.coherent.posted τ topic l names hclaim hposted
    exact ⟨won_append.mpr (.inr ⟨topic, entry, hfind, rfl, hactive⟩), m, by simp,
      τ, names, hevent, hposted, hnames, e, he, hserial⟩
  · exact absurd (hpending.symm.trans hactive) (by simp)

lemma pending {entry : Entry} (ho : Onward moments m)
    (hfind : m.next.topics.find? topic = some entry) (hpending : entry.handshake = .pending) :
    ¬ Won (moments ++ [m]) entry.serial := by
  rw [won_append]
  rintro (hwon | hknows)
  · rcases ho.turn.entry_cases hfind with ⟨e, he, hserial, hstate⟩ |
      ⟨_, _, _, _, _, _, hactive, _⟩ | ⟨_, hserial, _⟩
    · rw [← hserial] at hwon
      exact ho.past.pending topic e he (hstate.trans hpending) hwon
    · exact absurd (hpending.symm.trans hactive) (by simp)
    · have hlt : entry.serial < m.hub.topics.next := ho.past.won_lt _ hwon
      omega
  · exact absurd (hpending.symm.trans (hknows.active ho.coherent hfind)) (by simp)

lemma won_lt (ho : Onward moments m) (hwon : Won (moments ++ [m]) serial) :
    serial < m.next.topics.next := by
  rcases won_append.mp hwon with hwon | hknows
  · exact Nat.lt_of_lt_of_le (ho.past.won_lt serial hwon) ho.turn.next_le
  · exact hknows.lt ho.coherent

lemma failed {message : String} {gone : Bool} (ho : Onward moments m)
    (hc : m.next.claim? τ = some (.joining topic l serial (.failed message) gone)) :
    Lost (moments ++ [m]) m.next serial := by
  rcases ho.turn.joining_cases ho.past.coherent hc with
    ⟨was, before, hclaim, rfl | ⟨x, entry, hfind, rfl, hpending, hactive | hgone⟩⟩ | ⟨_, hlatest, _⟩
  · exact ho.lost (ho.past.failed τ topic l serial message before hclaim)
  · exact absurd hactive (by simp)
  · exact ho.lost_of_pending hfind hpending hgone
  · exact absurd hlatest (by simp)

lemma closed (ho : Onward moments m) {m' : Moment} (hm' : m' ∈ moments ++ [m])
    (hcloses : m'.Closes topic serial) : Lost (moments ++ [m]) m.next serial := by
  rcases List.mem_append.mp hm' with hm' | hm'
  · exact ho.lost (ho.past.closed m' hm' topic serial hcloses)
  · obtain rfl := List.mem_singleton.mp hm'
    obtain ⟨τ, l, entry, hclaim, hfind, rfl, hover⟩ := hcloses
    obtain ⟨other, hother, hpending, _⟩ := ho.past.coherent.opening τ topic l hclaim
    obtain rfl := Option.some.inj (hfind.symm.trans hother)
    exact ho.lost_of_pending hfind hpending
      (ho.turn.closes ho.past.coherent hclaim hfind hover).2

lemma about (ho : Onward moments m) {m' : Moment} (hm' : m' ∈ moments ++ [m])
    (hbegins : m'.Begins τ topic l) (hc : m.next.claim? τ = some c) :
    c.topic = topic ∧ c.listener = l := by
  have hbegins? : m'.event.begins? = some τ := by
    rw [show m'.event = _ from hbegins]
    rfl
  -- the subscription has begun before or now, and what runs was running before or is new
  rcases List.mem_append.mp hm' with hm' | hm' <;>
    rcases ho.turn.known ho.past.coherent hc with ⟨c₀, hc₀, htopic, hl⟩ | hevent
  · obtain ⟨htopic', hl'⟩ := ho.past.about m' hm' τ topic l c₀ hbegins hc₀
    exact ⟨htopic.symm.trans htopic', hl.symm.trans hl'⟩
  · exact absurd hbegins? (ho.fresh τ (by rw [hevent]; rfl) m' hm')
  · obtain rfl := List.mem_singleton.mp hm'
    exact absurd hbegins? (ho.not_begins hc₀)
  · obtain rfl := List.mem_singleton.mp hm'
    obtain ⟨_, htopic, hl⟩ := HubEvent.subscribe.inj (hevent.symm.trans hbegins)
    exact ⟨htopic, hl⟩

/-- A subscription that runs goes on taking part in the handshake that it took part in. -/
lemma part_of_past (ho : Onward moments m) {m' : Moment} (hm' : m' ∈ moments)
    (hjoins : m'.Joins τ topic l serial) (hc : m.next.claim? τ = some c) :
    m.next.PartOf serial c := by
  have hfresh : ∀ x k, m.event ≠ .subscribe τ x k := by
    intro x k hevent
    exact ho.fresh τ (by rw [hevent]; rfl) m' hm' (by rw [hjoins.1]; rfl)
  cases c with
  | opening x k =>
    rcases ho.turn.opening_cases ho.past.coherent hc with hclaim | ⟨hevent, _⟩
    · obtain ⟨e, he, hserial⟩ := ho.past.part m' hm' τ topic l serial _ hjoins hclaim
      obtain ⟨e', he', _, _⟩ := ho.coherent.opening τ x k hc
      exact ⟨e', he', (ho.turn.serial_eq he he').trans hserial⟩
    · exact absurd hevent (hfresh x k)
  | joining x k s latest gone =>
    rcases ho.turn.joining_cases ho.past.coherent hc with ⟨was, before, hclaim, _⟩ | ⟨hevent, _, _⟩
    · exact ho.past.part m' hm' τ topic l serial _ hjoins hclaim
    · exact absurd hevent (hfresh x k)

/-- A subscription that has just begun takes part in the handshake of the entry of its topic. -/
lemma part_of_new (ho : Onward moments m) (hjoins : m.Joins τ topic l serial)
    (hc : m.next.claim? τ = some c) : m.next.PartOf serial c := by
  obtain ⟨hevent, _, entry, hfind, hserial⟩ := hjoins
  have hnew : ∀ {c₀}, m.hub.claim? τ ≠ some c₀ := fun hclaim =>
    ho.not_begins hclaim (by rw [hevent]; rfl)
  cases c with
  | opening x k =>
    rcases ho.turn.opening_cases ho.past.coherent hc with hclaim | ⟨hevent', _⟩
    · exact absurd hclaim hnew
    · obtain ⟨_, rfl, _⟩ := HubEvent.subscribe.inj (hevent.symm.trans hevent')
      exact ⟨entry, hfind, hserial⟩
  | joining x k s latest gone =>
    rcases ho.turn.joining_cases ho.past.coherent hc with ⟨_, _, hclaim, _⟩ |
      ⟨hevent', _, e, he, hs, _⟩
    · exact absurd hclaim hnew
    · obtain ⟨_, rfl, _⟩ := HubEvent.subscribe.inj (hevent.symm.trans hevent')
      have hsame : entry.serial = e.serial := ho.turn.serial_eq he hfind
      exact hs.symm.trans (hsame.symm.trans hserial)

/-- A subscription that runs has begun to take part in its handshake. -/
lemma joined (ho : Onward moments m) (hc : m.next.claim? τ = some c)
    (hpart : m.next.PartOf serial c) :
    ∃ m' ∈ moments ++ [m], m'.Joins τ c.topic c.listener serial := by
  have hpast : ∀ {c₀ : Claim}, m.hub.claim? τ = some c₀ → m.hub.PartOf serial c₀ →
      c₀.topic = c.topic → c₀.listener = c.listener →
      ∃ m' ∈ moments ++ [m], m'.Joins τ c.topic c.listener serial := by
    intro c₀ hclaim hpart₀ htopic hl
    obtain ⟨m', hm', hjoins⟩ := ho.past.joined τ serial c₀ hclaim hpart₀
    exact ⟨m', List.mem_append_left _ hm', htopic ▸ hl ▸ hjoins⟩
  cases c with
  | opening x k =>
    obtain ⟨e', he', hserial⟩ := hpart
    rcases ho.turn.opening_cases ho.past.coherent hc with hclaim | ⟨hevent, hnone⟩
    · obtain ⟨e, he, _, _⟩ := ho.past.coherent.opening τ x k hclaim
      have hsame : e'.serial = e.serial := ho.turn.serial_eq he he'
      exact hpast hclaim ⟨e, he, hsame.symm.trans hserial⟩ rfl rfl
    · refine ⟨m, by simp, hevent, ?_, e', he', hserial⟩
      show k ∉ m.hub.topics.listeners x
      rw [Topics.listeners_of_find?_none hnone]
      exact List.not_mem_nil
  | joining x k s latest gone =>
    rcases ho.turn.joining_cases ho.past.coherent hc with ⟨was, before, hclaim, _⟩ |
      ⟨hevent, hlatest, e, he, hs, hk⟩
    · exact hpast hclaim hpart rfl rfl
    · refine ⟨m, by simp, hevent, ?_, ?_⟩
      · show k ∉ m.hub.topics.listeners x
        rwa [Topics.listeners_of_find? he]
      · rcases ho.coherent.joining τ x k s latest gone hc with ⟨_, e', he', hserial, _⟩ |
          ⟨⟨message, hfailed⟩, _⟩
        · exact ⟨e', he', hserial.trans hpart⟩
        · exact absurd (hlatest.symm.trans hfailed) (by simp)

/-- A subscription has not ended before it begins. -/
lemma not_ended_before (ho : Onward moments m) (hjoins : m.Joins τ topic l serial) {m' : Moment}
    (hm' : m' ∈ moments) {result : Except RequestError Bool} : (τ, result) ∉ m'.ends := by
  intro hend
  obtain ⟨m'', hm'', hbegins⟩ := ho.past.ended m' hm' τ result hend
  exact ho.fresh τ (by rw [hjoins.1]; rfl) m'' hm'' hbegins

lemma succeeded (ho : Onward moments m) {m' : Moment} (hm' : m' ∈ moments ++ [m])
    (hjoins : m'.Joins τ topic l serial) (hsucceeded : Succeeded (moments ++ [m]) τ) :
    Won (moments ++ [m]) serial := by
  rw [won_append]
  rcases List.mem_append.mp hm' with hm' | hm' <;>
    rcases succeeded_append.mp hsucceeded with hbefore | hend
  · exact .inl (ho.past.succeeded m' hm' τ topic l serial hjoins hbefore)
  · rcases ho.turn.succeeds ho.past.coherent hend with ⟨c, hc, hknows⟩ | ⟨x, k, _, hevent, _⟩
    · exact .inr (hknows serial (ho.past.part m' hm' τ topic l serial c hjoins hc))
    · exact absurd (by rw [hjoins.1]; rfl) (ho.fresh τ (by rw [hevent]; rfl) m' hm')
  · obtain rfl := List.mem_singleton.mp hm'
    obtain ⟨m₀, hm₀, hend⟩ := hbefore
    exact absurd hend (ho.not_ended_before hjoins hm₀)
  · obtain rfl := List.mem_singleton.mp hm'
    obtain ⟨hevent, _, entry, hfind, hserial⟩ := hjoins
    rcases ho.turn.succeeds ho.past.coherent hend with ⟨c, hc, _⟩ | ⟨x, k, e, hevent', he, hactive⟩
    · exact absurd (by rw [hevent]; rfl) (ho.not_begins hc)
    · obtain ⟨_, rfl, _⟩ := HubEvent.subscribe.inj (hevent.symm.trans hevent')
      obtain rfl := Option.some.inj (hfind.symm.trans he)
      exact .inr ⟨topic, entry, hfind, hserial, hactive⟩

lemma lost_of_failed (ho : Onward moments m) {m' : Moment} (hm' : m' ∈ moments ++ [m])
    (hjoins : m'.Joins τ topic l serial) (hfailed : Failed (moments ++ [m]) τ) :
    Lost (moments ++ [m]) m.next serial := by
  rcases List.mem_append.mp hm' with hm' | hm' <;>
    rcases failed_append.mp hfailed with hbefore | ⟨error, hend⟩
  · exact ho.lost (ho.past.lost m' hm' τ topic l serial hjoins hbefore)
  · obtain ⟨c, hc, hparts⟩ := ho.turn.fails ho.past.coherent hend
    rcases hparts serial (ho.past.part m' hm' τ topic l serial c hjoins hc) with
      ⟨hgone, x, entry, hfind, rfl, hpending⟩ | ⟨x, k, message, gone, rfl⟩
    · exact ho.lost_of_pending hfind hpending hgone
    · exact ho.lost (ho.past.failed τ x k serial message gone hc)
  · obtain rfl := List.mem_singleton.mp hm'
    obtain ⟨m₀, hm₀, error, hend⟩ := hbefore
    exact absurd hend (ho.not_ended_before hjoins hm₀)
  · obtain rfl := List.mem_singleton.mp hm'
    obtain ⟨c, hc, _⟩ := ho.turn.fails ho.past.coherent hend
    exact absurd (by rw [hjoins.1]; rfl) (ho.not_begins hc)

/-- One more moment leaves a trail accounted for. -/
lemma accounted (ho : Onward moments m) : Accounted (moments ++ [m]) m.next where
  coherent := ho.coherent
  begun _ hτ := ho.begun hτ
  ended m' hm' τ result hend := by
    rcases List.mem_append.mp hm' with hm' | hm'
    · obtain ⟨m'', hm'', hbegun⟩ := ho.past.ended m' hm' τ result hend
      exact ⟨m'', List.mem_append_left _ hm'', hbegun⟩
    · obtain rfl := List.mem_singleton.mp hm'
      exact ho.ended hend
  active _ _ hfind hactive := ho.active hfind hactive
  pending _ _ hfind hpending := ho.pending hfind hpending
  won_lt _ hwon := ho.won_lt hwon
  failed _ _ _ _ _ _ hc := ho.failed hc
  closed _ hm' _ _ hcloses := ho.closed hm' hcloses
  about _ hm' _ _ _ _ hbegins hc := ho.about hm' hbegins hc
  part m' hm' τ topic l serial c hjoins hc := by
    rcases List.mem_append.mp hm' with hm' | hm'
    · exact ho.part_of_past hm' hjoins hc
    · obtain rfl := List.mem_singleton.mp hm'
      exact ho.part_of_new hjoins hc
  joined _ _ _ hc hpart := ho.joined hc hpart
  succeeded _ hm' _ _ _ _ hjoins hsucceeded := ho.succeeded hm' hjoins hsucceeded
  lost _ hm' _ _ _ _ hjoins hfailed := ho.lost_of_failed hm' hjoins hfailed

end Onward

end More

lemma Accounted.onward {moments : List Moment} {h : Hub} {event : HubEvent}
    (ha : Accounted moments h)
    (hfresh : ∀ τ, event.begins? = some τ → ∀ m ∈ moments, m.event.begins? ≠ some τ)
    (ho : h.Orderly event) : Onward moments ⟨h, event⟩ :=
  ⟨ha, hfresh, ha.permits hfresh ho⟩

lemma accounted_start (patience : Nat) : Accounted [] (.new patience) where
  coherent := Hub.coherent_new patience
  begun _ hτ := absurd hτ (by simp [Hub.tickets, Hub.new])
  ended _ hm := absurd hm List.not_mem_nil
  active _ _ hfind := absurd hfind (by simp [Hub.new, Topics.find?, Topics.empty])
  pending _ _ hfind := absurd hfind (by simp [Hub.new, Topics.find?, Topics.empty])
  won_lt _ hwon := absurd hwon (by simp [Won])
  failed _ _ _ _ _ _ hc := absurd hc (by simp [Hub.claim?, Hub.errand?, Hub.new])
  closed _ hm := absurd hm List.not_mem_nil
  about _ hm := absurd hm List.not_mem_nil
  part _ hm := absurd hm List.not_mem_nil
  joined _ _ _ hc := absurd hc (by simp [Hub.claim?, Hub.errand?, Hub.new])
  succeeded _ hm := absurd hm List.not_mem_nil
  lost _ hm := absurd hm List.not_mem_nil

namespace Trail

variable {patience : Nat} {moments before after : List Moment} {h : Hub} {m : Moment}

lemma accounted (ht : Trail patience moments h) : Accounted moments h := by
  induction ht with
  | start => exact accounted_start patience
  | more _ hfresh ho ih => exact (ih.onward hfresh ho).accounted

/-- A trail that goes on after a moment has led to it, and what was lost then is lost now. -/
lemma onward (ht : Trail patience moments h) (hsplit : moments = before ++ m :: after) :
    Onward before m ∧ ∀ serial, Lost (before ++ [m]) m.next serial → Lost moments h serial := by
  induction ht generalizing after with
  | start => exact absurd hsplit (by simp)
  | @more moments h event ht hfresh ho ih =>
    have hnow : Onward moments ⟨h, event⟩ := ht.accounted.onward hfresh ho
    rcases List.eq_nil_or_concat after with rfl | ⟨after, last, rfl⟩
    · obtain ⟨rfl, hm⟩ := List.append_inj' hsplit rfl
      obtain rfl := List.singleton_inj.mp hm
      exact ⟨hnow, fun _ hlost => hlost⟩
    · have hconcat : moments ++ [⟨h, event⟩] = (before ++ m :: after) ++ [last] := by
        simpa using hsplit
      obtain ⟨hearlier, _⟩ := List.append_inj' hconcat rfl
      obtain ⟨hthen, hstays⟩ := ih hearlier
      exact ⟨hthen, fun serial hlost => hnow.lost (hstays serial hlost)⟩

end Trail

/-! ### Agreement -/

namespace Onward

variable {moments : List Moment} {m : Moment} {τ : Ticket} {topic : String} {l : Listener}

/-- The end of a subscription is that of the listener and the topic with which it began. -/
lemma ending_of_begins {result : Except RequestError Bool} (ho : Onward moments m) {m' : Moment}
    (hm' : m' ∈ moments ++ [m]) (hbegins : m'.Begins τ topic l) (hend : (τ, result) ∈ m.ends) :
    (result = .ok true → m.next.topics.Holds topic l) ∧
      (∀ error, result = .error error → l ∉ m.next.topics.listeners topic) := by
  have hbegins? : m'.event.begins? = some τ := by
    rw [show m'.event = _ from hbegins]
    rfl
  obtain ⟨_, x, k, hwho, hholds, _, habsent⟩ :=
    ho.turn.ending ho.past.coherent ho.permits hend
  have hsame : x = topic ∧ k = l := by
    rcases List.mem_append.mp hm' with hm' | hm' <;> rcases hwho with ⟨c, hc, rfl, rfl⟩ | hevent
    · exact ho.past.about m' hm' τ topic l c hbegins hc
    · exact absurd hbegins? (ho.fresh τ (by rw [hevent]; rfl) m' hm')
    · obtain rfl := List.mem_singleton.mp hm'
      exact absurd hbegins? (ho.not_begins hc)
    · obtain rfl := List.mem_singleton.mp hm'
      obtain ⟨_, hx, hk⟩ := HubEvent.subscribe.inj (hevent.symm.trans hbegins)
      exact ⟨hx, hk⟩
  obtain ⟨rfl, rfl⟩ := hsame
  exact ⟨hholds, habsent⟩

end Onward

namespace Trail

variable {patience : Nat} {moments before after : List Moment} {h : Hub} {m : Moment} {τ σ : Ticket}
  {topic : String} {l k : Listener} {serial : Nat}

/-- A subscription whose handshake is lost has not succeeded, and if it still runs it fails as soon
as it goes on. -/
lemma refused_of_lost (ht : Trail patience moments h) {m' : Moment} (hm' : m' ∈ moments)
    (hjoins : m'.Joins σ topic k serial) (hlost : Lost moments h serial) :
    ¬ Succeeded moments σ ∧ ∀ x k' s latest gone,
      h.errand? σ = some (.joining x k' s latest gone) →
      ∃ error, (σ, .error error) ∈ endings (h.step (.resume σ)).2 := by
  have ha : Accounted moments h := ht.accounted
  refine ⟨fun hsucceeded => hlost.2 (ha.succeeded m' hm' σ topic k serial hjoins hsucceeded), ?_⟩
  intro x k' s latest gone herrand
  have hc : h.claim? σ = some (.joining x k' s latest gone) :=
    Hub.claim?_eq_some.mpr ⟨_, herrand, rfl⟩
  obtain rfl : s = serial := ha.part m' hm' σ topic k serial _ hjoins hc
  rcases ha.coherent.joining σ x k' s latest gone hc with ⟨_, entry, hfind, hserial, _⟩ |
    ⟨⟨message, rfl⟩, _⟩
  · exact absurd hserial (hlost.1.2 x entry hfind)
  · refine ⟨.realtime message, ?_⟩
    have hresume : h.step (.resume σ) = (h.remove σ, [.finish σ (.error (.realtime message))]) := by
      simp only [Hub.step, Hub.resume, herrand, Hub.await]
    rw [hresume]
    exact List.mem_singleton_self _

/-- When an opening fails or is dropped, the handshakes of all who wait on its topic are lost. -/
lemma lost_of_closed (ht : Trail patience moments h) (hsplit : moments = before ++ m :: after)
    {entry : Entry} (hclaim : m.hub.claim? τ = some (.opening topic l))
    (hfind : m.hub.topics.find? topic = some entry)
    (hover : m.event = .drop τ ∨ ∃ error, (τ, .error error) ∈ m.ends)
    {latest : Handshake} {gone : Bool}
    (hwaits : m.hub.claim? σ = some (.joining topic k serial latest gone)) :
    Lost moments h serial := by
  obtain ⟨ho, hstays⟩ := ht.onward hsplit
  rcases ho.past.coherent.joining σ topic k serial latest gone hwaits with
    ⟨_, other, hother, rfl, _⟩ | ⟨⟨message, rfl⟩, _⟩
  · obtain rfl := Option.some.inj (hfind.symm.trans hother)
    have hm : m ∈ moments := by simp [hsplit]
    exact ht.accounted.closed m hm topic entry.serial ⟨τ, l, entry, hclaim, hfind, rfl, hover⟩
  · exact hstays serial (ho.lost (ho.past.failed σ topic k serial message gone hwaits))

end Trail

/-- In every run of a hub whose callers are orderly:

* a subscription that succeeds has its listener registered, on an entry that has been in the table
  since before an answer to a post that had the topic among its names, and one that fails does not;
* when an opening fails or is dropped, its topic has no listener any more, and all who wait on it
  then never succeed, and fail as soon as they go on;
* of those who take part in one handshake, none succeeds if another one fails. -/
theorem handshake_agreement {patience : Nat} {moments : List Moment} {h : Hub}
    (ht : Trail patience moments h) :
    (∀ before m after, moments = before ++ m :: after →
      ∀ τ topic l, (∃ m' ∈ before ++ [m], m'.Begins τ topic l) →
        ((τ, .ok true) ∈ m.ends →
          ∃ entry, m.next.topics.find? topic = some entry ∧ l ∈ entry.listeners ∧
            ∃ m' ∈ before ++ [m], m'.Confirms topic entry.serial) ∧
        (∀ error, (τ, .error error) ∈ m.ends → l ∉ m.next.topics.listeners topic)) ∧
    (∀ m ∈ moments, ∀ τ topic l progress,
      m.hub.errand? τ = some (.opening topic l progress) →
      (m.event = .drop τ ∨ ∃ error, (τ, .error error) ∈ m.ends) →
      m.next.topics.listeners topic = [] ∧
      ∀ σ k serial latest gone, m.hub.errand? σ = some (.joining topic k serial latest gone) →
        ¬ Succeeded moments σ ∧
        ∀ x k' serial' latest' gone', h.errand? σ = some (.joining x k' serial' latest' gone') →
          ∃ error, (σ, .error error) ∈ endings (h.step (.resume σ)).2) ∧
    (∀ serial m m' τ σ topic topic' l k, m ∈ moments → m' ∈ moments →
      m.Joins τ topic l serial → m'.Joins σ topic' k serial →
      ¬ (Succeeded moments τ ∧ Failed moments σ)) := by
  have ha : Accounted moments h := ht.accounted
  refine ⟨?_, ?_, ?_⟩
  · rintro before m after hsplit τ topic l ⟨m', hm', hbegins⟩
    obtain ⟨ho, _⟩ := ht.onward hsplit
    refine ⟨fun hend => ?_, fun error hend => ?_⟩
    · obtain ⟨entry, hfind, hactive, hl⟩ := (ho.ending_of_begins hm' hbegins hend).1 rfl
      exact ⟨entry, hfind, hl, (ho.active hfind hactive).2⟩
    · exact (ho.ending_of_begins hm' hbegins hend).2 error rfl
  · intro m hm τ topic l progress herrand hover
    obtain ⟨before, after, hsplit⟩ := List.append_of_mem hm
    obtain ⟨ho, _⟩ := ht.onward hsplit
    have hclaim : m.hub.claim? τ = some (.opening topic l) :=
      Hub.claim?_eq_some.mpr ⟨_, herrand, rfl⟩
    obtain ⟨entry, hfind, _, _⟩ := ho.past.coherent.opening τ topic l hclaim
    refine ⟨?_, ?_⟩
    · exact Topics.listeners_of_find?_none (ho.turn.closes ho.past.coherent hclaim hfind hover).1
    · intro σ k serial latest gone hjoining
      have hwaits : m.hub.claim? σ = some (.joining topic k serial latest gone) :=
        Hub.claim?_eq_some.mpr ⟨_, hjoining, rfl⟩
      obtain ⟨m', hm', hjoins⟩ := ho.past.joined σ serial _ hwaits rfl
      have hmem : m' ∈ moments := by
        rw [hsplit]
        exact List.mem_append_left _ hm'
      exact ht.refused_of_lost hmem hjoins (ht.lost_of_closed hsplit hclaim hfind hover hwaits)
  · rintro serial m m' τ σ topic topic' l k hm hm' hjoins hjoins' ⟨hsucceeded, hfailed⟩
    exact (ha.lost m' hm' σ topic' k serial hjoins' hfailed).2
      (ha.succeeded m hm τ topic l serial hjoins hsucceeded)

/-- Two listeners come to a topic whose post fails, and one to a topic whose post succeeds. -/
def twoTopics : List HubEvent :=
  [.subscribe 0 "a" ⟨1⟩, .message 1 "PB_CONNECT" "\x7b\"clientId\":\"c\"\x7d", .resume 0,
    .subscribe 2 "a" ⟨2⟩, .posted 1 (.ok ()), .resume 0, .subscribe 3 "b" ⟨2⟩,
    .posted 0 (.error (.transport "reset")), .resume 3, .posted 3 (.ok ())]

/-- The moments of this run. -/
def twoTopicsMoments : List Moment :=
  (Hub.new 1000).moments twoTopics

/-- The hub that this run leads to. -/
def twoTopicsHub : Hub :=
  ((Hub.new 1000).run twoTopics).1

lemma trail_twoTopics : Trail 1000 twoTopicsMoments twoTopicsHub :=
  Trail.start.run twoTopics (by decide +kernel) (by decide +kernel)

/-- The second listener of the first topic still waits, and it fails as soon as it goes on. -/
theorem handshake_agreement_of_twoTopics :
    Trail 1000 twoTopicsMoments twoTopicsHub ∧ ¬ Succeeded twoTopicsMoments 2 ∧
      ∃ error, (2, .error error) ∈ endings (twoTopicsHub.step (.resume 2)).2 := by
  have hfails := (handshake_agreement trail_twoTopics).2.1 (twoTopicsMoments.get ⟨7, by decide⟩)
    (List.get_mem _ _) 0 "a" ⟨1⟩ (.posting "c" ["a"]) (by decide +kernel)
    (.inr ⟨.realtime "subscription update failed: transport error: reset", by decide +kernel⟩)
  obtain ⟨hnever, hresumes⟩ := hfails.2 2 ⟨2⟩ 0 .pending false (by decide +kernel)
  refine ⟨trail_twoTopics, hnever, hresumes "a" ⟨2⟩ 0 (.failed
    "realtime error: subscription update failed: transport error: reset") true ?_⟩
  decide +kernel

end RunBoard.Realtime
