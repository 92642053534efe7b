import RunBoard.Proofs.Realtime.Turns

/-!
# Coherence is kept

A hub that nobody has used is coherent, and every turn leads from a coherent hub to a coherent one.
The turns fall into six kinds by what they do to the table: none at all, a new entry, one more or
one less listener, an entry that becomes known to the backend, and an entry that is taken out.  Each
kind has its lemma, and `Coherent.step` puts them together.

The other lemmas read off a turn what becomes of the table, of the claims, and of one listener.
-/

namespace RunBoard.Realtime

namespace Hub

variable {h h' : Hub} {event : HubEvent} {ends : List Ending} {τ σ : Ticket} {topic x : String}
  {l k : Listener} {entry : Entry} {serial : Nat} {latest : Handshake} {gone : Bool}
  {fresh : Option Ticket} {claims : Ticket → Option Claim}

lemma coherent_new (patience : Nat) : (new patience).Coherent where
  nodup := List.nodup_nil
  sound := ⟨fun _ _ h => absurd h (by simp [new, Topics.find?, Topics.empty]),
    fun _ _ _ _ h => absurd h (by simp [new, Topics.find?, Topics.empty])⟩
  opening _ _ _ h := absurd h (by simp [claim?, errand?, new])
  opener _ _ _ _ _ h := absurd h (by simp [claim?, errand?, new])
  joining _ _ _ _ _ _ h := absurd h (by simp [claim?, errand?, new])
  posted _ _ _ _ h := absurd h (by simp [claim?, errand?, new])

/-- An opening that is new has posted nothing yet, or the names of the table. -/
lemma Coherent.of_frame (hh : h.Coherent) (hf : h.Frame fresh h') (hsound : h'.topics.Sound)
    (hknown : ∀ σ x k, h'.claim? σ = some (.opening x k) →
      h.claim? σ = some (.opening x k) ∨ h.errand? σ = none)
    (hopening : ∀ σ x k, h'.claim? σ = some (.opening x k) →
      ∃ entry, h'.topics.find? x = some entry ∧ entry.handshake = .pending ∧ k ∈ entry.listeners)
    (hopener : ∀ σ ρ x k k', h'.claim? σ = some (.opening x k) →
      h'.claim? ρ = some (.opening x k') → σ = ρ)
    (hjoining : ∀ σ x k serial latest gone,
      h'.claim? σ = some (.joining x k serial latest gone) → h'.Waits x k serial latest gone) :
    h'.Coherent := by
  refine ⟨hf.nodup hh.nodup, hsound, hopening, hopener, hjoining, ?_⟩
  intro σ x k names hclaim hposted
  obtain ⟨entry, hfind, _, _⟩ := hopening σ x k hclaim
  -- what was posted before had the topic among it, and what is posted now are all names
  rcases hf.posted σ names hposted with hbefore | rfl
  · rcases hknown σ x k hclaim with hclaim | hnone
    · exact hh.posted σ x k names hclaim hbefore
    · exact absurd hbefore (by simp [posted?, hnone])
  · exact Topics.mem_names.mpr ⟨entry, hfind⟩

/-- Nothing changes in the table, and claims may go. -/
lemma Coherent.stays (hh : h.Coherent) (hf : h.Frame fresh h') (hstays : h.Stays claims h')
    (hsub : ∀ σ c, claims σ = some c → h.claim? σ = some c) : h'.Coherent := by
  have hold : ∀ σ c, h'.claim? σ = some c → h.claim? σ = some c :=
    fun σ c hc => hsub σ c ((hstays.claims σ).symm.trans hc)
  refine hh.of_frame hf ?_ (fun σ x k hc => .inl (hold _ _ hc)) ?_ ?_ ?_
  · rw [hstays.topics]
    exact hh.sound
  · intro σ x k hc
    rw [hstays.topics]
    exact hh.opening σ x k (hold _ _ hc)
  · intro σ ρ x k k' hσ hρ
    exact hh.opener σ ρ x k k' (hold _ _ hσ) (hold _ _ hρ)
  · intro σ x k serial latest gone hc
    unfold Waits
    rw [hstays.topics]
    exact hh.joining σ x k serial latest gone (hold _ _ hc)

lemma taking_eq_some {c c' : Claim} (h' : h.taking τ c σ = some c') :
    (σ = τ ∧ c' = c) ∨ (σ ≠ τ ∧ h.claim? σ = some c') := by
  unfold taking at h'
  split at h'
  · rename_i hσ
    exact .inl ⟨hσ, (Option.some.inj h').symm⟩
  · rename_i hσ
    exact .inr ⟨hσ, h'⟩

lemma lacking_eq_some {c : Claim} (h' : h.lacking τ σ = some c) : σ ≠ τ ∧ h.claim? σ = some c := by
  unfold lacking at h'
  split at h'
  · exact absurd h' (by simp)
  · rename_i hσ
    exact ⟨hσ, h'⟩

/-- Who is not subscribing to a topic is not the listener of a claim on it. -/
lemma Coherent.ne_of_claim {c : Claim} (hh : h.Coherent) (hfree : ¬ h.Subscribing topic l)
    (hclaim : h.claim? σ = some c) (htopic : c.topic = topic) : c.listener ≠ l := by
  intro hl
  exact hfree ((subscribing_iff hh.nodup).mpr ⟨σ, c, hclaim, htopic, hl⟩)

/-- A topic gains its first listener. -/
lemma Coherent.opened (hh : h.Coherent) (hf : h.Frame fresh h') (hτ : h.errand? τ = none)
    (hfree : ¬ h.Subscribing topic l) (hfind : h.topics.find? topic = none)
    (hset : h.topics.Sets topic (some (h.topics.opened topic l)) h'.topics)
    (hnext : h'.topics.next = h.topics.next + 1)
    (hclaims : ∀ σ, h'.claim? σ = h.taking τ (.opening topic l) σ) : h'.Coherent := by
  -- a claim on this topic would have an entry, or be of somebody else
  have hopening : ∀ σ x k, h.claim? σ = some (.opening x k) → x ≠ topic := by
    rintro σ x k hc rfl
    obtain ⟨entry, hentry, _⟩ := hh.opening σ x k hc
    rw [hfind] at hentry
    exact absurd hentry (by simp)
  refine hh.of_frame hf (hh.sound.opened hset hnext) ?_ ?_ ?_ ?_
  · intro σ x k hc
    rw [hclaims] at hc
    rcases taking_eq_some hc with ⟨rfl, _⟩ | ⟨_, hc⟩
    · exact .inr hτ
    · exact .inl hc
  · intro σ x k hc
    rw [hclaims] at hc
    rcases taking_eq_some hc with ⟨rfl, heq⟩ | ⟨_, hc⟩
    · obtain ⟨rfl, rfl⟩ := Claim.opening.inj heq
      exact ⟨_, hset.find?_self, rfl, List.mem_singleton_self _⟩
    · rw [hset.find?_of_ne (hopening σ x k hc)]
      exact hh.opening σ x k hc
  · intro σ ρ x k k' hσ hρ
    rw [hclaims] at hσ hρ
    rcases taking_eq_some hσ with ⟨rfl, heq⟩ | ⟨_, hσ₀⟩
    · obtain ⟨rfl, rfl⟩ := Claim.opening.inj heq
      rcases taking_eq_some hρ with ⟨hρσ, _⟩ | ⟨_, hρ₀⟩
      · exact hρσ.symm
      · exact absurd rfl (hopening ρ x k' hρ₀)
    · rcases taking_eq_some hρ with ⟨_, heq⟩ | ⟨_, hρ₀⟩
      · obtain ⟨rfl, rfl⟩ := Claim.opening.inj heq
        exact absurd rfl (hopening σ x k hσ₀)
      · exact hh.opener σ ρ x k k' hσ₀ hρ₀
  · intro σ x k serial latest gone hc
    rw [hclaims] at hc
    rcases taking_eq_some hc with ⟨_, heq⟩ | ⟨_, hc₀⟩
    · exact absurd heq (by simp)
    · rcases hh.joining σ x k serial latest gone hc₀ with ⟨hgone, entry, hentry, hwaits⟩ |
        ⟨hfailed, hgone, hk⟩
      · have hx : x ≠ topic := by
          rintro rfl
          rw [hfind] at hentry
          exact absurd hentry (by simp)
        exact .inl ⟨hgone, entry, (hset.find?_of_ne hx).trans hentry, hwaits⟩
      · refine .inr ⟨hfailed, hgone.sets hset (by omega) ?_, ?_⟩
        · intro e' heq
          exact .inl (Option.some.inj heq ▸ rfl)
        · by_cases hx : x = topic
          · subst hx
            have hne : k ≠ l := hh.ne_of_claim hfree hc₀ rfl
            rw [Topics.listeners_of_find? hset.find?_self]
            exact fun hmem => hne (List.mem_singleton.mp hmem)
          · rwa [hset.listeners_of_ne hx]

/-- A wait goes on when an entry changes, if its listener is still registered on the entry. -/
lemma waits_of_sets {new : Option Entry} (hset : h.topics.Sets topic new h'.topics)
    (hnext : h'.topics.next = h.topics.next) (hfind : h.topics.find? topic = some entry)
    (hserial : ∀ e', new = some e' → e'.serial = entry.serial)
    (hwaits : h.Waits x k serial latest gone)
    (hregistered : x = topic → entry.serial = serial → entry.handshake = latest →
      k ∈ entry.listeners → ∃ e', new = some e' ∧ e'.handshake = latest ∧ k ∈ e'.listeners)
    (habsent : x = topic → k ∉ entry.listeners → ∀ e', new = some e' → k ∉ e'.listeners) :
    h'.Waits x k serial latest gone := by
  rcases hwaits with ⟨hgone, other, hother, hs, hl, hk⟩ | ⟨hfailed, hgone, hk⟩
  · by_cases hx : x = topic
    · subst hx
      obtain rfl := Option.some.inj (hfind.symm.trans hother)
      obtain ⟨e', hnew, hl', hk'⟩ := hregistered rfl hs hl hk
      exact .inl ⟨hgone, e', hset.find?_self.trans hnew, (hserial e' hnew).trans hs, hl', hk'⟩
    · exact .inl ⟨hgone, other, (hset.find?_of_ne hx).trans hother, hs, hl, hk⟩
  · refine .inr ⟨hfailed, hgone.sets hset (by omega) ?_, ?_⟩
    · intro e' hnew
      exact .inr ⟨entry, hfind, hserial e' hnew⟩
    · by_cases hx : x = topic
      · subst hx
        rw [Topics.listeners_of_find? hfind] at hk
        rw [Topics.mem_listeners, hset.find?_self]
        rintro ⟨e', hnew, hk'⟩
        exact habsent rfl hk e' hnew hk'
      · rwa [hset.listeners_of_ne hx]

/-- A topic gains one more listener, which may wait for the outcome. -/
lemma Coherent.welcomes (hh : h.Coherent) (hf : h.Frame fresh h')
    (hfree : ¬ h.Subscribing topic l) (hfind : h.topics.find? topic = some entry)
    (hmoves : h.Moves topic (some (entry.welcome l)) claims h')
    (hclaims : ∀ σ c, claims σ = some c → h.claim? σ = some c ∨
      c = .joining topic l entry.serial entry.handshake false) : h'.Coherent := by
  have hold : ∀ σ x k, h'.claim? σ = some (.opening x k) → h.claim? σ = some (.opening x k) := by
    intro σ x k hc
    rw [hmoves.claims] at hc
    exact (hclaims σ _ hc).resolve_right (by simp)
  refine hh.of_frame hf ?_ (fun σ x k hc => .inl (hold σ x k hc)) ?_ ?_ ?_
  · refine hh.sound.sets hmoves.entry hmoves.next fun e' heq => ?_
    obtain rfl := Option.some.inj heq
    exact ⟨(hh.sound.entry topic entry hfind).2, entry, hfind, rfl⟩
  · intro σ x k hc
    obtain ⟨other, hother, hpending, hk⟩ := hh.opening σ x k (hold σ x k hc)
    by_cases hx : x = topic
    · subst hx
      obtain rfl := Option.some.inj (hfind.symm.trans hother)
      exact ⟨_, hmoves.entry.find?_self, hpending, Entry.mem_welcome.mpr (.inl hk)⟩
    · exact ⟨other, (hmoves.entry.find?_of_ne hx).trans hother, hpending, hk⟩
  · intro σ ρ x k k' hσ hρ
    exact hh.opener σ ρ x k k' (hold σ x k hσ) (hold ρ x k' hρ)
  · intro σ x k serial latest gone hc
    rw [hmoves.claims] at hc
    rcases hclaims σ _ hc with hc | heq
    -- those who have waited before, and the new listener
    · refine waits_of_sets hmoves.entry hmoves.next hfind ?_
        (hh.joining σ x k serial latest gone hc) ?_ ?_
      · intro e' heq
        exact Option.some.inj heq ▸ rfl
      · intro _ _ hstate hk
        exact ⟨_, rfl, hstate, Entry.mem_welcome.mpr (.inl hk)⟩
      · rintro rfl hk e' heq hmem
        obtain rfl := Option.some.inj heq
        have hne : k ≠ l := hh.ne_of_claim hfree hc rfl
        exact (Entry.mem_welcome.mp hmem).elim hk hne
    · obtain ⟨rfl, rfl, rfl, rfl, rfl⟩ := Claim.joining.inj heq
      exact .inl ⟨rfl, _, hmoves.entry.find?_self, rfl, rfl, Entry.mem_welcome.mpr (.inr rfl)⟩

/-- A topic loses a listener. -/
lemma Coherent.leaves (hh : h.Coherent) (hf : h.Frame fresh h')
    (hfree : ¬ h.Subscribing topic l) (hfind : h.topics.find? topic = some entry)
    (hmoves : h.Moves topic (entry.without l) h.claim? h') : h'.Coherent := by
  have hold : ∀ σ c, h'.claim? σ = some c → h.claim? σ = some c :=
    fun σ c hc => (hmoves.claims σ).symm.trans hc
  have hrest : ∀ e', entry.without l = some e' → e' = entry.dismiss l :=
    fun _ => Entry.without_eq_some
  refine hh.of_frame hf ?_ (fun σ x k hc => .inl (hold σ _ hc)) ?_ ?_ ?_
  · refine hh.sound.sets hmoves.entry hmoves.next fun e' heq => ?_
    obtain rfl := hrest e' heq
    exact ⟨(hh.sound.entry topic entry hfind).2, entry, hfind, rfl⟩
  · intro σ x k hc
    obtain ⟨other, hother, hpending, hk⟩ := hh.opening σ x k (hold σ _ hc)
    by_cases hx : x = topic
    · subst hx
      obtain rfl := Option.some.inj (hfind.symm.trans hother)
      have hne : k ≠ l := hh.ne_of_claim hfree (hold σ _ hc) rfl
      exact ⟨_, hmoves.entry.find?_self.trans (Entry.without_of_mem hk hne), hpending,
        Entry.mem_dismiss.mpr ⟨hk, hne⟩⟩
    · exact ⟨other, (hmoves.entry.find?_of_ne hx).trans hother, hpending, hk⟩
  · intro σ ρ x k k' hσ hρ
    exact hh.opener σ ρ x k k' (hold σ _ hσ) (hold ρ _ hρ)
  · intro σ x k serial latest gone hc
    refine waits_of_sets hmoves.entry hmoves.next hfind ?_
      (hh.joining σ x k serial latest gone (hold σ _ hc)) ?_ ?_
    · intro e' heq
      exact hrest e' heq ▸ rfl
    · rintro rfl _ hstate hk
      have hne : k ≠ l := hh.ne_of_claim hfree (hold σ _ hc) rfl
      exact ⟨_, Entry.without_of_mem hk hne, hstate, Entry.mem_dismiss.mpr ⟨hk, hne⟩⟩
    · rintro rfl hk e' heq hmem
      obtain rfl := hrest e' heq
      exact hk (Entry.mem_dismiss.mp hmem).1

/-- An opening has ended: no claim of it is left, and all others have heard of the outcome. -/
lemma settling_eq_some {state : Handshake} {c : Claim}
    (hc : h.settling τ serial state gone σ = some c) :
    ∃ c₀, σ ≠ τ ∧ h.claim? σ = some c₀ ∧ c = c₀.hear serial state gone := by
  obtain ⟨c₀, hlacking, rfl⟩ := Option.map_eq_some_iff.mp hc
  obtain ⟨hσ, hclaim⟩ := lacking_eq_some hlacking
  exact ⟨c₀, hσ, hclaim, rfl⟩

/-- An opening ends, and all who wait for its entry hear of the outcome. -/
lemma Coherent.settles {new : Option Entry} {state : Handshake} (hh : h.Coherent)
    (hf : h.Frame fresh h') (hclaim : h.claim? τ = some (.opening topic l))
    (hfind : h.topics.find? topic = some entry)
    (hmoves : h.Moves topic new (h.settling τ entry.serial state gone) h')
    (hnew : ∀ e', new = some e' → e'.serial = entry.serial ∧ e'.listeners = entry.listeners ∧
      (e'.handshake = .pending ∨ e'.handshake = .active))
    (hheard : ∀ k ∈ entry.listeners, h'.Waits topic k entry.serial state gone) : h'.Coherent := by
  have hold : ∀ σ x k, h'.claim? σ = some (.opening x k) →
      h.claim? σ = some (.opening x k) ∧ x ≠ topic := by
    intro σ x k hc
    rw [hmoves.claims] at hc
    obtain ⟨c₀, hσ, hc₀, heq⟩ := settling_eq_some hc
    cases c₀ with
    | opening x' k' =>
      obtain ⟨rfl, rfl⟩ := Claim.opening.inj heq
      refine ⟨hc₀, ?_⟩
      -- the opening that ends was the only one of its topic
      rintro rfl
      exact hσ (hh.opener σ τ x k l hc₀ hclaim)
    | joining x' k' s latest was =>
      simp only [Claim.hear] at heq
      split at heq <;> exact absurd heq (by simp)
  refine hh.of_frame hf ?_ (fun σ x k hc => .inl (hold σ x k hc).1) ?_ ?_ ?_
  · refine hh.sound.sets hmoves.entry hmoves.next fun e' heq => ?_
    obtain ⟨hserial, _, hstate⟩ := hnew e' heq
    exact ⟨hstate, entry, hfind, hserial⟩
  · intro σ x k hc
    obtain ⟨hc₀, hx⟩ := hold σ x k hc
    rw [hmoves.entry.find?_of_ne hx]
    exact hh.opening σ x k hc₀
  · intro σ ρ x k k' hσ hρ
    exact hh.opener σ ρ x k k' (hold σ x k hσ).1 (hold ρ x k' hρ).1
  · intro σ x k serial latest gone' hc
    rw [hmoves.claims] at hc
    obtain ⟨c₀, _, hc₀, heq⟩ := settling_eq_some hc
    cases c₀ with
    | opening => exact absurd heq (by simp [Claim.hear])
    | joining x' k' s latest' was =>
      have hwaits := hh.joining σ x' k' s latest' was hc₀
      simp only [Claim.hear] at heq
      split at heq
      · rename_i hs
        obtain ⟨rfl, rfl, rfl, rfl, rfl⟩ := Claim.joining.inj heq
        subst hs
        rcases hwaits with ⟨rfl, other, hother, hs, _, hk⟩ | ⟨_, hgone, _⟩
        · obtain rfl := hh.sound.serial topic x entry other hfind hother hs.symm
          obtain rfl := Option.some.inj (hfind.symm.trans hother)
          exact hheard k hk
        · exact absurd rfl (hgone.2 topic entry hfind)
      · rename_i hs
        obtain ⟨rfl, rfl, rfl, rfl, rfl⟩ := Claim.joining.inj heq
        refine waits_of_sets hmoves.entry hmoves.next hfind ?_ hwaits ?_ ?_
        · exact fun e' heq => (hnew e' heq).1
        · exact fun _ hserial => absurd hserial.symm hs
        · intro _ hk e' heq
          rwa [(hnew e' heq).2.1]

/-- The backend has been told of a topic. -/
lemma Coherent.activates (hh : h.Coherent) (hf : h.Frame fresh h')
    (hclaim : h.claim? τ = some (.opening topic l)) (hfind : h.topics.find? topic = some entry)
    (hmoves : h.Moves topic (some entry.activated) (h.settling τ entry.serial .active false) h') :
    h'.Coherent := by
  refine hh.settles hf hclaim hfind hmoves ?_ ?_
  · intro e' heq
    obtain rfl := Option.some.inj heq
    exact ⟨rfl, rfl, .inr rfl⟩
  · exact fun k hk => .inl ⟨rfl, _, hmoves.entry.find?_self, rfl, rfl, hk⟩

/-- A topic is given up. -/
lemma Coherent.abandons {message : String} (hh : h.Coherent) (hf : h.Frame fresh h')
    (hclaim : h.claim? τ = some (.opening topic l)) (hfind : h.topics.find? topic = some entry)
    (hmoves : h.Moves topic none (h.settling τ entry.serial (.failed message) true) h') :
    h'.Coherent := by
  refine hh.settles hf hclaim hfind hmoves (fun e' heq => absurd heq (by simp)) ?_
  intro k _
  refine .inr ⟨⟨message, rfl⟩, hh.sound.gone hfind hmoves.entry hmoves.next, ?_⟩
  rw [Topics.listeners_of_find?_none hmoves.entry.find?_self]
  exact List.not_mem_nil

/-- Every turn keeps the claims in line with the table. -/
lemma Coherent.of_turn (hh : h.Coherent) (hp : h.Permits event) (hf : h.Frame event.begins? h')
    (hturn : h.Turn event ends h') : h'.Coherent := by
  cases hturn with
  | calm _ hstays => exact hh.stays hf hstays fun _ _ hc => hc
  | redundant => exact hh
  | opened hfind hset hnext hclaims => exact hh.opened hf hp.1 hp.2 hfind hset hnext hclaims
  | joined hfind hl hstate hmoves =>
    refine hh.welcomes hf hp.2 hfind hmoves fun σ c hc => ?_
    rcases taking_eq_some hc with ⟨_, heq⟩ | ⟨_, hc⟩
    · exact .inr (by rw [heq, hstate])
    · exact .inl hc
  | welcomed hfind hl hstate hmoves => exact hh.welcomes hf hp.2 hfind hmoves fun _ _ hc => .inl hc
  | activated hclaim hposted hfind hmoves => exact hh.activates hf hclaim hfind hmoves
  | failed hmoving hclaim hfind hmoves => exact hh.abandons hf hclaim hfind hmoves
  | dropped hclaim hfind hmoves => exact hh.abandons hf hclaim hfind hmoves
  | accepted hclaim hstays => exact hh.stays hf hstays fun _ _ hc => (lacking_eq_some hc).2
  | refused hclaim hstays => exact hh.stays hf hstays fun _ _ hc => (lacking_eq_some hc).2
  | forgotten hclaim hstays => exact hh.stays hf hstays fun _ _ hc => (lacking_eq_some hc).2
  | left hfind hl hmoves => exact hh.leaves hf hp.2 hfind hmoves
  | absent => exact hh

theorem Coherent.step (hh : h.Coherent) (hp : h.Permits event) : (h.step event).1.Coherent :=
  hh.of_turn hp (frame_step h event) (turn_step hh hp)

/-! ### The two sides of a turn -/

/-- What an event can do to an entry in the table. -/
inductive Change (h : Hub) (topic : String) (entry : Entry) : HubEvent → Option Entry → Prop
  | welcomed {τ : Ticket} {l : Listener} (hl : l ∉ entry.listeners) :
      Change h topic entry (.subscribe τ topic l) (some (entry.welcome l))
  | activated {τ : Ticket} {l : Listener} {names : List String}
      (hclaim : h.claim? τ = some (.opening topic l)) (hposted : h.posted? τ = some names) :
      Change h topic entry (.posted τ (.ok ())) (some entry.activated)
  | abandoned {event : HubEvent} {τ : Ticket} {l : Listener}
      (hclaim : h.claim? τ = some (.opening topic l)) : Change h topic entry event none
  | left {τ : Ticket} {l : Listener} (hl : l ∈ entry.listeners) :
      Change h topic entry (.unsubscribe τ topic l) (entry.without l)

/-- What a turn does to the table: nothing, it makes an entry, or it changes one. -/
inductive OfTable (h : Hub) (event : HubEvent) (h' : Hub) : Prop
  | same (htopics : h'.topics = h.topics)
  | opened {τ : Ticket} {topic : String} {l : Listener} (hevent : event = .subscribe τ topic l)
      (hfind : h.topics.find? topic = none)
      (hset : h.topics.Sets topic (some (h.topics.opened topic l)) h'.topics)
      (hnext : h'.topics.next = h.topics.next + 1)
  | changed {topic : String} {entry : Entry} {new : Option Entry}
      (hfind : h.topics.find? topic = some entry) (hset : h.topics.Sets topic new h'.topics)
      (hnext : h'.topics.next = h.topics.next) (hchange : h.Change topic entry event new)

lemma Turn.ofTable (hturn : h.Turn event ends h') : h.OfTable event h' := by
  cases hturn with
  | calm _ hstays => exact .same hstays.topics
  | redundant => exact .same rfl
  | opened hfind hset hnext => exact .opened rfl hfind hset hnext
  | joined hfind hl _ hmoves => exact .changed hfind hmoves.entry hmoves.next (.welcomed hl)
  | welcomed hfind hl _ hmoves => exact .changed hfind hmoves.entry hmoves.next (.welcomed hl)
  | activated hclaim hposted hfind hmoves =>
    exact .changed hfind hmoves.entry hmoves.next (.activated hclaim hposted)
  | failed _ hclaim hfind hmoves =>
    exact .changed hfind hmoves.entry hmoves.next (.abandoned hclaim)
  | dropped hclaim hfind hmoves =>
    exact .changed hfind hmoves.entry hmoves.next (.abandoned hclaim)
  | accepted _ hstays => exact .same hstays.topics
  | refused _ hstays => exact .same hstays.topics
  | forgotten _ hstays => exact .same hstays.topics
  | left hfind hl hmoves => exact .changed hfind hmoves.entry hmoves.next (.left hl)
  | absent => exact .same rfl

/-- What a claim is for when it begins: a topic without an entry, or an entry that is being opened
and that the listener is new to. -/
def Fresh (h : Hub) : Claim → Prop
  | .opening topic _ => h.topics.find? topic = none
  | .joining topic l serial latest _ => latest = .pending ∧
      ∃ entry, h.topics.find? topic = some entry ∧ entry.serial = serial ∧ l ∉ entry.listeners

/-- What a turn does to the claims: nothing, one begins, or one is over, and the others may hear of
the outcome of what it was opening. -/
inductive OfClaims (h : Hub) (event : HubEvent) (ends : List Ending) (h' : Hub) : Prop
  | same (hclaims : ∀ σ, h'.claim? σ = h.claim? σ)
  | begun {τ : Ticket} {c : Claim} (hevent : event = .subscribe τ c.topic c.listener)
      (hfresh : h.Fresh c) (hclaims : ∀ σ, h'.claim? σ = h.taking τ c σ)
  | finished {τ : Ticket} (hover : event = .drop τ ∨ ∃ result, (τ, result) ∈ ends)
      (hclaims : ∀ σ, h'.claim? σ = h.lacking τ σ)
  | settled {τ : Ticket} {topic : String} {l : Listener} {entry : Entry} {state : Handshake}
      {gone : Bool} (hover : event = .drop τ ∨ ∃ result, (τ, result) ∈ ends)
      (hclaim : h.claim? τ = some (.opening topic l)) (hfind : h.topics.find? topic = some entry)
      (hstate : state = .active ∨ h'.topics.Gone entry.serial)
      (hclaims : ∀ σ, h'.claim? σ = h.settling τ entry.serial state gone σ)

lemma Turn.ofClaims (hh : h.Coherent) (hturn : h.Turn event ends h') :
    h.OfClaims event ends h' := by
  cases hturn with
  | calm _ hstays => exact .same hstays.claims
  | redundant => exact .same fun _ => rfl
  | @opened τ topic l _ hfind _ _ hclaims =>
    exact .begun (show _ = HubEvent.subscribe τ (Claim.opening topic l).topic l from rfl) hfind
      hclaims
  | @joined τ topic l entry _ hfind hl _ hmoves =>
    exact .begun (show _ = HubEvent.subscribe τ
      (Claim.joining topic l entry.serial .pending false).topic l from rfl)
      ⟨rfl, entry, hfind, rfl, hl⟩ hmoves.claims
  | welcomed _ _ _ hmoves => exact .same hmoves.claims
  | activated hclaim _ hfind hmoves =>
    exact .settled (.inr ⟨_, List.mem_singleton_self _⟩) hclaim hfind (.inl rfl) hmoves.claims
  | failed _ hclaim hfind hmoves =>
    exact .settled (.inr ⟨_, List.mem_singleton_self _⟩) hclaim hfind
      (.inr (hh.sound.gone hfind hmoves.entry hmoves.next)) hmoves.claims
  | dropped hclaim hfind hmoves =>
    exact .settled (.inl rfl) hclaim hfind
      (.inr (hh.sound.gone hfind hmoves.entry hmoves.next)) hmoves.claims
  | accepted _ hstays => exact .finished (.inr ⟨_, List.mem_singleton_self _⟩) hstays.claims
  | refused _ hstays => exact .finished (.inr ⟨_, List.mem_singleton_self _⟩) hstays.claims
  | forgotten _ hstays => exact .finished (.inl rfl) hstays.claims
  | left _ _ hmoves => exact .same hmoves.claims
  | absent => exact .same fun _ => rfl

/-! ### What a listener sees of a turn -/

/-- Who gets the messages of a topic goes on getting them until it leaves the topic itself. -/
lemma Turn.holds (hh : h.Coherent) (hturn : h.Turn event ends h') (hheld : h.topics.Holds x k)
    (hstays : ∀ τ, event ≠ .unsubscribe τ x k) : h'.topics.Holds x k := by
  obtain ⟨e, he, hactive, hk⟩ := hheld
  cases hturn.ofTable with
  | same htopics => exact htopics ▸ ⟨e, he, hactive, hk⟩
  | @opened τ topic l _ hfind hset _ =>
    have hx : x ≠ topic := by
      rintro rfl
      exact absurd (hfind.symm.trans he) (by simp)
    exact ⟨e, (hset.find?_of_ne hx).trans he, hactive, hk⟩
  | @changed topic entry new hfind hset _ hchange =>
    by_cases hx : x = topic
    · subst hx
      obtain rfl := Option.some.inj (hfind.symm.trans he)
      cases hchange with
      | welcomed => exact ⟨_, hset.find?_self, hactive, Entry.mem_welcome.mpr (.inl hk)⟩
      | activated => exact ⟨_, hset.find?_self, rfl, hk⟩
      | @abandoned event τ l hclaim =>
        -- an entry that is being opened is not active
        obtain ⟨e', he', hpending, _⟩ := hh.opening τ x l hclaim
        obtain rfl := Option.some.inj (hfind.symm.trans he')
        exact absurd (hpending.symm.trans hactive) (by simp)
      | @left τ l =>
        have hne : k ≠ l := by
          rintro rfl
          exact hstays τ rfl
        exact ⟨_, hset.find?_self.trans (Entry.without_of_mem hk hne), hactive,
          Entry.mem_dismiss.mpr ⟨hk, hne⟩⟩
    · exact ⟨e, (hset.find?_of_ne hx).trans he, hactive, hk⟩

/-- Who does not listen to a topic does not come to listen to it unless it wants to. -/
lemma Turn.absent_of (hturn : h.Turn event ends h') (hk : k ∉ h.topics.listeners x)
    (hstays : ∀ τ, event ≠ .subscribe τ x k) : k ∉ h'.topics.listeners x := by
  cases hturn.ofTable with
  | same htopics => rwa [htopics]
  | @opened τ topic l hevent hfind hset _ =>
    by_cases hx : x = topic
    · subst hx
      rw [Topics.listeners_of_find? hset.find?_self]
      intro hmem
      obtain rfl := List.mem_singleton.mp hmem
      exact hstays τ hevent
    · rwa [hset.listeners_of_ne hx]
  | @changed topic entry new hfind hset _ hchange =>
    by_cases hx : x = topic
    · subst hx
      rw [Topics.listeners_of_find? hfind] at hk
      rw [Topics.mem_listeners, hset.find?_self]
      rintro ⟨e', hnew, hmem⟩
      cases hchange with
      | @welcomed τ l =>
        obtain rfl := Option.some.inj hnew
        rcases Entry.mem_welcome.mp hmem with hmem | rfl
        · exact hk hmem
        · exact hstays τ rfl
      | activated =>
        obtain rfl := Option.some.inj hnew
        exact hk hmem
      | abandoned => exact absurd hnew (by simp)
      | left =>
        obtain rfl := Entry.without_eq_some hnew
        exact hk (Entry.mem_dismiss.mp hmem).1
    · rwa [hset.listeners_of_ne hx]

/-- Who listens after a turn has listened before, or has begun to with it. -/
lemma Turn.listens_of (hturn : h.Turn event ends h')
    (hl : l ∈ h'.topics.listeners topic) :
    l ∈ h.topics.listeners topic ∨ ∃ τ, event = .subscribe τ topic l := by
  by_contra hno
  obtain ⟨habsent, hquiet⟩ := not_or.mp hno
  exact hturn.absent_of habsent (fun τ heq => hquiet ⟨τ, heq⟩) hl

lemma claim?_of_errand?_none (hnone : h.errand? τ = none) : h.claim? τ = none := by
  simp [claim?, hnone]

/-- A claim comes from one that was there before, or from a new subscription. -/
lemma Turn.known {c : Claim} (hh : h.Coherent) (hturn : h.Turn event ends h')
    (hc : h'.claim? σ = some c) :
    (∃ c₀, h.claim? σ = some c₀ ∧ c₀.topic = c.topic ∧ c₀.listener = c.listener) ∨
      event = .subscribe σ c.topic c.listener := by
  cases hturn.ofClaims hh with
  | same hclaims => exact .inl ⟨c, (hclaims σ).symm.trans hc, rfl, rfl⟩
  | begun hevent _ hclaims =>
    rcases taking_eq_some ((hclaims σ).symm.trans hc) with ⟨rfl, rfl⟩ | ⟨_, hc₀⟩
    · exact .inr hevent
    · exact .inl ⟨c, hc₀, rfl, rfl⟩
  | finished _ hclaims =>
    exact .inl ⟨c, (lacking_eq_some ((hclaims σ).symm.trans hc)).2, rfl, rfl⟩
  | settled _ _ _ _ hclaims =>
    obtain ⟨c₀, _, hc₀, rfl⟩ := settling_eq_some ((hclaims σ).symm.trans hc)
    exact .inl ⟨c₀, hc₀, Claim.hear_topic.symm, Claim.hear_listener.symm⟩

/-- A subscription runs until it ends or is dropped. -/
lemma Turn.fate {c : Claim} (hh : h.Coherent) (hp : h.Permits event) (hturn : h.Turn event ends h')
    (hc : h.claim? σ = some c) :
    (∃ c', h'.claim? σ = some c' ∧ c'.topic = c.topic ∧ c'.listener = c.listener) ∨
      (h'.claim? σ = none ∧ (event = .drop σ ∨ ∃ result, (σ, result) ∈ ends)) := by
  cases hturn.ofClaims hh with
  | same hclaims => exact .inl ⟨c, (hclaims σ).trans hc, rfl, rfl⟩
  | @begun τ c₁ hevent _ hclaims =>
    have hσ : σ ≠ τ := by
      rintro rfl
      subst hevent
      exact absurd ((claim?_of_errand?_none hp.1).symm.trans hc) (by simp)
    exact .inl ⟨c, (hclaims σ).trans ((if_neg hσ).trans hc), rfl, rfl⟩
  | @finished τ hover hclaims =>
    by_cases hσ : σ = τ
    · subst hσ
      exact .inr ⟨(hclaims σ).trans (if_pos rfl), hover⟩
    · exact .inl ⟨c, (hclaims σ).trans ((if_neg hσ).trans hc), rfl, rfl⟩
  | @settled τ topic l entry state gone hover _ _ _ hclaims =>
    by_cases hσ : σ = τ
    · subst hσ
      refine .inr ⟨?_, hover⟩
      simp [hclaims, settling, lacking]
    · refine .inl ⟨c.hear entry.serial state gone, ?_, Claim.hear_topic, Claim.hear_listener⟩
      simp [hclaims, settling, lacking, hσ, hc]

/-- The end of a subscription: it was running or has begun with the event, it does not run any more,
and its listener gets the messages of the topic after a success and is not registered on it after a
failure. -/
lemma Turn.ending {result : Except RequestError Bool} (hh : h.Coherent) (hp : h.Permits event)
    (hturn : h.Turn event ends h') (hend : (σ, result) ∈ ends) :
    h'.claim? σ = none ∧ ∃ topic l,
      ((∃ c, h.claim? σ = some c ∧ c.topic = topic ∧ c.listener = l) ∨
        event = .subscribe σ topic l) ∧
      (result = .ok true → h'.topics.Holds topic l) ∧
      (result = .ok false → event = .subscribe σ topic l ∧ l ∈ h.topics.listeners topic) ∧
      (∀ error, result = .error error → l ∉ h'.topics.listeners topic) := by
  cases hturn with
  | @redundant τ topic l hl =>
    obtain ⟨rfl, rfl⟩ := Prod.mk.inj (List.mem_singleton.mp hend)
    exact ⟨claim?_of_errand?_none hp.1, topic, l, .inr rfl, by simp, fun _ => ⟨rfl, hl⟩,
      by simp⟩
  | @welcomed τ topic l entry _ hfind hl hstate hmoves =>
    obtain ⟨rfl, rfl⟩ := Prod.mk.inj (List.mem_singleton.mp hend)
    refine ⟨(hmoves.claims σ).trans (claim?_of_errand?_none hp.1), topic, l, .inr rfl, ?_, by simp,
      by simp⟩
    exact fun _ => ⟨_, hmoves.entry.find?_self, hstate, Entry.mem_welcome.mpr (.inr rfl)⟩
  | @activated τ topic l names entry _ hclaim _ hfind hmoves =>
    obtain ⟨rfl, rfl⟩ := Prod.mk.inj (List.mem_singleton.mp hend)
    refine ⟨?_, topic, l, .inl ⟨_, hclaim, rfl, rfl⟩, ?_, by simp, by simp⟩
    · simp [hmoves.claims, settling, lacking]
    · obtain ⟨other, hother, _, hl⟩ := hh.opening σ topic l hclaim
      obtain rfl := Option.some.inj (hfind.symm.trans hother)
      exact fun _ => ⟨_, hmoves.entry.find?_self, rfl, hl⟩
  | @failed _ τ topic l entry error _ _ hclaim hfind hmoves =>
    obtain ⟨rfl, rfl⟩ := Prod.mk.inj (List.mem_singleton.mp hend)
    refine ⟨?_, topic, l, .inl ⟨_, hclaim, rfl, rfl⟩, by simp, by simp, ?_⟩
    · simp [hmoves.claims, settling, lacking]
    · rw [Topics.listeners_of_find?_none hmoves.entry.find?_self]
      exact fun _ _ => List.not_mem_nil
  | @accepted τ topic l serial gone _ hclaim hstays =>
    obtain ⟨rfl, rfl⟩ := Prod.mk.inj (List.mem_singleton.mp hend)
    refine ⟨(hstays.claims σ).trans (if_pos rfl), topic, l, .inl ⟨_, hclaim, rfl, rfl⟩, ?_, by simp,
      by simp⟩
    rcases hh.joining σ topic l serial .active gone hclaim with ⟨_, entry, hfind, _, hactive, hl⟩ |
      ⟨⟨_, hfailed⟩, _⟩
    · rw [hstays.topics]
      exact fun _ => ⟨entry, hfind, hactive, hl⟩
    · exact absurd hfailed (by simp)
  | @refused τ topic l serial message gone _ hclaim hstays =>
    obtain ⟨rfl, rfl⟩ := Prod.mk.inj (List.mem_singleton.mp hend)
    refine ⟨(hstays.claims σ).trans (if_pos rfl), topic, l, .inl ⟨_, hclaim, rfl, rfl⟩, by simp,
      by simp, ?_⟩
    rw [hstays.topics]
    rcases hh.joining σ topic l serial (.failed message) gone hclaim with
      ⟨_, entry, hfind, _, hstate, _⟩ | ⟨_, _, hl⟩
    · rcases (hh.sound.entry topic entry hfind).2 with hpending | hactive
      · exact absurd (hpending.symm.trans hstate) (by simp)
      · exact absurd (hactive.symm.trans hstate) (by simp)
    · exact fun _ _ => hl
  | calm | opened | joined | dropped | forgotten | left | absent =>
    exact absurd hend List.not_mem_nil

/-- What does not run before a turn, and does not begin with it, does not run after it and does not
end. -/
lemma Turn.quiet_of (hh : h.Coherent) (hp : h.Permits event)
    (hturn : h.Turn event ends h') (hnone : h.claim? τ = none)
    (hnew : ∀ topic k, event ≠ .subscribe τ topic k) :
    h'.claim? τ = none ∧ ∀ result, (τ, result) ∉ ends := by
  constructor
  · by_contra hsome
    obtain ⟨c, hc⟩ := Option.ne_none_iff_exists'.mp hsome
    rcases hturn.known hh hc with ⟨c₀, hc₀, _⟩ | hevent
    · exact absurd (hnone.symm.trans hc₀) (by simp)
    · exact hnew _ _ hevent
  · intro result hend
    obtain ⟨_, topic, k, ⟨c, hc, _⟩ | hevent, _⟩ := hturn.ending hh hp hend
    · exact absurd (hnone.symm.trans hc) (by simp)
    · exact hnew topic k hevent

/-- A listener that is new to a topic is being subscribed, or it gets the messages at once. -/
lemma Turn.of_subscribe (hturn : h.Turn (.subscribe τ topic l) ends h')
    (hnone : h.claim? τ = none) (hl : l ∉ h.topics.listeners topic) :
    (ends = [] ∧ ∃ c, h'.claim? τ = some c ∧ c.topic = topic ∧ c.listener = l) ∨
    (ends = [(τ, .ok true)] ∧ h'.claim? τ = none ∧ h'.topics.Holds topic l) := by
  cases hturn with
  | calm hcalm => exact absurd hcalm id
  | redundant hmem => exact absurd hmem hl
  | opened _ _ _ hclaims => exact .inl ⟨rfl, _, (hclaims τ).trans (if_pos rfl), rfl, rfl⟩
  | joined _ _ _ hmoves => exact .inl ⟨rfl, _, (hmoves.claims τ).trans (if_pos rfl), rfl, rfl⟩
  | welcomed _ _ hstate hmoves =>
    refine .inr ⟨rfl, (hmoves.claims τ).trans hnone, ?_⟩
    exact ⟨_, hmoves.entry.find?_self, hstate, Entry.mem_welcome.mpr (.inr rfl)⟩
  | failed hmoving => exact absurd hmoving (by simp [HubEvent.moves?])

/-- Who leaves a topic does not listen to it any more. -/
lemma Turn.of_unsubscribe (hturn : h.Turn (.unsubscribe τ topic l) ends h') :
    l ∉ h'.topics.listeners topic := by
  cases hturn with
  | calm hcalm => exact absurd hcalm id
  | failed hmoving => exact absurd hmoving (by simp [HubEvent.moves?])
  | left _ _ hmoves =>
    rw [Topics.mem_listeners, hmoves.entry.find?_self]
    rintro ⟨e', hnew, hmem⟩
    obtain rfl := Entry.without_eq_some hnew
    exact (Entry.mem_dismiss.mp hmem).2 rfl
  | absent hl => exact hl

/-- What is dropped does not run any more. -/
lemma Turn.of_drop (hturn : h.Turn (.drop τ) ends h') : h'.claim? τ = none := by
  cases hturn with
  | calm hcalm hstays => exact (hstays.claims τ).trans hcalm
  | failed hmoving => exact absurd hmoving (by simp [HubEvent.moves?])
  | dropped _ _ hmoves => simp [hmoves.claims, settling, lacking]
  | forgotten _ hstays => exact (hstays.claims τ).trans (if_pos rfl)

end Hub

end RunBoard.Realtime
