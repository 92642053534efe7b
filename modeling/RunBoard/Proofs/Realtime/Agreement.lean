import RunBoard.Proofs.Realtime.Audience

/-!
# Views and hub agree

A view whose batches are over listens to the topics of the runs that it has subscribed, and to no
others.  While a batch runs the two can differ, but only in runs of this batch: `Agrees` says how,
for one view and the hub.  It also follows each attempt, which is a claim of the hub until it ends.

What happens to the hub on behalf of others, or by itself, cannot break this: `Agrees.spared`.  The
three things that a view does to the hub, subscribing, dropping and leaving, have a lemma each.
From these `Audience.Sound.step` is put together.
-/

namespace RunBoard.Realtime

open Backend (runTopic)

lemma runTopic_inj {id j : RunId} : runTopic id = runTopic j ↔ id = j := by
  obtain ⟨a⟩ := id
  obtain ⟨b⟩ := j
  simp [runTopic]

variable {h h' : Hub} {n : Ticket} {l : Listener} {v : View} {owed : List RunId} {event : HubEvent}
  {effects : List Effect} {τ : Ticket} {id : RunId}

/-! ### What holds of an attempt -/

/-- What an attempt is for the hub: a claim as long as it has no result; then a success means that
the listener gets the messages of the run, and a failure that it does not listen to its topic. -/
def Attempt.Stands (h : Hub) (l : Listener) (t : Attempt) : Prop :=
  match t.result with
  | none => ∃ c, h.claim? t.ticket = some c ∧ c.topic = runTopic t.id ∧ c.listener = l
  | some (.ok _) => h.claim? t.ticket = none ∧ h.topics.Holds (runTopic t.id) l
  | some (.error _) => h.claim? t.ticket = none ∧ l ∉ h.topics.listeners (runTopic t.id)

/-- An attempt that runs goes on, or it ends with the result that the hub tells of. -/
lemma Attempt.stands_of_claim {ends : List Ending} {c : Claim} (hh : h.Coherent)
    (hp : h.Permits event) (hturn : h.Turn event ends h') (hc : h.claim? τ = some c)
    (htopic : c.topic = runTopic id) (hl : c.listener = l) (hdrop : event ≠ .drop τ) :
    (Attempt.hear ends ⟨id, τ, none⟩).Stands h' l := by
  rcases Attempt.hear_cases ends ⟨id, τ, none⟩ with ⟨result, hend, heq⟩ | ⟨hquiet, heq⟩
  · rw [heq]
    obtain ⟨hnone, topic, k, hwho, htrue, hfalse, herror⟩ := hturn.ending hh hp hend
    have hnew : ∀ topic k, event ≠ .subscribe τ topic k := by
      rintro topic k rfl
      exact absurd ((Hub.claim?_of_errand?_none hp.1).symm.trans hc) (by simp)
    obtain ⟨rfl, rfl⟩ : topic = runTopic id ∧ k = l := by
      rcases hwho with ⟨c', hc', htopic', hk⟩ | hevent
      · obtain rfl := Option.some.inj (hc.symm.trans hc')
        exact ⟨htopic'.symm.trans htopic, hk.symm.trans hl⟩
      · exact absurd hevent (hnew topic k)
    match result with
    | .ok true => exact ⟨hnone, htrue rfl⟩
    | .ok false => exact absurd (hfalse rfl).1 (hnew _ _)
    | .error error => exact ⟨hnone, herror error rfl⟩
  · rw [heq]
    rcases hturn.fate hh hp hc with ⟨c', hc', htopic', hl'⟩ | ⟨_, hdropped | ⟨result, hend⟩⟩
    · exact ⟨c', hc', htopic'.trans htopic, hl'.trans hl⟩
    · exact absurd hdropped hdrop
    · exact absurd hend (hquiet result)

/-- An attempt stands as long as its listener does nothing else on its topic and does not drop
it. -/
lemma Attempt.Stands.step {t : Attempt} {ends : List Ending} (hh : h.Coherent)
    (hp : h.Permits event) (hturn : h.Turn event ends h') (ht : t.Stands h l)
    (hbegins : event.begins? ≠ some t.ticket)
    (hsub : ∀ τ, event ≠ .subscribe τ (runTopic t.id) l)
    (hunsub : ∀ τ, event ≠ .unsubscribe τ (runTopic t.id) l)
    (hdrop : ∀ c, event = .drop t.ticket → h.claim? t.ticket = some c → c.listener ≠ l) :
    (t.hear ends).Stands h' l := by
  obtain ⟨id, σ, result⟩ := t
  have hnew : ∀ topic k, event ≠ .subscribe σ topic k := by
    rintro topic k rfl
    exact hbegins rfl
  -- an attempt with a result has ended, and hears of nothing more
  have hended : h.claim? σ = none →
      h'.claim? σ = none ∧ Attempt.hear ends ⟨id, σ, result⟩ = ⟨id, σ, result⟩ := by
    intro hnone
    obtain ⟨hnone', hquiet⟩ := hturn.quiet_of hh hp hnone hnew
    rcases Attempt.hear_cases ends ⟨id, σ, result⟩ with ⟨r, hend, _⟩ | ⟨_, heq⟩
    · exact absurd hend (hquiet r)
    · exact ⟨hnone', heq⟩
  match result with
  | none =>
    obtain ⟨c, hc, htopic, hl⟩ := ht
    exact Attempt.stands_of_claim hh hp hturn hc htopic hl fun hevent => hdrop c hevent hc hl
  | some (.ok b) =>
    obtain ⟨hnone, hholds⟩ := ht
    obtain ⟨hnone', heq⟩ := hended hnone
    rw [heq]
    exact ⟨hnone', hturn.holds hh hholds hunsub⟩
  | some (.error error) =>
    obtain ⟨hnone, habsent⟩ := ht
    obtain ⟨hnone', heq⟩ := hended hnone
    rw [heq]
    exact ⟨hnone', hturn.absent_of habsent hsub⟩

/-- A new attempt, for a run that its listener does not listen to. -/
lemma Attempt.stands_subscribe {ends : List Ending}
    (hturn : h.Turn (.subscribe τ (runTopic id) l) ends h') (hnone : h.claim? τ = none)
    (hl : l ∉ h.topics.listeners (runTopic id)) :
    (Attempt.hear ends ⟨id, τ, none⟩).Stands h' l := by
  rcases hturn.of_subscribe hnone hl with ⟨rfl, hc⟩ | ⟨rfl, hnone', hholds⟩
  · exact hc
  · have heq : Attempt.hear [(τ, .ok true)] ⟨id, τ, none⟩ = ⟨id, τ, some (.ok true)⟩ := by
      simp [Attempt.hear]
    rw [heq]
    exact ⟨hnone', hholds⟩

/-! ### What holds of a view -/

/-- `Agrees h n l v owed`: the view `v` of the listener `l` agrees with the hub, up to the runs of
`owed`, which the listener is still to leave.  Tickets from `n` on have not been used. -/
structure Agrees (h : Hub) (n : Ticket) (l : Listener) (v : View) (owed : List RunId) : Prop where
  holds : ∀ id ∈ v.live, h.topics.Holds (runTopic id) l
  listens : ∀ topic, l ∈ h.topics.listeners topic →
    ∃ id, topic = runTopic id ∧ (id ∈ v.live ∨ id ∈ v.touched ∨ id ∈ owed)
  attempts : ∀ t ∈ v.attempts, t.ticket < n ∧ t.id ∈ v.pending ∧ t.Stands h l
  claims : ∀ τ c, h.claim? τ = some c → c.listener = l →
    ∃ t ∈ v.attempts, t.ticket = τ ∧ c.topic = runTopic t.id

/-- `Spares h l event`: the event is nothing that a listener does to the hub. -/
structure Spares (h : Hub) (l : Listener) (event : HubEvent) : Prop where
  subscribe : ∀ τ topic, event ≠ .subscribe τ topic l
  unsubscribe : ∀ τ topic, event ≠ .unsubscribe τ topic l
  drop : ∀ τ c, event = .drop τ → h.claim? τ = some c → c.listener ≠ l

/-- What a listener has running after a turn is one of its attempts, or has begun with it. -/
lemma Agrees.claim_cases {ends : List Ending} {c : Claim} (hh : h.Coherent)
    (hv : Agrees h n l v owed) (hturn : h.Turn event ends h') (hc : h'.claim? τ = some c)
    (hl : c.listener = l) :
    (∃ t ∈ v.attempts, t.ticket = τ ∧ c.topic = runTopic t.id) ∨
      event = .subscribe τ c.topic l := by
  rcases hturn.known hh hc with ⟨c₀, hc₀, htopic, hl₀⟩ | hevent
  · obtain ⟨t, ht, hτ, hid⟩ := hv.claims τ c₀ hc₀ (hl₀.trans hl)
    exact .inl ⟨t, ht, hτ, htopic.symm.trans hid⟩
  · exact .inr (hl ▸ hevent)

/-- What others do, or the hub by itself, leaves a view in agreement. -/
lemma Agrees.spared (hh : h.Coherent) (hp : h.Permits event)
    (hturn : h.Turn event (endings effects) h') (hbegins : ∀ τ, event.begins? = some τ → τ = n)
    (hspares : Spares h l event) (hv : Agrees h n l v owed) :
    Agrees h' (n + 1) l (v.hear l effects) owed := by
  refine ⟨fun id hid => ?_, fun topic hl => ?_, fun t ht => ?_, fun τ c hc hl => ?_⟩
  · exact hturn.holds hh (hv.holds id hid) fun τ => hspares.unsubscribe τ _
  · rcases hturn.listens_of hl with hl | ⟨τ, hevent⟩
    · rw [View.hear_touched]
      exact hv.listens topic hl
    · exact absurd hevent (hspares.subscribe τ topic)
  · rw [View.hear_attempts] at ht
    obtain ⟨t, hmem, rfl⟩ := List.mem_map.mp ht
    obtain ⟨hlt, hpending, hstands⟩ := hv.attempts t hmem
    refine ⟨?_, by simpa using hpending, ?_⟩
    · rw [Attempt.hear_ticket]
      exact Nat.lt_succ_of_lt hlt
    · refine hstands.step hh hp hturn ?_ (fun τ => hspares.subscribe τ _)
        (fun τ => hspares.unsubscribe τ _) fun c => hspares.drop t.ticket c
      exact fun hnew => Nat.ne_of_lt hlt (hbegins _ hnew)
  · rw [View.hear_attempts]
    rcases hv.claim_cases hh hturn hc hl with ⟨t, hmem, hτ, hid⟩ | hevent
    · exact ⟨_, List.mem_map_of_mem hmem, by simpa using hτ, by simpa using hid⟩
    · exact absurd hevent (hspares.subscribe τ _)

/-! ### What a view does to the hub -/

variable {live live' : Subscriptions} {b : Batch}

/-- A view has no subscription running on a topic that it has not attempted. -/
lemma Agrees.not_subscribing (hh : h.Coherent) (hv : Agrees h n l v owed)
    (hnew : ∀ t ∈ v.attempts, t.id ≠ id) : ¬ h.Subscribing (runTopic id) l := by
  rw [Hub.subscribing_iff hh.nodup]
  rintro ⟨τ, c, hc, htopic, hl⟩
  obtain ⟨t, ht, _, htopic'⟩ := hv.claims τ c hc hl
  exact hnew t ht (runTopic_inj.mp (htopic'.symm.trans htopic))

/-- A view does not listen to a topic that it lacks. -/
lemma Agrees.absent_of_lacks (hv : Agrees h n l ⟨live, some b⟩ []) (hlacks : b.Lacks live id) :
    l ∉ h.topics.listeners (runTopic id) := by
  obtain ⟨hgoing, hmissing, hnew⟩ := hlacks
  intro hl
  obtain ⟨j, htopic, hj⟩ := hv.listens _ hl
  obtain rfl := runTopic_inj.mp htopic
  rcases hj with hlive | htouched | howed
  · exact (Subscriptions.mem_missing.mp hmissing).2 hlive
  · have hattempted : id ∈ b.attempts.map Attempt.id := by
      simpa [View.touched, hgoing] using htouched
    obtain ⟨t, ht, hid⟩ := List.mem_map.mp hattempted
    exact hnew t ht hid
  · exact absurd howed List.not_mem_nil

/-- A batch puts a subscription to the hub. -/
lemma Agrees.attempted (hh : h.Coherent) (hnone : h.errand? n = none)
    (hturn : h.Turn (.subscribe n (runTopic id) l) (endings effects) h') (hlacks : b.Lacks live id)
    (hv : Agrees h n l ⟨live, some b⟩ []) :
    Agrees h' (n + 1) l (View.hear l effects ⟨live, some (b.add id n)⟩) [] := by
  obtain ⟨hgoing, hmissing, hnew⟩ := hlacks
  have hp : h.Permits (.subscribe n (runTopic id) l) := ⟨hnone, hv.not_subscribing hh hnew⟩
  have htouched : ∀ j, j ∈ (View.touched ⟨live, some (b.add id n)⟩) ↔
      j ∈ (View.touched ⟨live, some b⟩) ∨ j = id := by
    intro j
    simp [View.touched, Batch.add, hgoing]
  refine ⟨fun j hj => ?_, fun topic hl => ?_, fun t ht => ?_, fun τ c hc hl => ?_⟩
  · exact hturn.holds hh (hv.holds j hj) fun τ => by simp
  · rw [View.hear_touched]
    rcases hturn.listens_of hl with hl | ⟨τ, hevent⟩
    · obtain ⟨j, htopic, hj | hj | hj⟩ := hv.listens topic hl
      · exact ⟨j, htopic, .inl hj⟩
      · exact ⟨j, htopic, .inr (.inl ((htouched j).mpr (.inl hj)))⟩
      · exact ⟨j, htopic, .inr (.inr hj)⟩
    · obtain ⟨_, rfl, _⟩ := HubEvent.subscribe.inj hevent
      exact ⟨id, rfl, .inr (.inl ((htouched id).mpr (.inr rfl)))⟩
  · rw [View.hear_attempts] at ht
    obtain ⟨t, hmem, rfl⟩ := List.mem_map.mp ht
    rw [View.hear_pending, Attempt.hear_ticket, Attempt.hear_id]
    -- the attempts before, and the new one
    rcases List.mem_append.mp hmem with hold | hlast
    · obtain ⟨hlt, hpending, hstands⟩ := hv.attempts t hold
      refine ⟨Nat.lt_succ_of_lt hlt, hpending, ?_⟩
      refine hstands.step hh hp hturn ?_ (fun τ hevent => ?_) (fun τ => by simp) fun c => by simp
      · exact fun heq => Nat.ne_of_lt hlt (Option.some.inj heq).symm
      · exact hnew t hold (runTopic_inj.mp (HubEvent.subscribe.inj hevent).2.1).symm
    · obtain rfl := List.mem_singleton.mp hlast
      refine ⟨Nat.lt_succ_self n, hmissing, ?_⟩
      exact Attempt.stands_subscribe hturn (Hub.claim?_of_errand?_none hnone)
        (hv.absent_of_lacks ⟨hgoing, hmissing, hnew⟩)
  · rw [View.hear_attempts]
    rcases hv.claim_cases hh hturn hc hl with ⟨t, hmem, hτ, hid⟩ | hevent
    · exact ⟨_, List.mem_map_of_mem (List.mem_append_left _ hmem), by simpa using hτ,
        by simpa using hid⟩
    · obtain ⟨rfl, htopic, _⟩ := HubEvent.subscribe.inj hevent
      exact ⟨_, List.mem_map_of_mem (List.mem_append_right _ (List.mem_singleton_self _)), by simp,
        by simpa using htopic.symm⟩

/-- A batch that has been given up drops an attempt. -/
lemma Agrees.abandoned (hh : h.Coherent) (hturn : h.Turn (.drop τ) (endings effects) h')
    (hgivenUp : b.givenUp = true) (hv : Agrees h n l ⟨live, some b⟩ []) :
    Agrees h' (n + 1) l (View.hear l effects ⟨live, some (b.remove τ)⟩) [] := by
  have hp : h.Permits (.drop τ) := trivial
  refine ⟨fun j hj => ?_, fun topic hl => ?_, fun t ht => ?_, fun σ c hc hl => ?_⟩
  · exact hturn.holds hh (hv.holds j hj) fun τ => by simp
  · rw [View.hear_touched]
    rcases hturn.listens_of hl with hl | ⟨τ, hevent⟩
    · simpa [View.touched, Batch.remove, hgivenUp] using hv.listens topic hl
    · exact absurd hevent (by simp)
  · rw [View.hear_attempts] at ht
    obtain ⟨t, hmem, rfl⟩ := List.mem_map.mp ht
    obtain ⟨hold, hne⟩ := List.mem_filter.mp hmem
    obtain ⟨hlt, hpending, hstands⟩ := hv.attempts t hold
    rw [View.hear_pending, Attempt.hear_ticket, Attempt.hear_id]
    refine ⟨Nat.lt_succ_of_lt hlt, hpending, ?_⟩
    refine hstands.step hh hp hturn (by simp [HubEvent.begins?]) (fun τ => by simp)
      (fun τ => by simp) fun c hdrop => ?_
    exact absurd (HubEvent.drop.inj hdrop).symm (by simpa using hne)
  · rw [View.hear_attempts]
    have hne : σ ≠ τ := by
      rintro rfl
      exact absurd (hturn.of_drop.symm.trans hc) (by simp)
    rcases hv.claim_cases hh hturn hc hl with ⟨t, hmem, hσ, hid⟩ | hevent
    · have hkept : t ∈ (b.remove τ).attempts :=
        List.mem_filter.mpr ⟨hmem, by simpa [hσ] using hne⟩
      exact ⟨_, List.mem_map_of_mem hkept, by simpa using hσ, by simpa using hid⟩
    · exact absurd hevent (by simp)

/-- A view without a batch leaves the topic of a run that it does not have. -/
lemma Agrees.left (hh : h.Coherent) (hp : h.Permits (.unsubscribe n (runTopic id) l))
    (hturn : h.Turn (.unsubscribe n (runTopic id) l) (endings effects) h') (hid : id ∉ live)
    (hv : Agrees h n l ⟨live, none⟩ (id :: owed)) :
    Agrees h' (n + 1) l (View.hear l effects ⟨live, none⟩) owed := by
  refine ⟨fun j hj => ?_, fun topic hl => ?_, fun t ht => absurd ht List.not_mem_nil,
    fun τ c hc hl => ?_⟩
  · refine hturn.holds hh (hv.holds j hj) fun τ hevent => ?_
    obtain rfl := runTopic_inj.mp (HubEvent.unsubscribe.inj hevent).2.1
    exact hid hj
  · rcases hturn.listens_of hl with hl' | ⟨τ, hevent⟩
    · obtain ⟨j, rfl, hj | hj | hj⟩ := hv.listens topic hl'
      · exact ⟨j, rfl, .inl hj⟩
      · exact absurd hj List.not_mem_nil
      · rcases List.mem_cons.mp hj with rfl | hj
        · exact absurd hl hturn.of_unsubscribe
        · exact ⟨j, rfl, .inr (.inr hj)⟩
    · exact absurd hevent (by simp)
  · rcases hv.claim_cases hh hturn hc hl with ⟨t, ht, _⟩ | hevent
    · exact absurd ht List.not_mem_nil
    · exact absurd hevent (by simp)

/-! ### What a view does by itself -/

/-- A view begins a batch. -/
lemma Agrees.wanting {wanted : List RunId} (hv : Agrees h n l ⟨live, none⟩ []) :
    Agrees h n l ⟨live, some ⟨wanted, [], false⟩⟩ [] :=
  ⟨hv.holds, hv.listens, fun _ ht => absurd ht List.not_mem_nil, hv.claims⟩

/-- A batch is given up: from then on it answers for all its runs. -/
lemma Agrees.givingUp (hv : Agrees h n l ⟨live, some b⟩ []) :
    Agrees h n l ⟨live, some { b with givenUp := true }⟩ [] := by
  refine ⟨hv.holds, fun topic hl => ?_, hv.attempts, hv.claims⟩
  obtain ⟨id, htopic, hid | htouched | howed⟩ := hv.listens topic hl
  · exact ⟨id, htopic, .inl hid⟩
  · refine ⟨id, htopic, .inr (.inl ?_)⟩
    simp only [View.touched, if_true] at htouched ⊢
    split at htouched
    · exact htouched
    · obtain ⟨t, ht, rfl⟩ := List.mem_map.mp htouched
      exact (hv.attempts t ht).2.1
  · exact ⟨id, htopic, .inr (.inr howed)⟩

/-- The result of a run in a batch that is answered is that of one of its attempts. -/
lemma Batch.Answered.resultOf (hb : b.Answered live) (hid : id ∈ live.missing b.wanted) :
    ∃ t ∈ b.attempts, t.id = id ∧ t.result = some (b.resultOf id) := by
  obtain ⟨_, hended, hall⟩ := hb
  obtain ⟨t₀, ht₀, hid₀⟩ := hall id hid
  have hfound : (b.attempts.find? (·.id == id)).isSome :=
    List.find?_isSome.mpr ⟨t₀, ht₀, by simpa using hid₀⟩
  obtain ⟨t, hfind⟩ := Option.isSome_iff_exists.mp hfound
  have ht : t ∈ b.attempts := List.mem_of_find?_eq_some hfind
  obtain ⟨result, hresult⟩ := Option.isSome_iff_exists.mp (hended t ht)
  refine ⟨t, ht, by simpa using List.find?_some hfind, ?_⟩
  simp [Batch.resultOf, hfind, hresult]

/-- A batch takes in its results. -/
lemma Agrees.settled (hb : b.Answered live) (hv : Agrees h n l ⟨live, some b⟩ [])
    (hlive : ∀ id, id ∈ live' ↔ id ∈ live ∨ id ∈ live.missing b.wanted ∧ (b.resultOf id).isOk) :
    Agrees h n l ⟨live', none⟩ [] := by
  -- the results of the batch tell who listens to what
  have hended : ∀ id ∈ live.missing b.wanted,
      (b.resultOf id).isOk ∧ h.topics.Holds (runTopic id) l ∨
      ¬ (b.resultOf id).isOk ∧ l ∉ h.topics.listeners (runTopic id) := by
    intro id hid
    obtain ⟨t, ht, rfl, hresult⟩ := hb.resultOf hid
    have hstands := (hv.attempts t ht).2.2
    unfold Attempt.Stands at hstands
    rw [hresult] at hstands
    cases hr : b.resultOf t.id with
    | ok =>
      rw [hr] at hstands
      exact .inl ⟨rfl, hstands.2⟩
    | error =>
      rw [hr] at hstands
      exact .inr ⟨by simp [Except.isOk, Except.toBool], hstands.2⟩
  refine ⟨fun id hid => ?_, fun topic hl => ?_, fun t ht => absurd ht List.not_mem_nil,
    fun τ c hc hl => ?_⟩
  · rcases (hlive id).mp hid with hold | ⟨hmissing, hok⟩
    · exact hv.holds id hold
    · rcases hended id hmissing with ⟨_, hholds⟩ | ⟨hfailed, _⟩
      · exact hholds
      · exact absurd hok hfailed
  · obtain ⟨id, rfl, hid | htouched | howed⟩ := hv.listens topic hl
    · exact ⟨id, rfl, .inl ((hlive id).mpr (.inl hid))⟩
    · have hattempted : id ∈ b.attempts.map Attempt.id := by
        simpa [View.touched, hb.1] using htouched
      obtain ⟨t, ht, rfl⟩ := List.mem_map.mp hattempted
      have hmissing : t.id ∈ live.missing b.wanted := (hv.attempts t ht).2.1
      rcases hended t.id hmissing with ⟨hok, _⟩ | ⟨_, habsent⟩
      · exact ⟨t.id, rfl, .inl ((hlive t.id).mpr (.inr ⟨hmissing, hok⟩))⟩
      · exact absurd hl habsent
    · exact absurd howed List.not_mem_nil
  · -- an attempt that has ended has no claim
    obtain ⟨t, ht, rfl, _⟩ := hv.claims τ c hc hl
    obtain ⟨result, hresult⟩ := Option.isSome_iff_exists.mp (hb.2.1 t ht)
    have hstands := (hv.attempts t ht).2.2
    unfold Attempt.Stands at hstands
    rw [hresult] at hstands
    cases result <;> exact absurd (hstands.1.symm.trans hc) (by simp)

/-- A batch that has been given up, with its attempts, is over; its runs are still to be left. -/
lemma Agrees.withdrawn (hb : b.Deserted) (hv : Agrees h n l ⟨live, some b⟩ [])
    (hlive : ∀ id, id ∈ live' ↔ id ∈ live) :
    Agrees h n l ⟨live', none⟩ (live.missing b.wanted) := by
  have hnil : b.attempts = [] := List.isEmpty_iff.mp hb.2
  refine ⟨fun id hid => hv.holds id ((hlive id).mp hid), fun topic hl => ?_,
    fun t ht => absurd ht List.not_mem_nil, fun τ c hc hl => ?_⟩
  · obtain ⟨id, rfl, hid | htouched | howed⟩ := hv.listens topic hl
    · exact ⟨id, rfl, .inl ((hlive id).mpr hid)⟩
    · exact ⟨id, rfl, .inr (.inr (by simpa [View.touched, hb.1] using htouched))⟩
    · exact absurd howed List.not_mem_nil
  · obtain ⟨t, ht, _⟩ := hv.claims τ c hc hl
    have hmem : t ∈ b.attempts := ht
    exact absurd hmem (by simp [hnil])

/-- A view without a batch gives up runs; those are still to be left. -/
lemma Agrees.released (hv : Agrees h n l ⟨live, none⟩ [])
    (hsub : ∀ id, id ∈ live' → id ∈ live) (howed : ∀ id ∈ live, id ∈ live' ∨ id ∈ owed) :
    Agrees h n l ⟨live', none⟩ owed := by
  refine ⟨fun id hid => hv.holds id (hsub id hid), fun topic hl => ?_,
    fun t ht => absurd ht List.not_mem_nil, hv.claims⟩
  obtain ⟨id, rfl, hid | htouched | hnone⟩ := hv.listens topic hl
  · rcases howed id hid with hid | hid
    · exact ⟨id, rfl, .inl hid⟩
    · exact ⟨id, rfl, .inr (.inr hid)⟩
  · exact absurd htouched List.not_mem_nil
  · exact absurd hnone List.not_mem_nil

/-! ### Audiences -/

namespace Audience

variable {a : Audience} {k : Listener}

/-- All views agree with the hub; the one of a listener is still to leave some runs. -/
structure Sound (a : Audience) (l : Listener) (owed : List RunId) : Prop where
  coherent : a.hub.Coherent
  tickets : ∀ τ ∈ a.hub.tickets, τ < a.next
  own : Agrees a.hub a.next l (a.views l) owed
  others : ∀ k ≠ l, Agrees a.hub a.next k (a.views k) []

lemma Sound.agrees (ha : a.Sound l []) (k : Listener) : Agrees a.hub a.next k (a.views k) [] := by
  by_cases hk : k = l
  · exact hk ▸ ha.own
  · exact ha.others k hk

/-- If nothing is owed, it does not matter by whom. -/
lemma Sound.turn (ha : a.Sound l []) (k : Listener) : a.Sound k [] :=
  ⟨ha.coherent, ha.tickets, ha.agrees k, fun j _ => ha.agrees j⟩

lemma Sound.errand?_next (ha : a.Sound l owed) : a.hub.errand? a.next = none := by
  by_contra hsome
  exact Nat.lt_irrefl _ (ha.tickets _ (Hub.mem_tickets.mpr hsome))

lemma sound_new (patience : Nat) (l : Listener) : (new patience).Sound l [] := by
  have hview : ∀ k, Agrees (Hub.new patience) 0 k ⟨.empty, none⟩ [] := fun k =>
    ⟨fun _ hid => absurd hid (Subscriptions.not_mem_empty _),
      fun _ hl => absurd hl List.not_mem_nil, fun _ ht => absurd ht List.not_mem_nil,
      fun _ _ hc => absurd hc (by simp [Hub.claim?, Hub.errand?, Hub.new])⟩
  exact ⟨Hub.coherent_new patience, fun _ hτ => absurd hτ List.not_mem_nil, hview l,
    fun k _ => hview k⟩

@[simp] lemma put_views_self : (a.put l v).views l = v := Function.update_self ..

lemma put_views_of_ne (hk : k ≠ l) : (a.put l v).views k = a.views k := Function.update_of_ne hk ..

lemma put_self : a.put l (a.views l) = a := by
  unfold put
  rw [Function.update_eq_self]

/-- A view may change on its own, as long as it agrees with the hub. -/
lemma Sound.put {owed' : List RunId} (ha : a.Sound l owed)
    (hown : Agrees a.hub a.next l v owed') : (a.put l v).Sound l owed' := by
  refine ⟨ha.coherent, ha.tickets, ?_, fun k hk => ?_⟩
  · rw [put_views_self]
    exact hown
  · rw [put_views_of_ne hk]
    exact ha.others k hk

/-- What one view does to the hub is nothing to the others. -/
lemma Sound.perform {owed' : List RunId} (ha : a.Sound l owed) (hp : a.hub.Permits event)
    (hbegins : ∀ τ, event.begins? = some τ → τ = a.next)
    (hspares : ∀ k ≠ l, Spares a.hub k event)
    (hown : a.hub.Turn event (endings (a.hub.step event).2) (a.hub.step event).1 →
      Agrees (a.hub.step event).1 (a.next + 1) l (v.hear l (a.hub.step event).2) owed') :
    ((a.put l v).perform event).Sound l owed' := by
  have hturn := Hub.turn_step ha.coherent hp
  refine ⟨ha.coherent.step hp, fun τ hτ => ?_, ?_, fun k hk => ?_⟩
  · rcases (Hub.frame_step a.hub event).tickets τ hτ with hnew | hold
    · rw [hbegins τ hnew]
      exact Nat.lt_succ_self _
    · exact Nat.lt_succ_of_lt (ha.tickets τ hold)
  · show Agrees _ _ l (View.hear l _ ((a.put l v).views l)) owed'
    rw [put_views_self]
    exact hown hturn
  · show Agrees _ _ k (View.hear k _ ((a.put l v).views k)) []
    rw [put_views_of_ne hk]
    exact (ha.others k hk).spared ha.coherent hp hturn hbegins (hspares k hk)

/-- What no view does to the hub. -/
lemma Sound.outside (ha : a.Sound l []) (hp : a.hub.Permits event)
    (hbegins : ∀ τ, event.begins? = some τ → τ = a.next) (hspares : ∀ k, Spares a.hub k event) :
    (a.perform event).Sound l [] := by
  have hsound : ((a.put l (a.views l)).perform event).Sound l [] :=
    ha.perform hp hbegins (fun k _ => hspares k) fun hturn =>
      ha.own.spared ha.coherent hp hturn hbegins (hspares l)
  rwa [put_self] at hsound

/-- A view without a batch leaves the runs that it owes, one after the other. -/
lemma Sound.leaves (ha : a.Sound l owed) (hidle : (a.views l).batch = none)
    (hfree : ∀ id ∈ owed, id ∉ (a.views l).live) :
    ((owed.map .unsubscribe).foldl (tell l) a).Sound l [] := by
  induction owed generalizing a with
  | nil => exact ha
  | cons id owed ih =>
    rcases hview : a.views l with ⟨live, batch⟩
    obtain rfl : batch = none := by simpa [hview] using hidle
    rw [hview] at hfree
    have hown := ha.own
    rw [hview] at hown
    have hp : a.hub.Permits (.unsubscribe a.next (runTopic id) l) :=
      ⟨ha.errand?_next, hown.not_subscribing ha.coherent fun t ht => absurd ht List.not_mem_nil⟩
    have hsound : ((a.put l (a.views l)).perform
        (.unsubscribe a.next (runTopic id) l)).Sound l owed := by
      refine ha.perform hp (fun τ h => (Option.some.inj h).symm)
        (fun k hk => ⟨by simp, fun τ topic h => hk (HubEvent.unsubscribe.inj h).2.2.symm, by simp⟩)
        fun hturn => ?_
      rw [hview]
      exact hown.left ha.coherent hp hturn (hfree id List.mem_cons_self)
    rw [put_self] at hsound
    refine ih hsound ?_ fun j hj => ?_
    · simp [tell, Audience.perform, View.hear, hview]
    · simp only [tell, Audience.perform, View.mem_hear_live, hview]
      exact hfree j (List.mem_cons_of_mem _ hj)

/-- A view carries out a task and leaves the runs that it gives up. -/
lemma Sound.carry {α : Type} {task : BoardTask (Subscriptions × α)}
    {result : Option (RunId → Except RequestError Bool)} {log : BoardLog} {live : Subscriptions}
    {x : α} (ha : a.Sound l []) (hplay : task.play (answerBatch result) = (log, live, x))
    (htold : Task.told log = owed.map .unsubscribe) (hown : Agrees a.hub a.next l ⟨live, none⟩ owed)
    (hfree : ∀ id ∈ owed, id ∉ live) : (a.carry l task result).Sound l [] := by
  have hcarry : a.carry l task result =
      (owed.map .unsubscribe).foldl (tell l) (a.put l ⟨live, none⟩) := by
    unfold Audience.carry
    rw [hplay, ← htold]
  rw [hcarry]
  refine (ha.put hown).leaves ?_ ?_
  · rw [put_views_self]
  · rw [put_views_self]
    exact hfree

/-! ### What each event does to an audience -/

variable {live : Subscriptions} {b : Batch}

lemma Sound.settles (ha : a.Sound l []) (hview : a.views l = ⟨live, some b⟩)
    (hb : b.Answered live) :
    (a.carry l (live.subscribeAll b.wanted) (some b.resultOf)).Sound l [] := by
  rcases hplay : (live.subscribeAll b.wanted).play (answerBatch (some b.resultOf)) with
    ⟨log, live', outcome⟩
  obtain ⟨htold, hlive⟩ := play_answered hplay
  have hquiet : Task.told log = ([] : List RunId).map .unsubscribe := htold
  have hown := hview ▸ ha.own
  exact ha.carry hplay hquiet (hown.settled hb hlive) fun _ hid => absurd hid List.not_mem_nil

lemma Sound.withdraws (ha : a.Sound l []) (hview : a.views l = ⟨live, some b⟩)
    (hb : b.Deserted) : (a.carry l (live.subscribeAll b.wanted) none).Sound l [] := by
  rcases hplay : (live.subscribeAll b.wanted).play (answerBatch none) with ⟨log, live', outcome⟩
  obtain ⟨htold, hlive⟩ := play_givenUp hplay
  have hown := hview ▸ ha.own
  refine ha.carry hplay htold (hown.withdrawn hb hlive) fun id hid hmem => ?_
  exact (Subscriptions.mem_missing.mp hid).2 ((hlive id).mp hmem)

lemma Sound.releases (ha : a.Sound l []) (hview : a.views l = ⟨live, none⟩) :
    (a.carry l (live.release id) none).Sound l [] := by
  rcases hplay : (live.release id).play (answerBatch none) with ⟨log, live', was⟩
  obtain ⟨htold, hlive⟩ := play_release hplay
  have hown := hview ▸ ha.own
  refine ha.carry hplay htold (hown.released (fun j hj => ((hlive j).mp hj).1) fun j hj => ?_)
    fun j hj hmem => ?_
  · by_cases hid : j = id
    · subst hid
      exact .inr (by simp [hj])
    · exact .inl ((hlive j).mpr ⟨hj, hid⟩)
  · split at hj
    · exact ((hlive j).mp hmem).2 (List.mem_singleton.mp hj)
    · exact absurd hj List.not_mem_nil

lemma Sound.releasesAll (ha : a.Sound l []) (hview : a.views l = ⟨live, none⟩) :
    (a.carry l live.releaseAll none).Sound l [] := by
  rcases hplay : live.releaseAll.play (answerBatch none) with ⟨log, live', count⟩
  obtain ⟨htold, hlive⟩ := play_releaseAll hplay
  have hown := hview ▸ ha.own
  refine ha.carry hplay htold (hown.released (fun j hj => absurd hj (hlive j)) fun j hj => .inr hj)
    fun j _ => hlive j

lemma Sound.attempts (ha : a.Sound l []) (hview : a.views l = ⟨live, some b⟩)
    (hlacks : b.Lacks live id) :
    ((a.put l ⟨live, some (b.add id a.next)⟩).perform
      (.subscribe a.next (runTopic id) l)).Sound l [] := by
  have hown := hview ▸ ha.own
  have hfree : ¬ a.hub.Subscribing (runTopic id) l :=
    hown.not_subscribing ha.coherent hlacks.2.2
  refine ha.perform ⟨ha.errand?_next, hfree⟩ (fun τ h => (Option.some.inj h).symm) ?_
    fun hturn => ?_
  · exact fun k hk => ⟨fun τ topic h => hk (HubEvent.subscribe.inj h).2.2.symm, by simp, by simp⟩
  · exact hown.attempted ha.coherent ha.errand?_next hturn hlacks

lemma Sound.abandons (ha : a.Sound l []) (hview : a.views l = ⟨live, some b⟩)
    (hgivenUp : b.givenUp = true) (hτ : ∃ t ∈ b.attempts, t.ticket = τ) :
    ((a.put l ⟨live, some (b.remove τ)⟩).perform (.drop τ)).Sound l [] := by
  have hown := hview ▸ ha.own
  refine ha.perform trivial (by simp [HubEvent.begins?]) (fun k hk => ⟨by simp, by simp, ?_⟩)
    fun hturn => hown.abandoned ha.coherent hturn hgivenUp
  -- what runs under the ticket of an attempt is the attempt
  rintro σ c hevent hc rfl
  obtain rfl := HubEvent.drop.inj hevent
  obtain ⟨t, ht, rfl⟩ := hτ
  have hstands := (hown.attempts t ht).2.2
  unfold Attempt.Stands at hstands
  match hresult : t.result with
  | none =>
    rw [hresult] at hstands
    obtain ⟨c', hc', _, hl⟩ := hstands
    obtain rfl := Option.some.inj (hc.symm.trans hc')
    exact hk hl
  | some (.ok _) | some (.error _) =>
    rw [hresult] at hstands
    exact absurd (hc.symm.trans hstands.1) (by simp)

lemma Sound.stepBatch (ha : a.Sound l []) (hview : a.views l = ⟨live, some b⟩)
    (event : BatchEvent) : (a.stepBatch l live b event).Sound l [] := by
  cases event with
  | attempt id =>
    simp only [Audience.stepBatch]
    split
    · rename_i hlacks
      exact ha.attempts hview hlacks
    · exact ha
  | settle =>
    simp only [Audience.stepBatch]
    split
    · rename_i hb
      exact ha.settles hview hb
    · exact ha
  | giveUp => exact ha.put (hview ▸ ha.own).givingUp
  | abandon τ =>
    simp only [Audience.stepBatch]
    split
    · rename_i hτ
      exact ha.abandons hview hτ.1 hτ.2
    · exact ha
  | withdraw =>
    simp only [Audience.stepBatch]
    split
    · rename_i hb
      exact ha.withdraws hview hb
    · exact ha

/-- Whatever happens, all views agree with the hub. -/
theorem Sound.step (ha : a.Sound l []) (event : AudienceEvent) : (a.step event).Sound l [] := by
  cases event with
  | want k wanted =>
    simp only [Audience.step]
    split
    · rename_i live hview
      exact ((ha.turn k).put (hview ▸ ha.agrees k).wanting).turn l
    · exact ha
  | batch k event =>
    simp only [Audience.step]
    split
    · exact ha
    · rename_i live b hview
      exact ((ha.turn k).stepBatch hview event).turn l
  | release k id =>
    simp only [Audience.step]
    split
    · rename_i live hview
      exact ((ha.turn k).releases hview).turn l
    · exact ha
  | releaseAll k =>
    simp only [Audience.step]
    split
    · rename_i live hview
      exact ((ha.turn k).releasesAll hview).turn l
    · exact ha
  | message name data =>
    exact ha.outside ha.errand?_next (fun τ h => (Option.some.inj h).symm) fun k =>
      ⟨by simp, by simp, by simp⟩
  | resume | expire | posted | lost | ended =>
    exact ha.outside trivial (by simp [HubEvent.begins?]) fun k => ⟨by simp, by simp, by simp⟩

lemma Sound.run (ha : a.Sound l []) (events : List AudienceEvent) : (a.run events).Sound l [] := by
  induction events generalizing a with
  | nil => exact ha
  | cons event events ih => exact ih (ha.step event)

/-- A view without a batch listens to the topics of its runs and to no others. -/
lemma Sound.listens_iff (ha : a.Sound l []) (hidle : (a.views l).batch = none) {topic : String} :
    l ∈ a.hub.topics.listeners topic ↔ ∃ id ∈ (a.views l).live, topic = runTopic id := by
  constructor
  · intro hl
    obtain ⟨id, htopic, hid | htouched | howed⟩ := ha.own.listens topic hl
    · exact ⟨id, hid, htopic⟩
    · exact absurd htouched (by simp [View.touched, hidle])
    · exact absurd howed List.not_mem_nil
  · rintro ⟨id, hid, rfl⟩
    exact (ha.own.holds id hid).mem

lemma mem_deliver {name data : String} {patch : Patch}
    (hdecode : Json.decodeText Patch.decode data = .ok patch) :
    .deliver l patch ∈ h.deliver name data ↔ l ∈ h.topics.listeners name := by
  unfold Hub.deliver
  cases h.topics.listeners name with
  | nil => simp
  | cons k listeners => simp [hdecode]

/-- **Views and hub agree.**  Any number of views may share a hub, and whatever they, the connection
and the backend do, in any order: a view that has no batch running is registered on the topic of a
run if and only if it has subscribed the run, and it is registered on nothing else.  The backend has
been told of all runs that the view has subscribed, and the hub delivers the patches of these runs,
and only of these, to the view. -/
theorem registered_iff_subscribed (patience : Nat) (events : List AudienceEvent) (l : Listener)
    (hidle : (((new patience).run events).views l).batch = none) :
    let a := (new patience).run events
    (∀ id, l ∈ a.hub.topics.listeners (runTopic id) ↔ id ∈ (a.views l).live) ∧
    (∀ topic, l ∈ a.hub.topics.listeners topic → ∃ id ∈ (a.views l).live, topic = runTopic id) ∧
    (∀ id ∈ (a.views l).live, a.hub.topics.Holds (runTopic id) l) ∧
    ∀ id data patch, Json.decodeText Patch.decode data = .ok patch →
      (.deliver l patch ∈ a.hub.deliver (runTopic id) data ↔ id ∈ (a.views l).live) := by
  intro a
  have ha : a.Sound l [] := (sound_new patience l).run events
  have hiff : ∀ id, l ∈ a.hub.topics.listeners (runTopic id) ↔ id ∈ (a.views l).live := by
    intro id
    rw [ha.listens_iff hidle]
    constructor
    · rintro ⟨j, hj, htopic⟩
      exact runTopic_inj.mp htopic ▸ hj
    · exact fun hid => ⟨id, hid, rfl⟩
  refine ⟨hiff, fun topic hl => (ha.listens_iff hidle).mp hl, ha.own.holds, ?_⟩
  intro id data patch hdecode
  rw [mem_deliver hdecode]
  exact hiff id

/-- Two views want a run, and one of them another one as well.  The first post succeeds, so that
both have the run, and the second one fails. -/
def sharedRun : List AudienceEvent :=
  [.want ⟨0⟩ [⟨"a"⟩], .batch ⟨0⟩ (.attempt ⟨"a"⟩), .want ⟨1⟩ [⟨"a"⟩, ⟨"b"⟩],
    .batch ⟨1⟩ (.attempt ⟨"a"⟩), .batch ⟨1⟩ (.attempt ⟨"b"⟩),
    .message "PB_CONNECT" "\x7b\"clientId\":\"c\"\x7d", .posted 3 (.ok ()), .resume 0,
    .posted 0 (.ok ()), .resume 1, .resume 2, .posted 2 (.error (.realtime "refused")),
    .batch ⟨0⟩ .settle, .batch ⟨1⟩ .settle]

theorem registered_iff_subscribed_of_sharedRun :
    let a := (new 5000).run sharedRun
    (a.views ⟨1⟩).batch = none ∧ ⟨1⟩ ∈ a.hub.topics.listeners (runTopic ⟨"a"⟩) ∧
      ⟨1⟩ ∉ a.hub.topics.listeners (runTopic ⟨"b"⟩) := by
  have hidle : (((new 5000).run sharedRun).views ⟨1⟩).batch = none :=
    Option.isNone_iff_eq_none.mp (by decide +kernel)
  have hiff := (registered_iff_subscribed 5000 sharedRun ⟨1⟩ hidle).1
  refine ⟨hidle, (hiff ⟨"a"⟩).mpr (by decide +kernel), fun hl => ?_⟩
  exact absurd ((hiff ⟨"b"⟩).mp hl) (by decide +kernel)

end Audience

end RunBoard.Realtime
