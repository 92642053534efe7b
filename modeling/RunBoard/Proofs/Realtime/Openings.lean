import RunBoard.Proofs.Realtime.Editing

/-!
# Which entry an opening settles

An opening goes by the name of its topic.  When it succeeds, the entry of the topic becomes active,
and when it fails or is dropped, the entry goes, whichever entry this is by then.  The serial number
of the entry that the opening has made tells whether it is that one: it is as long as the topic has
had listeners without a break (`owns_iff_held`).

A listener that leaves a topic while its own opening is still running can bring about a break.  If
nobody does that, an opening settles its own entry.
-/

namespace RunBoard.Realtime

namespace Topics

variable {t t' : Topics} {x : String} {serial : Nat}

/-- Whether the entry of a topic has a serial number. -/
def Owns (t : Topics) (x : String) (serial : Nat) : Prop :=
  ∃ e, t.find? x = some e ∧ e.serial = serial

lemma Owns.listeners_ne_nil (h : t.Owns x serial) (ht : t.Tidy) : t.listeners x ≠ [] := by
  obtain ⟨e, hfind, -⟩ := h
  exact ht.listeners_ne_nil.mpr ⟨e, hfind⟩

/-- A serial number that has been given out comes back with no edit. -/
lemma Edit.owns_before (h : t.Edit t') (hlt : serial < t.next) (howns : t'.Owns x serial) :
    t.Owns x serial := by
  obtain ⟨e', hfind, rfl⟩ := howns
  rcases h.find?_cases hfind with ⟨e, hold, hserial, -⟩ | ⟨-, hserial, -, -⟩
  · exact ⟨e, hold, hserial.symm⟩
  · omega

/-- A topic that keeps listeners through an edit keeps its entry. -/
lemma Edit.owns_after (h : t.Edit t') (howns : t.Owns x serial) (ht : t'.Tidy)
    (hheld : t'.listeners x ≠ []) : t'.Owns x serial := by
  obtain ⟨e, hold, rfl⟩ := howns
  obtain ⟨e', hfind⟩ := ht.listeners_ne_nil.mp hheld
  rcases h.find?_cases hfind with ⟨other, hother, hserial, -⟩ | ⟨hnone, -, -, -⟩
  · obtain rfl := Option.some.inj (hold.symm.trans hother)
    exact ⟨e', hfind, hserial⟩
  · exact absurd (hnone.symm.trans hold) (by simp)

end Topics

namespace Hub

variable {h : Hub} {τ σ : Ticket} {e : Errand} {topic x message : String} {l : Listener}
  {p : Progress} {serial : Nat} {event : HubEvent} {events : List HubEvent}
  {since after : List Moment} {m : Moment}

/-- The first moment of a run is that of the hub it begins with. -/
lemma exists_hub_eq (hsplit : h.moments events = since ++ m :: after) :
    ∃ m' ∈ since ++ [m], m'.hub = h := by
  cases events with
  | nil => exact absurd hsplit (by simp [moments])
  | cons event events =>
    cases since with
    | nil =>
      obtain ⟨rfl, -⟩ := List.cons.inj hsplit
      exact ⟨_, List.mem_singleton_self _, rfl⟩
    | cons first since =>
      obtain ⟨rfl, -⟩ := List.cons.inj hsplit
      exact ⟨_, List.mem_cons_self, rfl⟩

/-- The entry of a topic is the one of a serial number exactly if it was at the beginning of a run,
and the topic has had listeners at every moment since. -/
lemma owns_iff_held (ht : h.topics.Tidy) (hlt : serial < h.topics.next)
    (hsplit : h.moments events = since ++ m :: after) :
    m.hub.topics.Owns x serial ↔
      h.topics.Owns x serial ∧ ∀ m' ∈ since ++ [m], m'.hub.topics.listeners x ≠ [] := by
  induction since generalizing h events with
  | nil =>
    cases events with
    | nil => cases hsplit
    | cons event events =>
      obtain ⟨rfl, -⟩ := List.cons.inj hsplit
      simpa using fun howns : h.topics.Owns x serial => howns.listeners_ne_nil ht
  | cons first since ih =>
    cases events with
    | nil => cases hsplit
    | cons event events =>
      obtain ⟨rfl, hrest⟩ := List.cons.inj hsplit
      have hedit := h.edit_step event
      have ht' := hedit.tidy ht
      -- the hub after the first moment is that of the next one
      obtain ⟨second, hsecond, hhub⟩ := exists_hub_eq hrest
      rw [ih ht' (hlt.trans_le hedit.next_le) hrest, List.cons_append, List.forall_mem_cons]
      constructor
      · rintro ⟨howns, hheld⟩
        have hbefore := hedit.owns_before hlt howns
        exact ⟨hbefore, hbefore.listeners_ne_nil ht, hheld⟩
      · rintro ⟨hbefore, -, hheld⟩
        exact ⟨hedit.owns_after hbefore ht' (hhub ▸ hheld second hsecond), hheld⟩

/-! ### What the end of an opening does to the table -/

lemma sets_abandon : h.topics.Sets topic none (h.abandon topic message).1.topics := by
  unfold abandon
  rw [disconnectIfIdle_topics]
  split
  · rename_i hnone
    intro y
    split
    · rename_i hy
      rw [hy, hnone]
    · rfl
  · exact Topics.sets_erase

lemma sets_activate : h.topics.Sets topic ((h.topics.find? topic).map Entry.activated)
    (h.activate topic).topics := by
  unfold activate
  split
  · rename_i hnone
    intro y
    rw [hnone]
    split
    · rename_i hy
      rw [hy, hnone]
      rfl
    · rfl
  · exact Topics.sets_modify (f := Entry.activated) fun _ htopic => htopic

lemma endings_conclude_error {error : RequestError} :
    endings (h.conclude τ (.opening topic l p) (.error error)).2 = [(τ, .error error)] := by
  simp [conclude, endings_abandon]

/-- Of the subscriptions, only that of the errand ends with its conclusion. -/
lemma endings_conclude {result : Except RequestError Unit} :
    ∀ q ∈ endings (h.conclude τ e result).2, q.1 = τ := by
  intro q hq
  cases e with
  | joining | shrinking | restoring => cases hq
  | opening topic l p =>
    cases result with
    | ok =>
      rw [List.mem_singleton.mp hq]
    | error error =>
      rw [endings_conclude_error] at hq
      rw [List.mem_singleton.mp hq]

lemma endings_post : ∀ q ∈ endings (h.post τ e).2, q.1 = τ := by
  unfold post
  split
  · exact fun q hq => absurd hq List.not_mem_nil
  · split
    · exact endings_conclude
    · exact fun q hq => absurd hq List.not_mem_nil

lemma endings_queue : ∀ q ∈ endings (h.queue τ e).2, q.1 = τ :=
  endings_post

lemma endings_resume : ∀ q ∈ endings (h.resume τ).2, q.1 = τ := by
  have hawait : ∀ topic l latest gone,
      ∀ q ∈ endings (h.await τ topic l latest gone).2, q.1 = τ := by
    intro topic l latest gone q hq
    cases latest with
    | active | failed => rw [List.mem_singleton.mp hq]
    | pending =>
      cases gone with
      | false => cases hq
      | true => rw [List.mem_singleton.mp hq]
  unfold resume
  split
  · exact fun q hq => absurd hq List.not_mem_nil
  · split
    · exact hawait _ _ _ _
    all_goals
      split
      · split
        · exact endings_queue
        · exact fun q hq => absurd hq List.not_mem_nil
      · exact endings_post
      · exact fun q hq => absurd hq List.not_mem_nil

lemma endings_subscribe : ∀ q ∈ endings (h.subscribe τ topic l).2, q.1 = τ := by
  unfold subscribe
  split
  · intro q hq
    rw [List.mem_singleton.mp hq]
  · exact endings_resume
  · rename_i topics _ _
    have hconnect : endings ({ h with topics }.connect).2 = [] := by
      unfold connect
      split <;> rfl
    intro q hq
    rw [endings_append, hconnect] at hq
    exact endings_resume q hq

/-- A subscription ends when it begins, or when its errand goes on. -/
lemma endings_step {q : Ending} (hq : q ∈ endings (h.step event).2) :
    event.begins? = some q.1 ∨ event.moves? = some q.1 := by
  cases event with
  | subscribe τ topic l => exact .inl (congrArg some (endings_subscribe q hq).symm)
  | resume τ => exact .inr (congrArg some (endings_resume q hq).symm)
  | unsubscribe τ topic l =>
    simp only [step, unsubscribe] at hq
    split at hq
    · cases hq
    · split at hq
      · rw [endings_disconnect] at hq
        cases hq
      · cases hq
  | drop τ =>
    simp only [step, drop] at hq
    split at hq
    · rw [endings_abandon] at hq
      cases hq
    · cases hq
    · cases hq
  | expire τ =>
    simp only [step, expire] at hq
    split at hq
    · split at hq
      · exact .inr (congrArg some (endings_conclude q hq).symm)
      · cases hq
    · cases hq
  | posted τ result =>
    simp only [step, posted] at hq
    split at hq
    · split at hq
      · exact .inr (congrArg some (endings_conclude q hq).symm)
      · cases hq
    · cases hq
  | message τ name data =>
    simp only [step, Hub.message, greet] at hq
    split at hq
    · split at hq
      · split at hq
        · cases hq
        · split at hq
          · cases hq
          · exact .inl (congrArg some (endings_queue q hq).symm)
      · rw [endings_deliver] at hq
        cases hq
    · cases hq
  | lost | ended =>
    simp only [step] at hq
    split at hq <;> cases hq

/-- An opening that goes on ends by its conclusion, if at all. -/
lemma step_of_opening (herrand : h.errand? τ = some (.opening topic l p))
    (hmoves : event.moves? = some τ) :
    endings (h.step event).2 = [] ∨
      ∃ (h' : Hub) (result : Except RequestError Unit), h'.topics = h.topics ∧
        h.step event = h'.conclude τ (.opening topic l p) result := by
  have hpost : ∀ h' : Hub, h'.topics = h.topics →
      endings (h'.post τ (.opening topic l p)).2 = [] ∨
        ∃ (h'' : Hub) (result : Except RequestError Unit), h''.topics = h.topics ∧
          h'.post τ (.opening topic l p) = h''.conclude τ (.opening topic l p) result := by
    intro h' htopics
    unfold post
    split
    · exact .inl rfl
    · split
      · exact .inr ⟨h', _, htopics, rfl⟩
      · exact .inl rfl
  cases event with
  | resume τ' =>
    obtain rfl := Option.some.inj hmoves
    simp only [step, resume_eq_go herrand rfl]
    cases p with
    | connecting =>
      simp only [go]
      split
      · exact hpost { h with turns := h.turns ++ [τ'] } rfl
      · exact .inl rfl
    | queued => exact hpost h rfl
    | posting => exact .inl rfl
  | expire τ' =>
    obtain rfl := Option.some.inj hmoves
    simp only [step, expire, herrand]
    split
    · exact .inr ⟨h, _, rfl, rfl⟩
    · exact .inl rfl
  | posted τ' result =>
    obtain rfl := Option.some.inj hmoves
    simp only [step, Hub.posted, herrand]
    split
    · exact .inr ⟨h, _, rfl, rfl⟩
    · exact .inl rfl
  | _ => cases hmoves

/-- An opening that fails or is dropped takes out the entry of its topic, and one that succeeds
makes it active, whichever entry it is. -/
lemma table_of_opening (herrand : h.errand? τ = some (.opening topic l p))
    (hknown : event.begins? ≠ some τ) :
    ((event = .drop τ ∨ ∃ error, (τ, .error error) ∈ endings (h.step event).2) →
      h.topics.Sets topic none (h.step event).1.topics) ∧
    ((τ, .ok true) ∈ endings (h.step event).2 →
      h.topics.Sets topic ((h.topics.find? topic).map Entry.activated)
        (h.step event).1.topics) := by
  have hends : ∀ result, (τ, result) ∈ endings (h.step event).2 →
      ∃ (h' : Hub) (outcome : Except RequestError Unit), h'.topics = h.topics ∧
        h.step event = h'.conclude τ (.opening topic l p) outcome := by
    intro result hend
    rcases h.endings_step hend with hbegins | hmoves
    · exact absurd hbegins hknown
    · rcases step_of_opening herrand hmoves with hnone | hconclude
      · rw [hnone] at hend
        cases hend
      · exact hconclude
  constructor
  · rintro (rfl | ⟨error, hend⟩)
    · have hdrop : h.step (.drop τ) = (h.remove τ).abandon topic
          "subscription dropped before the realtime handshake finished" := by
        simp only [step, drop, herrand]
      rw [hdrop]
      exact sets_abandon (h := h.remove τ)
    · obtain ⟨h', outcome, htopics, hconclude⟩ := hends _ hend
      rw [hconclude] at hend ⊢
      cases outcome with
      | ok => exact absurd (List.mem_singleton.mp hend) (by simp)
      | error e =>
        rw [← htopics]
        exact sets_abandon (h := h'.remove τ)
  · intro hend
    obtain ⟨h', outcome, htopics, hconclude⟩ := hends _ hend
    rw [hconclude] at hend ⊢
    cases outcome with
    | ok =>
      rw [← htopics]
      exact sets_activate (h := h'.remove τ)
    | error e =>
      rw [endings_conclude_error] at hend
      exact absurd (List.mem_singleton.mp hend) (by simp)

end Hub

/-- Whether a subscription opens a topic at a moment: its listener is the first one. -/
def Moment.Opens (m : Moment) (τ : Ticket) (topic : String) (l : Listener) : Prop :=
  m.event = .subscribe τ topic l ∧ m.hub.topics.find? topic = none

namespace Moment.Opens

variable {m : Moment} {τ : Ticket} {topic : String} {l : Listener}

/-- An opening makes an entry, under the next serial number. -/
lemma table (h : m.Opens τ topic l) :
    m.hub.topics.Sets topic (some (m.hub.topics.opened topic l)) m.next.topics ∧
      m.next.topics.next = m.hub.topics.next + 1 := by
  obtain ⟨hevent, hfirst⟩ := h
  have htopics : m.next.topics = (m.hub.topics.register topic l).1 := by
    rw [Moment.next, hevent]
    exact Hub.subscribe_topics
  rw [htopics]
  rcases m.hub.topics.register_cases topic l with ⟨_, hfind, -, -⟩ | ⟨_, -, hset, hnext, hreg⟩ |
    ⟨_, _, hfind, -, -, -, -⟩
  · exact absurd (hfirst.symm.trans hfind) (by simp)
  · rw [hreg]
    exact ⟨hset, hnext⟩
  · exact absurd (hfirst.symm.trans hfind) (by simp)

lemma owns (h : m.Opens τ topic l) : m.next.topics.Owns topic m.hub.topics.next :=
  ⟨_, h.table.1.find?_self, rfl⟩

lemma joins (h : m.Opens τ topic l) : m.Joins τ topic l m.hub.topics.next :=
  ⟨h.1, by simp [Topics.listeners_of_find?_none h.2], h.owns⟩

end Moment.Opens

/-- In a trail an opening that is still running has the entry that it has made. -/
lemma Trail.entry_of_opens {patience : Nat} {moments before since after : List Moment} {h : Hub}
    {m₀ m : Moment} {τ : Ticket} {topic : String} {l : Listener} (ht : Trail patience moments h)
    (hsplit : moments = before ++ m₀ :: (since ++ m :: after)) (hopens : m₀.Opens τ topic l)
    (hclaim : m.hub.claim? τ = some (.opening topic l)) :
    ∃ entry, m.hub.topics.find? topic = some entry ∧ entry.serial = m₀.hub.topics.next ∧
      entry.handshake = .pending ∧ l ∈ entry.listeners := by
  have hsplit' : moments = (before ++ m₀ :: since) ++ m :: after := by simpa using hsplit
  obtain ⟨ho, -⟩ := ht.onward hsplit'
  obtain ⟨entry, hfind, hserial⟩ := ho.past.part m₀ (by simp) τ topic l _ _ hopens.joins hclaim
  obtain ⟨other, hother, hpending, hl⟩ := ho.past.coherent.opening τ topic l hclaim
  obtain rfl := Option.some.inj (hfind.symm.trans hother)
  exact ⟨entry, hfind, hserial, hpending, hl⟩

/-- An opening that fails or is dropped takes out the entry of its topic, and one that succeeds
makes it active; nothing else changes in the table.  This entry is the one that the opening has made
as long as the topic has had listeners at every moment since, and no longer.  If nobody wants or
leaves a topic while a subscription of theirs on it is still running, it always is. -/
theorem opening_settles_entry {patience : Nat} {events : List HubEvent}
    {before since after : List Moment} {m₀ m : Moment} {τ : Ticket} {topic : String} {l : Listener}
    {p : Progress} (hdistinct : (events.filterMap HubEvent.begins?).Nodup)
    (hrun : (Hub.new patience).moments events = before ++ m₀ :: (since ++ m :: after))
    (hopens : m₀.Opens τ topic l) (hrunning : m.hub.errand? τ = some (.opening topic l p)) :
    ((m.event = .drop τ ∨ ∃ error, (τ, .error error) ∈ m.ends) →
      m.hub.topics.Sets topic none m.next.topics) ∧
    ((τ, .ok true) ∈ m.ends →
      m.hub.topics.Sets topic ((m.hub.topics.find? topic).map Entry.activated) m.next.topics) ∧
    (∀ entry, m.hub.topics.find? topic = some entry →
      (entry.serial = m₀.hub.topics.next ↔
        ∀ m' ∈ since ++ [m], m'.hub.topics.listeners topic ≠ [])) ∧
    ((∀ m' ∈ (Hub.new patience).moments events, m'.hub.Orderly m'.event) →
      ∃ entry, m.hub.topics.find? topic = some entry ∧ entry.serial = m₀.hub.topics.next ∧
        entry.handshake = .pending ∧ l ∈ entry.listeners) := by
  have hmem₀ : m₀ ∈ (Hub.new patience).moments events := by simp [hrun]
  have hmem : m ∈ (Hub.new patience).moments events := by simp [hrun]
  have hunused : ∀ σ ∈ (Hub.new patience).tickets, σ ∉ events.filterMap HubEvent.begins? :=
    fun _ hσ => absurd hσ List.not_mem_nil
  have hknown : m.event.begins? ≠ some τ := by
    intro hbegins
    have hnone := Hub.fresh_of_mem_moments hdistinct hunused hmem τ hbegins
    exact absurd (hnone.symm.trans hrunning) (by simp)
  obtain ⟨hcloses, hactivates⟩ := m.hub.table_of_opening hrunning hknown
  refine ⟨hcloses, hactivates, fun entry hfind => ?_, fun horderly => ?_⟩
  · have htidy : m₀.next.topics.Tidy :=
      (m₀.hub.edit_step m₀.event).tidy (Hub.tidy_of_mem_moments Topics.tidy_empty hmem₀)
    have hlt : m₀.hub.topics.next < m₀.next.topics.next := by
      rw [hopens.table.2]
      exact Nat.lt_succ_self _
    obtain ⟨rest, hsince, -⟩ := Hub.exists_of_moments_eq hrun
    have hserial : m.hub.topics.Owns topic m₀.hub.topics.next ↔
        entry.serial = m₀.hub.topics.next := by
      constructor
      · rintro ⟨e, hfind', hserial⟩
        obtain rfl := Option.some.inj (hfind.symm.trans hfind')
        exact hserial
      · exact fun hserial => ⟨entry, hfind, hserial⟩
    rw [← hserial, Hub.owns_iff_held htidy hlt hsince.symm]
    exact and_iff_right hopens.owns
  · have htrail : Trail patience ((Hub.new patience).moments events)
        ((Hub.new patience).run events).1 := Trail.start.run events hdistinct horderly
    exact htrail.entry_of_opens hrun hopens (Hub.claim?_eq_some.mpr ⟨_, hrunning, rfl⟩)

/-- The post for a topic fails while its opening has the first of two listeners; what goes is the
entry that the opening has made. -/
theorem opening_settles_entry_of_twoTopics :
    let m := twoTopicsMoments.get ⟨7, by decide⟩
    m.hub.topics.Sets "a" none m.next.topics ∧
      ∃ entry, m.hub.topics.find? "a" = some entry ∧ entry.serial = 0 ∧
        entry.handshake = .pending ∧ ⟨1⟩ ∈ entry.listeners := by
  intro m
  have hsplit : twoTopicsMoments = [] ++ twoTopicsMoments.get ⟨0, by decide⟩ ::
      ((twoTopicsMoments.take 7).drop 1 ++ m :: twoTopicsMoments.drop 8) := rfl
  have hfails : (0, .error (.realtime "subscription update failed: transport error: reset")) ∈
      m.ends := by decide +kernel
  have horderly : ∀ m ∈ twoTopicsMoments, m.hub.Orderly m.event := by decide +kernel
  obtain ⟨hcloses, -, -, howns⟩ := opening_settles_entry (by decide +kernel) hsplit
    ⟨rfl, by decide +kernel⟩ (show m.hub.errand? 0 = some (.opening "a" ⟨1⟩ (.posting "c" ["a"])) by
      decide +kernel)
  exact ⟨hcloses (.inr ⟨_, hfails⟩), howns horderly⟩

/-- A listener leaves a topic while its own opening waits for the answer to its post, and another
one opens the topic anew.  Somebody else listens to another topic all the while. -/
def reopened : List HubEvent :=
  [.subscribe 0 "b" ⟨3⟩, .message 1 "PB_CONNECT" "\x7b\"clientId\":\"c\"\x7d", .resume 0,
    .posted 1 (.ok ()), .resume 0, .posted 0 (.ok ()), .subscribe 2 "a" ⟨1⟩,
    .unsubscribe 3 "a" ⟨1⟩, .subscribe 4 "a" ⟨2⟩]

/-- The new entry is not that of the first opening, which has the serial number before it; but it
becomes active with the answer to the first post, while its own opening still waits for its turn,
and it goes when the first post fails or the first subscription is dropped. -/
theorem older_opening_settles_newer_entry :
    let h := ((Hub.new 1000).run reopened).1
    h.topics.find? "a" = some ⟨"a", 2, [⟨2⟩], .pending⟩ ∧
      h.errand? 2 = some (.opening "a" ⟨1⟩ (.posting "c" ["a", "b"])) ∧
      h.errand? 4 = some (.opening "a" ⟨2⟩ .queued) ∧
      (h.step (.posted 2 (.ok ()))).1.topics.find? "a" = some ⟨"a", 2, [⟨2⟩], .active⟩ ∧
      (h.step (.posted 2 (.error (.transport "reset")))).1.topics.find? "a" = none ∧
      (h.step (.drop 2)).1.topics.find? "a" = none := by
  decide +kernel

end RunBoard.Realtime
