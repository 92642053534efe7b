import Mathlib.Data.String.Basic
import RunBoard.Proofs.Realtime.Delivery

/-!
# The table of a hub, whatever its callers do

An event changes the table of a hub by one operation at most.  `Topics.Edit` lists the operations,
and `Hub.edit_step` says that there is nothing else; unlike the account of turns it asks nothing of
the callers.  So the table of every run is `Tidy`, and its names are in strictly ascending order.

The second half of the module takes a run apart at one of its moments.
-/

namespace RunBoard.Realtime

namespace Topics

variable {t t' : Topics} {topic x name : String} {e e' : Entry} {l : Listener} {names : List String}

/-! ### Edits -/

/-- What can be done to a table at once. -/
inductive Edit (t : Topics) : Topics → Prop
  | same : Edit t t
  | registered (topic : String) (l : Listener) : Edit t (t.register topic l).1
  | unregistered (topic : String) (l : Listener) : Edit t (t.unregister topic l).1
  | activated (topic : String) : Edit t (t.modify topic Entry.activated)
  | erased (topic : String) : Edit t (t.erase topic)

/-- A table lists each topic once, with those who listen to it, and under a serial number that has
been given out. -/
structure Tidy (t : Topics) : Prop where
  distinct : (t.entries.map Entry.topic).Nodup
  occupied : ∀ x e, t.find? x = some e → e.listeners ≠ []
  serial : ∀ x e, t.find? x = some e → e.serial < t.next

lemma tidy_empty : empty.Tidy :=
  ⟨List.nodup_nil, fun _ _ h => absurd h (by simp [empty, find?]),
    fun _ _ h => absurd h (by simp [empty, find?])⟩

lemma distinct_modify {f : Entry → Entry} (hf : ∀ e, e.topic = topic → (f e).topic = topic)
    (hdistinct : (t.entries.map Entry.topic).Nodup) :
    ((t.modify topic f).entries.map Entry.topic).Nodup := by
  have hsame : (t.modify topic f).entries.map Entry.topic = t.entries.map Entry.topic := by
    simp only [modify, List.map_map]
    refine List.map_congr_left fun e _ => ?_
    by_cases he : e.topic = topic
    · simp [he, hf e he]
    · simp [he]
  rwa [hsame]

lemma notMem_topics_of_find? (h : t.find? topic = none) : topic ∉ t.entries.map Entry.topic := by
  rw [List.mem_map]
  rintro ⟨e, he, rfl⟩
  simpa using List.find?_eq_none.mp h e he

lemma Tidy.listeners_ne_nil (ht : t.Tidy) :
    t.listeners x ≠ [] ↔ ∃ e, t.find? x = some e := by
  constructor
  · intro h
    cases hfind : t.find? x with
    | none => exact absurd (listeners_of_find?_none hfind) h
    | some e => exact ⟨e, rfl⟩
  · rintro ⟨e, hfind⟩
    rw [listeners_of_find? hfind]
    exact ht.occupied x e hfind

/-- An entry that a listener leaves and that stays has somebody else on it. -/
lemma listeners_of_without (h : e.without l = some e') : e'.listeners ≠ [] := by
  obtain rfl := Entry.without_eq_some h
  intro hnil
  rw [Entry.without, hnil] at h
  cases h

namespace Edit

/-- An entry after an edit was there before, under the same serial number, or it is the first one of
its topic and has a new one. -/
lemma find?_cases (h : t.Edit t') (hfind : t'.find? x = some e') :
    (∃ e, t.find? x = some e ∧ e'.serial = e.serial ∧ (e.listeners ≠ [] → e'.listeners ≠ [])) ∨
      (t.find? x = none ∧ e'.serial = t.next ∧ t'.next = t.next + 1 ∧ e'.listeners ≠ []) := by
  have hkept : t.find? x = some e' →
      ∃ e, t.find? x = some e ∧ e'.serial = e.serial ∧ (e.listeners ≠ [] → e'.listeners ≠ []) :=
    fun hold => ⟨e', hold, rfl, fun h => h⟩
  cases h with
  | same => exact .inl (hkept hfind)
  | registered topic l =>
    rcases t.register_cases topic l with ⟨e, -, -, hreg⟩ | ⟨t', hnone, hset, hnext, hreg⟩ |
      ⟨e, t', hold, -, hset, -, hreg⟩
    · rw [hreg] at hfind
      exact .inl (hkept hfind)
    · rw [hreg] at hfind ⊢
      rcases hset.cases hfind with ⟨rfl, heq⟩ | ⟨-, hother⟩
      · obtain rfl := Option.some.inj heq
        exact .inr ⟨hnone, rfl, hnext, List.cons_ne_nil _ _⟩
      · exact .inl (hkept hother)
    · rw [hreg] at hfind
      rcases hset.cases hfind with ⟨rfl, heq⟩ | ⟨-, hother⟩
      · obtain rfl := Option.some.inj heq
        exact .inl ⟨e, hold, rfl,
          fun _ => List.append_ne_nil_of_right_ne_nil _ (List.cons_ne_nil _ _)⟩
      · exact .inl (hkept hother)
  | unregistered topic l =>
    rcases t.unregister_cases topic l with ⟨-, hreg⟩ | ⟨e, t', hold, -, hset, -, hreg⟩
    · rw [hreg] at hfind
      exact .inl (hkept hfind)
    · rw [hreg] at hfind
      rcases hset.cases hfind with ⟨rfl, heq⟩ | ⟨-, hother⟩
      · refine .inl ⟨e, hold, ?_, fun _ => listeners_of_without heq⟩
        rw [Entry.without_eq_some heq]
        rfl
      · exact .inl (hkept hother)
  | activated topic =>
    have hset : t.Sets topic _ (t.modify topic Entry.activated) :=
      sets_modify fun _ htopic => htopic
    rcases hset.cases hfind with ⟨rfl, heq⟩ | ⟨-, hother⟩
    · obtain ⟨e, hold, rfl⟩ := Option.map_eq_some_iff.mp heq
      exact .inl ⟨e, hold, rfl, fun h => h⟩
    · exact .inl (hkept hother)
  | erased topic =>
    rcases sets_erase.cases hfind with ⟨-, hnone⟩ | ⟨-, hother⟩
    · cases hnone
    · exact .inl (hkept hother)

lemma next_le (h : t.Edit t') : t.next ≤ t'.next := by
  cases h with
  | registered topic l =>
    rcases t.register_cases topic l with ⟨_, -, -, hreg⟩ | ⟨_, -, -, hnext, hreg⟩ |
      ⟨_, _, -, -, -, hnext, hreg⟩ <;> rw [hreg]
    · exact hnext ▸ Nat.le_succ _
    · exact hnext.ge
  | unregistered topic l =>
    rcases t.unregister_cases topic l with ⟨-, hreg⟩ | ⟨_, _, -, -, -, hnext, hreg⟩ <;> rw [hreg]
    exact hnext.ge
  | same | activated | erased => exact le_rfl

lemma distinct (h : t.Edit t') (hdistinct : (t.entries.map Entry.topic).Nodup) :
    (t'.entries.map Entry.topic).Nodup := by
  have herase : ∀ topic, ((t.erase topic).entries.map Entry.topic).Nodup :=
    fun _ => hdistinct.sublist (List.filter_sublist.map _)
  cases h with
  | same => exact hdistinct
  | registered topic l =>
    unfold register
    split
    · rename_i hnone
      rw [List.map_append, List.nodup_append]
      refine ⟨hdistinct, List.nodup_singleton _, fun x hx y hy hxy => ?_⟩
      obtain rfl : y = topic := List.mem_singleton.mp hy
      exact notMem_topics_of_find? hnone (hxy ▸ hx)
    · rename_i e hfind
      split
      · exact hdistinct
      · have htopic : e.topic = topic := topic_of_find? hfind
        exact distinct_modify (fun _ _ => htopic) hdistinct
  | unregistered topic l =>
    unfold unregister
    split
    · exact hdistinct
    · split
      · exact hdistinct
      · dsimp only
        split
        · exact herase topic
        · exact distinct_modify (fun _ htopic => htopic) hdistinct
  | activated topic => exact distinct_modify (fun _ htopic => htopic) hdistinct
  | erased topic => exact herase topic

lemma tidy (h : t.Edit t') (ht : t.Tidy) : t'.Tidy := by
  refine ⟨h.distinct ht.distinct, fun x e' hfind => ?_, fun x e' hfind => ?_⟩
  · rcases h.find?_cases hfind with ⟨e, hold, -, hoccupied⟩ | ⟨-, -, -, hoccupied⟩
    · exact hoccupied (ht.occupied x e hold)
    · exact hoccupied
  · rcases h.find?_cases hfind with ⟨e, hold, hserial, -⟩ | ⟨-, hserial, hnext, -⟩
    · exact hserial ▸ (ht.serial x e hold).trans_le h.next_le
    · omega

end Edit

/-! ### The order of the names -/

lemma pairwise_insertName (h : names.Pairwise (· < ·)) (hnew : name ∉ names) :
    (insertName name names).Pairwise (· < ·) := by
  induction names with
  | nil => exact List.pairwise_singleton _ _
  | cons other rest ih =>
    obtain ⟨hother, hrest⟩ := List.pairwise_cons.mp h
    obtain ⟨hne, hnotin⟩ := not_or.mp (mt List.mem_cons.mpr hnew)
    rw [insertName]
    split
    · rename_i hlt
      refine List.pairwise_cons.mpr ⟨fun x hx => ?_, ih hrest hnotin⟩
      rcases mem_insertName.mp hx with rfl | hx
      · exact hlt
      · exact hother x hx
    · rename_i hnot
      have hlt : name < other := lt_of_le_of_ne (not_lt.mp hnot) hne
      refine List.pairwise_cons.mpr ⟨fun x hx => ?_, h⟩
      rcases List.mem_cons.mp hx with rfl | hx
      · exact hlt
      · exact hlt.trans (hother x hx)

/-- The names of a table are in strictly ascending order. -/
lemma Tidy.pairwise_names (ht : t.Tidy) : t.names.Pairwise (· < ·) := by
  have hdistinct := ht.distinct
  unfold names
  generalize t.entries = entries at hdistinct
  induction entries with
  | nil => exact List.Pairwise.nil
  | cons e es ih =>
    obtain ⟨hnew, hrest⟩ := List.nodup_cons.mp hdistinct
    rw [List.foldr_cons]
    refine pairwise_insertName (ih hrest) fun hmem => hnew ?_
    -- the names so far are the topics of the entries behind this one
    obtain ⟨e', hfind⟩ : ∃ e', find? ⟨es, 0⟩ e.topic = some e' :=
      mem_names.mp (show e.topic ∈ (⟨es, 0⟩ : Topics).names from hmem)
    exact List.mem_map.mpr ⟨e', List.mem_of_find?_eq_some hfind, topic_of_find? hfind⟩

end Topics

namespace Hub

variable {h : Hub} {τ σ : Ticket} {e : Errand} {topic x message : String} {l : Listener}
  {events : List HubEvent} {m : Moment}

/-! ### What an event does to the table -/

lemma edit_abandon : h.topics.Edit (h.abandon topic message).1.topics := by
  unfold abandon
  rw [disconnectIfIdle_topics]
  split
  · exact .same
  · exact .erased topic

lemma edit_activate : h.topics.Edit (h.activate topic).topics := by
  unfold activate
  split
  · exact .same
  · exact .activated topic

lemma edit_conclude {result : Except RequestError Unit} :
    h.topics.Edit (h.conclude τ e result).1.topics := by
  unfold conclude
  split
  · exact edit_activate (h := h.remove τ)
  · exact edit_abandon (h := h.remove τ)
  · exact .same

lemma edit_post : h.topics.Edit (h.post τ e).1.topics := by
  unfold post
  split
  · rw [put_topics]
    exact .same
  · split
    · exact edit_conclude
    · dsimp only
      rw [put_topics]
      exact .same

lemma edit_queue : h.topics.Edit (h.queue τ e).1.topics :=
  edit_post (h := { h with turns := h.turns ++ [τ] })

lemma edit_await {latest : Handshake} {gone : Bool} :
    h.topics.Edit (h.await τ topic l latest gone).1.topics := by
  unfold await
  split
  · exact .same
  · exact .same
  · split
    · rw [topics_unregister]
      exact .unregistered topic l
    · exact .same

lemma edit_resume : h.topics.Edit (h.resume τ).1.topics := by
  unfold resume
  split
  · exact .same
  · split
    · exact edit_await
    all_goals
      split
      · split
        · exact edit_queue
        · exact .same
      · exact edit_post
      · exact .same

lemma await_topics {latest : Handshake} : (h.await τ topic l latest false).1.topics = h.topics := by
  cases latest <;> rfl

lemma subscribe_topics : (h.subscribe τ topic l).1.topics = (h.topics.register topic l).1 := by
  unfold subscribe
  split
  · rename_i t hreg
    rcases h.topics.register_cases topic l with ⟨_, -, -, hreg'⟩ | ⟨_, -, -, -, hreg'⟩ |
      ⟨_, _, -, -, -, -, hreg'⟩ <;> rw [hreg] at hreg' <;> cases hreg'
    exact (congrArg Prod.fst hreg).symm
  · rename_i topics entry hreg
    have herrand : ({ h with topics }.put τ
        (.joining topic l entry.serial entry.handshake false)).errand? τ =
          some (.joining topic l entry.serial entry.handshake false) :=
      errand?_put.trans (if_pos rfl)
    simp only [resume, herrand, hreg]
    rw [await_topics, put_topics]
  · rename_i topics serial hreg
    have hconnect : ({ h with topics }.connect).1.topics = topics := by
      unfold connect
      split <;> rfl
    have herrand : (({ h with topics }.connect).1.put τ (.opening topic l .connecting)).errand? τ =
        some (.opening topic l .connecting) := errand?_put.trans (if_pos rfl)
    dsimp only
    rw [(rests_resume_connecting herrand rfl).topics, put_topics, hconnect, hreg]

lemma greet_topics {data : String} : (h.greet τ data).1.topics = h.topics := by
  unfold greet
  split
  · rfl
  · rename_i client _
    dsimp only
    split
    · rfl
    · exact (rests_queue (h := { h with client := some client }) (by simp)).topics

/-- An event changes the table by one operation at most. -/
lemma edit_step (h : Hub) (event : HubEvent) : h.topics.Edit (h.step event).1.topics := by
  cases event with
  | subscribe τ topic l =>
    rw [step, subscribe_topics]
    exact .registered topic l
  | unsubscribe τ topic l =>
    rw [step, unsubscribe_topics]
    exact .unregistered topic l
  | drop τ =>
    simp only [step, drop]
    split
    · exact edit_abandon (h := h.remove τ)
    · exact .same
    · exact .same
  | resume τ => exact edit_resume
  | expire τ =>
    simp only [step, expire]
    split
    · split
      · exact edit_conclude
      · exact .same
    · exact .same
  | posted τ result =>
    simp only [step, posted]
    split
    · split
      · exact edit_conclude
      · exact .same
    · exact .same
  | message τ name data =>
    simp only [step, Hub.message]
    split
    · split
      · rw [greet_topics]
        exact .same
      · exact .same
    · exact .same
  | lost | ended =>
    simp only [step]
    split <;> exact .same

/-! ### Runs -/

lemma tidy_of_mem_moments (ht : h.topics.Tidy) (hm : m ∈ h.moments events) :
    m.hub.topics.Tidy := by
  induction events generalizing h with
  | nil => cases hm
  | cons event events ih =>
    rcases List.mem_cons.mp hm with rfl | hm
    · exact ht
    · exact ih ((h.edit_step event).tidy ht) hm

/-- If the tickets that are used for the first time are all different, none of them is in use. -/
lemma fresh_of_mem_moments (hdistinct : (events.filterMap HubEvent.begins?).Nodup)
    (hunused : ∀ τ ∈ h.tickets, τ ∉ events.filterMap HubEvent.begins?) (hm : m ∈ h.moments events) :
    ∀ τ, m.event.begins? = some τ → m.hub.errand? τ = none := by
  induction events generalizing h with
  | nil => cases hm
  | cons event events ih =>
    rcases List.mem_cons.mp hm with rfl | hm
    · intro τ hbegins
      by_contra hused
      refine hunused τ (mem_tickets.mpr hused) ?_
      exact List.mem_filterMap.mpr ⟨event, List.mem_cons_self, hbegins⟩
    · have hrest : ∀ τ, τ ∈ events.filterMap HubEvent.begins? →
          τ ∈ (event :: events).filterMap HubEvent.begins? :=
        fun τ hτ => (List.sublist_cons_self event events).filterMap _ |>.subset hτ
      refine ih (hdistinct.sublist ((List.sublist_cons_self event events).filterMap _)) ?_ hm
      intro τ hτ hlater
      rcases (h.frame_step event).tickets τ hτ with hbegins | hold
      · -- the ticket is used by this event, and so by none of the others
        rw [List.filterMap_cons, hbegins] at hdistinct
        exact (List.nodup_cons.mp hdistinct).1 hlater
      · exact hunused τ hold (hrest τ hlater)

/-- What holds at the beginning of a run and after each of its moments holds before each of them. -/
lemma forall_hub_of_forall_next {P : Hub → Prop} (hstart : P h)
    (hnext : ∀ m ∈ h.moments events, P m.next) : ∀ m ∈ h.moments events, P m.hub := by
  induction events generalizing h with
  | nil => exact fun m hm => absurd hm List.not_mem_nil
  | cons event events ih =>
    intro m hm
    rcases List.mem_cons.mp hm with rfl | hm
    · exact hstart
    · refine ih (hnext ⟨h, event⟩ List.mem_cons_self) (fun m hm => ?_) m hm
      exact hnext m (List.mem_cons_of_mem _ hm)

/-- What comes after a moment of a run is the run of the hub that the moment leads to. -/
lemma exists_of_moments_eq {before since : List Moment}
    (hsplit : h.moments events = before ++ m :: since) :
    ∃ rest, since = m.next.moments rest ∧ (h.run events).1 = (m.next.run rest).1 := by
  induction before generalizing h events with
  | nil =>
    cases events with
    | nil => cases hsplit
    | cons event events =>
      obtain ⟨rfl, rfl⟩ := List.cons.inj hsplit
      exact ⟨events, rfl, rfl⟩
  | cons first before ih =>
    cases events with
    | nil => cases hsplit
    | cons event events =>
      obtain ⟨-, hrest⟩ := List.cons.inj hsplit
      obtain ⟨rest, hsince, hrun⟩ := ih hrest
      exact ⟨rest, hsince, hrun⟩

end Hub

end RunBoard.Realtime
