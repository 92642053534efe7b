import RunBoard.Proofs.Realtime.Editing

/-!
# What the backend was last told

The topics are posted as they are when an errand has its turn, on behalf of whichever errand it is.
So a post can tell of topics that are still being opened by others, and the table changes while
posts are under way.

What keeps the last post right is that whoever changes the table owes a post: a listener who opens a
topic, and one who leaves the last of its topic.  As long as nobody posts, `Accurate` says that what
differs between the table and the last post is owed by an errand that waits.  The exceptions are
`Withdraws`: a subscription that is dropped takes its topic out and owes nothing, and neither does
one that has waited for an entry in vain.  So when no errand is left, all topics of the table have
been posted, and what has been posted besides was withdrawn.
-/

namespace RunBoard.Realtime

/-! ### Errands that owe a post -/

namespace Errand

/-- Whether an errand has still to post the topics. -/
def Owes (e : Errand) : Prop :=
  e.progress? = some .connecting ∨ e.progress? = some .queued

variable {e : Errand} {serial : Nat} {state : Handshake} {gone : Bool}

lemma Owes.progress_ne_none (h : e.Owes) : e.progress? ≠ none := by
  rcases h with h | h <;> simp [h]

lemma owes_at_queued (h : e.progress? ≠ none) : (e.at .queued).Owes := by
  cases e with
  | joining => exact absurd rfl h
  | opening | shrinking | restoring => exact .inr rfl

lemma hear_of_posts (h : e.progress? ≠ none) : e.hear serial state gone = e := by
  cases e with
  | joining => exact absurd rfl h
  | opening | shrinking | restoring => rfl

end Errand

/-! ### Posts among effects -/

/-- A post: the errand on whose behalf it is made, the client, and the topics. -/
abbrev Posting := Ticket × String × List String

/-- The post that an effect is. -/
def Effect.posting? : Effect → Option Posting
  | .post τ client names => some (τ, client, names)
  | .connect | .disconnect | .deliver _ _ | .finish _ _ => none

/-- The posts among effects. -/
def postings (effects : List Effect) : List Posting :=
  effects.filterMap Effect.posting?

@[simp] lemma postings_append (effects more : List Effect) :
    postings (effects ++ more) = postings effects ++ postings more :=
  List.filterMap_append

namespace Hub

variable {h h' h'' : Hub} {τ σ : Ticket} {e : Errand} {topic x message : String} {l : Listener}
  {r : Hub × List Effect}

/-! ### Errands that are left alone -/

/-- `h.Spares σ h'`: if the errand of a ticket posts the topics, it is the same as before. -/
def Spares (h : Hub) (σ : Ticket) (h' : Hub) : Prop :=
  ∀ e, e.progress? ≠ none → h.errand? σ = some e → h'.errand? σ = some e

lemma Spares.refl (h : Hub) : h.Spares σ h :=
  fun _ _ herrand => herrand

lemma Spares.trans (h₁ : h.Spares σ h') (h₂ : h'.Spares σ h'') : h.Spares σ h'' :=
  fun e hposts herrand => h₂ e hposts (h₁ e hposts herrand)

lemma spares_of_errands (heq : h'.errands = h.errands) : h.Spares σ h' := by
  intro e _ herrand
  unfold errand? at *
  rwa [heq]

lemma spares_put (hne : σ ≠ τ) : h.Spares σ (h.put τ e) := by
  intro e' _ herrand
  rw [errand?_put, if_neg hne, herrand]

lemma spares_remove (hne : σ ≠ τ) : h.Spares σ (h.remove τ) := by
  intro e' _ herrand
  rw [errand?_remove, if_neg hne, herrand]

lemma spares_announce {serial : Nat} {state : Handshake} {gone : Bool} :
    h.Spares σ (h.announce serial state gone) := by
  intro e hposts herrand
  rw [errand?_announce, herrand]
  exact congrArg some (Errand.hear_of_posts hposts)

/-- Closing the connection takes errands away, but it is not closed if there is a client
afterwards. -/
lemma spares_disconnectIfIdle :
    h.disconnectIfIdle.1.client ≠ none → h.Spares σ h.disconnectIfIdle.1 := by
  unfold disconnectIfIdle
  split
  · exact fun hclient => absurd rfl hclient
  · exact fun _ => .refl h

lemma spares_topics {topics : Topics} : h.Spares σ { h with topics } :=
  spares_of_errands rfl

lemma spares_abandon :
    (h.abandon topic message).1.client ≠ none → h.Spares σ (h.abandon topic message).1 := by
  intro hclient
  refine Spares.trans ?_ (spares_disconnectIfIdle hclient)
  split
  · exact .refl h
  · exact spares_topics.trans spares_announce

lemma spares_activate : h.Spares σ (h.activate topic) := by
  unfold activate
  split
  · exact .refl h
  · exact spares_topics.trans spares_announce

lemma spares_unregister : h.Spares σ (h.unregister topic l).1 := by
  unfold unregister
  split
  · exact spares_topics
  · exact spares_topics.trans spares_announce

lemma spares_conclude {result : Except RequestError Unit} (hne : σ ≠ τ) :
    (h.conclude τ e result).1.client ≠ none → h.Spares σ (h.conclude τ e result).1 := by
  unfold conclude
  split
  · exact fun _ => (spares_remove hne).trans spares_activate
  · exact fun hclient => (spares_remove hne).trans (spares_abandon hclient)
  · exact fun _ => spares_remove hne

lemma spares_post (hne : σ ≠ τ) :
    (h.post τ e).1.client ≠ none → h.Spares σ (h.post τ e).1 := by
  unfold post
  split
  · exact fun _ => spares_put hne
  · split
    · exact spares_conclude hne
    · exact fun _ => spares_put hne

lemma spares_queue (hne : σ ≠ τ) :
    (h.queue τ e).1.client ≠ none → h.Spares σ (h.queue τ e).1 :=
  fun hclient => (spares_of_errands rfl : h.Spares σ { h with turns := h.turns ++ [τ] }).trans
    (spares_post hne hclient)

lemma spares_await {latest : Handshake} {gone : Bool} (hne : σ ≠ τ) :
    h.Spares σ (h.await τ topic l latest gone).1 := by
  unfold await
  split
  · exact spares_remove hne
  · exact spares_remove hne
  · split
    · exact (spares_remove hne).trans spares_unregister
    · exact .refl h

lemma spares_resume (hne : σ ≠ τ) :
    (h.resume τ).1.client ≠ none → h.Spares σ (h.resume τ).1 := by
  unfold resume
  split
  · exact fun _ => .refl h
  · split
    · exact fun _ => spares_await hne
    all_goals
      split
      · split
        · exact spares_queue hne
        · exact fun _ => .refl h
      · exact spares_post hne
      · exact fun _ => .refl h

lemma spares_subscribe (hne : σ ≠ τ) :
    (h.subscribe τ topic l).1.client ≠ none → h.Spares σ (h.subscribe τ topic l).1 := by
  unfold subscribe
  split
  · exact fun _ => .refl h
  · exact fun hclient =>
      (spares_topics.trans (spares_put hne)).trans (spares_resume hne hclient)
  · rename_i topics _ _
    have hconnect : h.Spares σ ({ h with topics }.connect).1 := by
      unfold connect
      split
      · exact spares_topics
      · exact spares_of_errands rfl
    exact fun hclient => (hconnect.trans (spares_put hne)).trans (spares_resume hne hclient)

lemma spares_unsubscribe (hne : σ ≠ τ) :
    (h.unsubscribe τ topic l).1.client ≠ none → h.Spares σ (h.unsubscribe τ topic l).1 := by
  have hleave : h.Spares σ (h.unregister topic l).1 := spares_unregister
  unfold unsubscribe
  split
  · rename_i heq
    rw [heq] at hleave
    exact fun _ => hleave
  · rename_i heq
    rw [heq] at hleave
    split
    · exact fun hclient => absurd rfl hclient
    · exact fun _ => hleave.trans (spares_put hne)

lemma spares_greet {data : String} (hne : σ ≠ τ) :
    (h.greet τ data).1.client ≠ none → h.Spares σ (h.greet τ data).1 := by
  unfold greet
  split
  · exact fun _ => .refl h
  · rename_i client _
    have hnamed : h.Spares σ { h with client := some client } := spares_of_errands rfl
    dsimp only
    split
    · exact fun _ => hnamed
    · exact fun hclient => hnamed.trans (spares_queue hne hclient)

/-- An event of another ticket leaves an errand alone that posts the topics, as long as there is a
connection. -/
lemma spares_step {event : HubEvent} (hbegins : event.begins? ≠ some σ)
    (hmoves : event.moves? ≠ some σ) (hdrops : event ≠ .drop σ) :
    (h.step event).1.client ≠ none → h.Spares σ (h.step event).1 := by
  have hother : ∀ {τ : Ticket}, some τ ≠ some σ → σ ≠ τ := fun h heq => h (congrArg some heq.symm)
  cases event with
  | subscribe τ topic l => exact spares_subscribe (hother hbegins)
  | unsubscribe τ topic l => exact spares_unsubscribe (hother hbegins)
  | resume τ => exact spares_resume (hother hmoves)
  | drop τ =>
    have hne : σ ≠ τ := fun heq => hdrops (heq ▸ rfl)
    simp only [step, drop]
    split
    · exact fun hclient => (spares_remove hne).trans (spares_abandon hclient)
    · exact fun _ => spares_remove hne
    · exact fun _ => .refl h
  | expire τ =>
    simp only [step, expire]
    split
    · split
      · exact spares_conclude (hother hmoves)
      · exact fun _ => .refl h
    · exact fun _ => .refl h
  | posted τ result =>
    simp only [step, posted]
    split
    · split
      · exact spares_conclude (hother hmoves)
      · exact fun _ => .refl h
    · exact fun _ => .refl h
  | message τ name data =>
    simp only [step, Hub.message]
    split
    · split
      · exact spares_greet (hother hbegins)
      · exact fun _ => .refl h
    · exact fun _ => .refl h
  | lost | ended =>
    simp only [step]
    split <;> exact fun _ => spares_of_errands rfl

end Hub

namespace Hub

variable {h : Hub} {τ σ : Ticket} {e : Errand} {topic message : String} {l : Listener}
  {r : Hub × List Effect} {c : Option Claim}

/-! ### What is posted -/

lemma put_client : (h.put τ e).client = h.client := by
  unfold put
  split <;> rfl

lemma postings_disconnectIfIdle : postings h.disconnectIfIdle.2 = [] := by
  unfold disconnectIfIdle disconnect
  split
  · dsimp only
    split <;> rfl
  · rfl

lemma postings_conclude {result : Except RequestError Unit} :
    postings (h.conclude τ e result).2 = [] := by
  unfold conclude
  split
  · rfl
  · exact (postings_append _ _).trans (by rw [abandon, postings_disconnectIfIdle]; rfl)
  · rfl

/-- `Tells r`: what an operation posts, if anything, are the topics of its table under the name of
its client. -/
def Tells (r : Hub × List Effect) : Prop :=
  ∀ τ client names, (τ, client, names) ∈ postings r.2 →
    names = r.1.topics.names ∧ r.1.client = some client

lemma tells_of_silent (h : postings r.2 = []) : Tells r := by
  intro τ client names hmem
  rw [h] at hmem
  cases hmem

lemma tells_post : Tells (h.post τ e) := by
  unfold post
  split
  · exact tells_of_silent rfl
  · split
    · exact tells_of_silent postings_conclude
    · rename_i client hclient
      intro σ client' names hmem
      obtain ⟨-, rfl, rfl⟩ : σ = τ ∧ client' = client ∧ names = h.topics.names := by
        simpa [postings, Effect.posting?] using hmem
      exact ⟨congrArg Topics.names put_topics.symm, put_client.trans hclient⟩

lemma tells_queue : Tells (h.queue τ e) :=
  tells_post

lemma tells_resume : Tells (h.resume τ) := by
  have hawait : ∀ topic l latest gone, postings (h.await τ topic l latest gone).2 = [] := by
    intro topic l latest gone
    cases latest with
    | active | failed => rfl
    | pending => cases gone <;> rfl
  unfold resume
  split
  · exact tells_of_silent rfl
  · split
    · exact tells_of_silent (hawait _ _ _ _)
    all_goals
      split
      · split
        · exact tells_queue
        · exact tells_of_silent rfl
      · exact tells_post
      · exact tells_of_silent rfl

lemma tells_subscribe : Tells (h.subscribe τ topic l) := by
  unfold subscribe
  split
  · exact tells_of_silent rfl
  · exact tells_resume
  · rename_i topics _ _
    have hconnect : postings ({ h with topics }.connect).2 = [] := by
      unfold connect
      split <;> rfl
    intro σ client names hmem
    rw [postings_append, hconnect] at hmem
    exact tells_resume σ client names hmem

lemma tells_greet {data : String} : Tells (h.greet τ data) := by
  unfold greet
  split
  · exact tells_of_silent rfl
  · dsimp only
    split
    · exact tells_of_silent rfl
    · exact tells_queue

lemma postings_deliver {name data : String} : postings (h.deliver name data) = [] := by
  unfold deliver
  split
  · rfl
  · split
    · rfl
    · rw [postings, List.filterMap_map]
      exact List.filterMap_eq_nil_iff.mpr fun _ _ => rfl

lemma tells_step (h : Hub) (event : HubEvent) : Tells (h.step event) := by
  cases event with
  | subscribe τ topic l => exact tells_subscribe
  | unsubscribe τ topic l =>
    simp only [step, unsubscribe]
    split
    · exact tells_of_silent rfl
    · split
      · exact tells_of_silent (by unfold disconnect; dsimp only; split <;> rfl)
      · exact tells_of_silent rfl
  | drop τ =>
    simp only [step, drop]
    split
    · exact tells_of_silent postings_disconnectIfIdle
    · exact tells_of_silent rfl
    · exact tells_of_silent rfl
  | resume τ => exact tells_resume
  | expire τ =>
    simp only [step, expire]
    split
    · split
      · exact tells_of_silent postings_conclude
      · exact tells_of_silent rfl
    · exact tells_of_silent rfl
  | posted τ result =>
    simp only [step, posted]
    split
    · split
      · exact tells_of_silent postings_conclude
      · exact tells_of_silent rfl
    · exact tells_of_silent rfl
  | message τ name data =>
    simp only [step, Hub.message]
    split
    · split
      · exact tells_greet
      · exact tells_of_silent postings_deliver
    · exact tells_of_silent rfl
  | lost | ended =>
    simp only [step]
    split <;> exact tells_of_silent rfl

/-! ### What is owed -/

/-- Whether an errand with a claim, or with none, owes a post. -/
def Owes (h : Hub) (c : Option Claim) : Prop :=
  ∃ σ e, h.errand? σ = some e ∧ e.Owes ∧ e.claim? = c

/-- With a connection an errand that does not post in its turn waits for it. -/
lemma post_of_silent (hclient : h.client ≠ none) (hsilent : postings (h.post τ e).2 = []) :
    (h.post τ e).1 = h.put τ (e.at .queued) := by
  unfold post at hsilent ⊢
  split
  · rfl
  · rename_i hturn
    rw [if_neg hturn] at hsilent
    split
    · rename_i hlost
      exact absurd hlost hclient
    · rename_i client hnamed
      rw [hnamed] at hsilent
      cases hsilent

lemma errand?_post_of_silent (hposts : e.progress? ≠ none) (hclient : h.client ≠ none)
    (hsilent : postings (h.post τ e).2 = []) :
    ∃ e', (h.post τ e).1.errand? τ = some e' ∧ e'.Owes ∧ e'.claim? = e.claim? := by
  rw [post_of_silent hclient hsilent]
  exact ⟨_, errand?_put.trans (if_pos rfl), Errand.owes_at_queued hposts, Errand.claim?_at⟩

/-- With a connection an errand that goes on without posting still owes what it has owed. -/
lemma errand?_resume_of_silent (herrand : h.errand? τ = some e) (howes : e.Owes)
    (hclient : h.client ≠ none) (hsilent : postings (h.resume τ).2 = []) :
    ∃ e', (h.resume τ).1.errand? τ = some e' ∧ e'.Owes ∧ e'.claim? = e.claim? := by
  rcases howes with hprogress | hprogress
  · rw [resume_eq_go herrand hprogress] at hsilent ⊢
    have hconnected : h.isConnected = true := Option.isSome_iff_ne_none.mpr hclient
    simp only [go, hconnected, if_true] at hsilent ⊢
    exact errand?_post_of_silent (h := { h with turns := h.turns ++ [τ] })
      (by simp [hprogress]) hclient hsilent
  · rw [resume_eq_go herrand hprogress] at hsilent ⊢
    exact errand?_post_of_silent (by simp [hprogress]) hclient hsilent

end Hub

/-! ### One moment -/

namespace Moment

/-- Whether the topics are posted at a moment, on behalf of an errand and under the name of a
client. -/
def Posts (m : Moment) (τ : Ticket) (client : String) (names : List String) : Prop :=
  (τ, client, names) ∈ postings (m.hub.step m.event).2

/-- Whether a topic is taken out at a moment without anyone who owes a post for it: its opening is
dropped, or a subscription leaves that has waited in vain. -/
def Withdraws (m : Moment) (topic : String) : Prop :=
  (∃ τ l, m.event = .drop τ ∧ m.hub.claim? τ = some (.opening topic l)) ∨
    ∃ τ l serial, m.event = .resume τ ∧
      m.hub.claim? τ = some (.joining topic l serial .pending true)

/-- What is asked of the moments after the last post: tickets that are used for the first time are
not in use, there is a connection, nothing is posted, and no answer to a post is an error. -/
structure Settles (m : Moment) : Prop where
  fresh : ∀ τ, m.event.begins? = some τ → m.hub.errand? τ = none
  before : m.hub.client ≠ none
  after : m.next.client ≠ none
  silent : postings (m.hub.step m.event).2 = []
  accepted : ∀ τ result, m.event = .posted τ result → result = .ok ()

variable {m : Moment} {τ : Ticket} {x : String} {l : Listener} {c : Option Claim}

/-- What is owed is still owed after a moment without a post, unless it was an opening that is
dropped. -/
lemma Settles.owes (hm : m.Settles) (howes : m.hub.Owes c) :
    m.next.Owes c ∨ ∃ τ topic l, m.event = .drop τ ∧
      m.hub.claim? τ = some (.opening topic l) ∧ c = some (.opening topic l) := by
  obtain ⟨h, event⟩ := m
  obtain ⟨σ, e, herrand, he, rfl⟩ := howes
  have hsame : (h.step event).1 = h → Hub.Owes (h.step event).1 e.claim? := by
    intro heq
    rw [heq]
    exact ⟨σ, e, herrand, he, rfl⟩
  have hconnected : h.isConnected = true := Option.isSome_iff_ne_none.mpr hm.before
  by_cases hbegins : event.begins? = some σ
  · exact absurd (hm.fresh σ hbegins) (by simp [herrand])
  by_cases hdrops : event = .drop σ
  · subst hdrops
    cases e with
    | opening topic l p =>
      exact .inr ⟨σ, topic, l, rfl, Hub.claim?_eq_some.mpr ⟨_, herrand, rfl⟩, rfl⟩
    | joining => exact absurd rfl he.progress_ne_none
    | shrinking | restoring => exact .inl (hsame (by simp only [Hub.step, Hub.drop, herrand]))
  by_cases hmoves : event.moves? = some σ
  · left
    cases event with
    | resume τ =>
      obtain rfl := Option.some.inj hmoves
      obtain ⟨e', herrand', he', hclaim⟩ :=
        Hub.errand?_resume_of_silent herrand he hm.before hm.silent
      exact ⟨τ, e', herrand', he', hclaim⟩
    | expire τ =>
      obtain rfl := Option.some.inj hmoves
      exact hsame (by simp [Hub.step, Hub.expire, herrand, hconnected])
    | posted τ result =>
      obtain rfl := Option.some.inj hmoves
      -- no answer is expected before there has been a post
      rcases he with hprogress | hprogress <;>
        exact hsame (by simp only [Hub.step, Hub.posted, herrand, hprogress])
    | _ => cases hmoves
  · left
    exact ⟨σ, e, Hub.spares_step hbegins hmoves hdrops hm.after e he.progress_ne_none herrand, he,
      rfl⟩

/-- The first listener of a topic owes a post. -/
lemma Settles.owes_of_opens (hm : m.Settles) (hevent : m.event = .subscribe τ x l)
    (hfirst : m.hub.topics.find? x = none) : m.next.Owes (some (.opening x l)) := by
  obtain ⟨h, event⟩ := m
  obtain rfl : event = .subscribe τ x l := hevent
  have hsilent : postings (h.subscribe τ x l).2 = [] := hm.silent
  show Hub.Owes (h.subscribe τ x l).1 _
  rcases h.topics.register_cases x l with ⟨e, hfind, -, -⟩ | ⟨topics, -, -, -, hreg⟩ |
    ⟨e, _, hfind, -, -, -, -⟩
  · exact absurd (hfirst.symm.trans hfind) (by simp)
  · have hclient :
        (({ h with topics }.connect).1.put τ (.opening x l .connecting)).client ≠ none := by
      rw [Hub.put_client, Hub.connect]
      split <;> exact hm.before
    have herrand : (({ h with topics }.connect).1.put τ (.opening x l .connecting)).errand? τ =
        some (.opening x l .connecting) := Hub.errand?_put.trans (if_pos rfl)
    unfold Hub.subscribe at hsilent ⊢
    rw [hreg] at hsilent ⊢
    dsimp only at hsilent ⊢
    rw [postings_append] at hsilent
    obtain ⟨e, herrand', he, hclaim⟩ := Hub.errand?_resume_of_silent herrand (.inl rfl) hclient
      (List.append_eq_nil_iff.mp hsilent).2
    exact ⟨τ, e, herrand', he, hclaim⟩
  · exact absurd (hfirst.symm.trans hfind) (by simp)

/-- Who leaves the last of a topic owes a post. -/
lemma Settles.owes_of_leaves (hm : m.Settles) (hevent : m.event = .unsubscribe τ x l)
    (hheld : m.hub.topics.listeners x ≠ []) (hempty : m.next.topics.listeners x = []) :
    m.next.Owes none := by
  obtain ⟨h, event⟩ := m
  obtain rfl : event = .unsubscribe τ x l := hevent
  have hafter : (h.unsubscribe τ x l).1.client ≠ none := hm.after
  have htopics : (h.unregister x l).1.topics = (h.topics.unregister x l).1 := Hub.topics_unregister
  have hleft : (h.topics.unregister x l).1.listeners x = [] := by
    rw [← Hub.unsubscribe_topics]
    exact hempty
  have hgone : ∃ h', h.unregister x l = (h', true) := by
    rcases h.topics.unregister_cases x l with ⟨-, hreg⟩ | ⟨e, t, -, -, hset, -, hreg⟩
    · rw [hreg] at hleft
      exact absurd hleft hheld
    · have hwithout : e.without l = none := by
        cases hwithout : e.without l with
        | none => rfl
        | some e' =>
          rw [hreg, Topics.listeners_of_find? (hset.find?_self.trans hwithout)] at hleft
          exact absurd hleft (Topics.listeners_of_without hwithout)
      rw [hwithout] at hreg
      simp only [Hub.unregister, hreg]
      exact ⟨_, rfl⟩
  obtain ⟨h', hgone⟩ := hgone
  show Hub.Owes (h.unsubscribe τ x l).1 _
  unfold Hub.unsubscribe at hafter ⊢
  rw [hgone] at hafter ⊢
  dsimp only at hafter ⊢
  split at hafter
  · exact absurd rfl hafter
  · rename_i hbusy
    rw [if_neg hbusy]
    exact ⟨τ, .shrinking .connecting, Hub.errand?_put.trans (if_pos rfl), .inl rfl, rfl⟩

/-- With a connection no opening fails by going on. -/
lemma endings_resume_of_opening {h : Hub} (hclaim : h.claim? τ = some (.opening x l))
    (hclient : h.client ≠ none) : endings (h.resume τ).2 = [] := by
  obtain ⟨e, herrand, heclaim⟩ := Hub.claim?_eq_some.mp hclaim
  have hsame : h.claim? τ = e.claim? := hclaim.trans heclaim.symm
  cases e with
  | joining | shrinking | restoring => cases heclaim
  | opening topic k p =>
    rw [Hub.resume_eq_go herrand rfl]
    cases p with
    | connecting =>
      unfold Hub.go
      dsimp only
      split
      · exact (Hub.stays_queue hsame hclient).2
      · rfl
    | queued => exact (Hub.stays_post hsame hclient).2
    | posting => rfl

/-- A topic that loses its last listener is left by it, or it is withdrawn. -/
lemma Settles.emptied (hm : m.Settles) (hheld : m.hub.topics.listeners x ≠ [])
    (hempty : m.next.topics.listeners x = []) :
    (∃ τ l, m.event = .unsubscribe τ x l) ∨ m.Withdraws x := by
  have hseat : m.seating.seat x (m.hub.topics.listeners x) = [] := by
    rw [← m.listeners_next]
    exact hempty
  obtain ⟨h, event⟩ := m
  have hstays : Moment.seating ⟨h, event⟩ ≠ .stays := by
    intro heq
    rw [heq] at hseat
    exact hheld hseat
  cases event with
  | subscribe τ topic l =>
    simp only [seating, Seating.seat] at hseat
    split at hseat
    · simp at hseat
    · exact absurd hseat hheld
  | unsubscribe τ topic l =>
    simp only [seating, Seating.seat] at hseat
    split at hseat
    · rename_i htopic
      exact .inl ⟨τ, l, htopic ▸ rfl⟩
    · exact absurd hseat hheld
  | drop τ =>
    simp only [seating] at hseat hstays
    split at hseat
    · rename_i topic l hclaim
      simp only [Seating.seat] at hseat
      split at hseat
      · rename_i htopic
        exact .inr (.inl ⟨τ, l, rfl, htopic ▸ hclaim⟩)
      · exact absurd hseat hheld
    · exact absurd hseat hheld
  | resume τ =>
    have hends : ∀ topic l, h.claim? τ = some (.opening topic l) → endings (h.resume τ).2 = [] :=
      fun _ _ hclaim => endings_resume_of_opening hclaim hm.before
    simp only [seating, Hub.settledBy] at hseat
    split at hseat
    · rename_i hfails
      split at hseat
      · rename_i hclaim
        rw [ends, Hub.step, hends _ _ hclaim] at hfails
        cases hfails
      · rename_i topic l serial hclaim
        simp only [Seating.seat] at hseat
        split at hseat
        · rename_i htopic
          exact .inr (.inr ⟨τ, l, serial, rfl, htopic ▸ hclaim⟩)
        · exact absurd hseat hheld
      · exact absurd hseat hheld
    · exact absurd hseat hheld
  | expire τ =>
    have hconnected : h.isConnected = true := Option.isSome_iff_ne_none.mpr hm.before
    have hidle : h.expire τ = (h, []) := by
      simp only [Hub.expire, hconnected]
      split <;> simp
    refine absurd ?_ hstays
    simp only [seating, ends, Hub.step, hidle]
    exact Hub.settledBy_nil
  | posted τ result =>
    obtain rfl := hm.accepted τ result rfl
    have hends : endings (h.posted τ (.ok ())).2 = [] ∨
        endings (h.posted τ (.ok ())).2 = [(τ, .ok true)] := by
      unfold Hub.posted
      split
      · rename_i e _
        split
        · cases e with
          | opening => exact .inr rfl
          | joining | shrinking | restoring => exact .inl rfl
        · exact .inl rfl
      · exact .inl rfl
    refine absurd ?_ hstays
    simp only [seating, ends, Hub.step]
    rcases hends with hends | hends <;> rw [hends]
    · exact Hub.settledBy_nil
    · exact Hub.settledBy_ok
  | message | lost | ended => exact absurd rfl hstays

end Moment

/-! ### The last post -/

/-- What differs between the table of a hub and the names that were posted last is owed by an
errand, or it has been withdrawn. -/
structure Accurate (h : Hub) (names : List String) (withdrawn : String → Prop) : Prop where
  listed : ∀ x, h.topics.listeners x ≠ [] → x ∈ names ∨ ∃ l, h.Owes (some (.opening x l))
  held : ∀ x ∈ names, h.topics.listeners x ≠ [] ∨ withdrawn x ∨ h.Owes none

namespace Accurate

variable {h : Hub} {m : Moment} {names : List String} {withdrawn withdrawn' : String → Prop}
  {events : List HubEvent}

/-- Nothing differs when the topics have just been posted. -/
lemma of_names (ht : h.topics.Tidy) : Accurate h h.topics.names fun _ => False := by
  refine ⟨fun x hx => .inl ?_, fun x hx => .inl ?_⟩
  · exact Topics.mem_names.mpr (ht.listeners_ne_nil.mp hx)
  · exact ht.listeners_ne_nil.mpr (Topics.mem_names.mp hx)

lemma mono (ha : Accurate h names withdrawn) (himp : ∀ x, withdrawn x → withdrawn' x) :
    Accurate h names withdrawn' :=
  ⟨ha.listed, fun x hx => (ha.held x hx).imp_right (Or.imp_left (himp x))⟩

/-- A moment without a post keeps the account. -/
lemma next (ha : Accurate m.hub names withdrawn) (ht : m.hub.topics.Tidy) (hm : m.Settles) :
    Accurate m.next names fun x => withdrawn x ∨ m.Withdraws x := by
  refine ⟨fun x hx => ?_, fun x hx => ?_⟩
  · by_cases hheld : m.hub.topics.listeners x = []
    · -- somebody has come, who is the first
      have hfirst : m.hub.topics.find? x = none := by
        cases hfind : m.hub.topics.find? x with
        | none => rfl
        | some e => exact absurd hheld (ht.listeners_ne_nil.mpr ⟨e, hfind⟩)
      obtain ⟨l, hl⟩ := List.exists_mem_of_ne_nil _ hx
      have habsent : l ∉ m.hub.topics.listeners x := by simp [hheld]
      have hcomes : m.seating = .comes x l := by
        by_contra hother
        refine Seating.notMem_seat habsent hother ?_
        rwa [← m.listeners_next]
      obtain ⟨τ, hevent⟩ := Moment.event_of_comes hcomes
      exact .inr ⟨l, hm.owes_of_opens hevent hfirst⟩
    · refine (ha.listed x hheld).imp_right ?_
      rintro ⟨l, howes⟩
      rcases hm.owes howes with howes | ⟨τ, topic, k, hevent, hclaim, heq⟩
      · exact ⟨l, howes⟩
      · -- the opening has been dropped, and its topic with it
        obtain ⟨rfl, rfl⟩ := Claim.opening.inj (Option.some.inj heq)
        refine absurd ?_ hx
        rw [m.listeners_next, Moment.seating, hevent]
        simp [hclaim, Seating.seat]
  · rcases ha.held x hx with hheld | hwithdrawn | howes
    · by_cases hempty : m.next.topics.listeners x = []
      · rcases hm.emptied hheld hempty with ⟨τ, l, hevent⟩ | hwithdraws
        · exact .inr (.inr (hm.owes_of_leaves hevent hheld hempty))
        · exact .inr (.inl (.inr hwithdraws))
      · exact .inl hempty
    · exact .inr (.inl (.inl hwithdrawn))
    · rcases hm.owes howes with howes | ⟨_, _, _, _, _, heq⟩
      · exact .inr (.inr howes)
      · cases heq

/-- A run without a post keeps the account. -/
lemma run (ha : Accurate h names withdrawn) (ht : h.topics.Tidy)
    (hsettles : ∀ m ∈ h.moments events, m.Settles) :
    Accurate (h.run events).1 names fun x =>
      withdrawn x ∨ ∃ m ∈ h.moments events, m.Withdraws x := by
  induction events generalizing h withdrawn with
  | nil => exact ha.mono fun _ => .inl
  | cons event events ih =>
    have hfirst := ha.next (m := ⟨h, event⟩) ht (hsettles _ List.mem_cons_self)
    have hrest := ih hfirst ((h.edit_step event).tidy ht) fun m hm =>
      hsettles m (List.mem_cons_of_mem _ hm)
    refine hrest.mono fun x => ?_
    rintro ((hwithdrawn | hwithdraws) | ⟨m, hm, hwithdraws⟩)
    · exact .inl hwithdrawn
    · exact .inr ⟨_, List.mem_cons_self, hwithdraws⟩
    · exact .inr ⟨m, List.mem_cons_of_mem _ hm, hwithdraws⟩

end Accurate

/-- What is asked of the moments of a run that goes on without a post, given that the client has a
name all the while. -/
lemma settles_of_mem_moments {h : Hub} {events : List HubEvent} (hnamed : h.client ≠ none)
    (hfresh : ∀ m ∈ h.moments events, ∀ τ, m.event.begins? = some τ → m.hub.errand? τ = none)
    (hclient : ∀ m ∈ h.moments events, m.next.client ≠ none)
    (hsilent : ∀ m ∈ h.moments events, ∀ τ client names, ¬ m.Posts τ client names)
    (haccepted : ∀ m ∈ h.moments events, ∀ τ result, m.event = .posted τ result → result = .ok ()) :
    ∀ m ∈ h.moments events, m.Settles := by
  have hbefore := Hub.forall_hub_of_forall_next (P := fun h => h.client ≠ none) hnamed hclient
  intro m hm
  refine ⟨hfresh m hm, hbefore m hm, hclient m hm, ?_, haccepted m hm⟩
  exact List.eq_nil_iff_forall_not_mem.mpr fun posting => hsilent m hm _ _ _

/-- When no errand is left and the client has had the same name since the last post, and if no post
has failed since, the names that were posted are in strictly ascending order, all topics with
listeners are among them, and each of them has listeners or has been withdrawn since. -/
theorem posted_of_quiescent {patience : Nat} {events : List HubEvent} {before since : List Moment}
    {m : Moment} {τ : Ticket} {client : String} {names : List String}
    (hdistinct : (events.filterMap HubEvent.begins?).Nodup)
    (hrun : (Hub.new patience).moments events = before ++ m :: since)
    (hposts : m.Posts τ client names)
    (hlast : ∀ m' ∈ since, ∀ σ client' names', ¬ m'.Posts σ client' names')
    (hclient : ∀ m' ∈ since, m'.next.client = some client)
    (haccepted : ∀ m' ∈ since, ∀ σ result, m'.event = .posted σ result → result = .ok ())
    (hidle : ((Hub.new patience).run events).1.errands = []) :
    let topics := ((Hub.new patience).run events).1.topics
    names.Pairwise (· < ·) ∧ (∀ x, topics.listeners x ≠ [] → x ∈ names) ∧
      ∀ x ∈ names, topics.listeners x ≠ [] ∨ ∃ m' ∈ since, m'.Withdraws x := by
  intro topics
  obtain ⟨rest, hsince, hend⟩ := Hub.exists_of_moments_eq hrun
  have hmem : ∀ m' ∈ m :: since, m' ∈ (Hub.new patience).moments events := by
    intro m' hm'
    rw [hrun]
    exact List.mem_append_right _ hm'
  have htidy : m.next.topics.Tidy :=
    (m.hub.edit_step m.event).tidy
      (Hub.tidy_of_mem_moments Topics.tidy_empty (hmem m List.mem_cons_self))
  obtain ⟨rfl, hnamed⟩ := m.hub.tells_step m.event τ client names hposts
  have hunused : ∀ σ ∈ (Hub.new patience).tickets, σ ∉ events.filterMap HubEvent.begins? :=
    fun _ hσ => absurd hσ List.not_mem_nil
  have hsettles : ∀ m' ∈ m.next.moments rest, m'.Settles := by
    rw [hsince] at hmem hlast hclient haccepted
    refine settles_of_mem_moments (hnamed ▸ Option.some_ne_none client) ?_ ?_ hlast haccepted
    · exact fun m' hm' =>
        Hub.fresh_of_mem_moments hdistinct hunused (hmem m' (List.mem_cons_of_mem _ hm'))
    · exact fun m' hm' => hclient m' hm' ▸ Option.some_ne_none client
  have haccurate := (Accurate.of_names htidy).run htidy hsettles
  rw [← hend, ← hsince] at haccurate
  have hnothing : ∀ c, ¬ Hub.Owes ((Hub.new patience).run events).1 c := by
    rintro c ⟨σ, e, herrand, -⟩
    rw [Hub.errand?, hidle] at herrand
    cases herrand
  refine ⟨htidy.pairwise_names, fun x hx => ?_, fun x hx => ?_⟩
  · rcases haccurate.listed x hx with hlisted | ⟨l, howes⟩
    · exact hlisted
    · exact absurd howes (hnothing _)
  · rcases haccurate.held x hx with hheld | (hfalse | hwithdraws) | howes
    · exact .inl hheld
    · exact absurd hfalse id
    · exact .inr hwithdraws
    · exact absurd howes (hnothing _)

/-- Two listeners open a topic each, and one of them leaves. -/
def leftTopic : List HubEvent :=
  [.subscribe 0 "a" ⟨1⟩, .message 1 "PB_CONNECT" "\x7b\"clientId\":\"c\"\x7d", .resume 0,
    .posted 1 (.ok ()), .resume 0, .posted 0 (.ok ()), .subscribe 2 "b" ⟨2⟩, .posted 2 (.ok ()),
    .unsubscribe 3 "a" ⟨1⟩, .resume 3, .posted 3 (.ok ())]

/-- What is posted after that has the other topic only. -/
theorem posted_of_quiescent_of_leftTopic :
    let moments := (Hub.new 1000).moments leftTopic
    let topics := ((Hub.new 1000).run leftTopic).1.topics
    (moments.get ⟨9, by decide⟩).Posts 3 "c" ["b"] ∧ topics.names = ["b"] ∧
      (∀ x, topics.listeners x ≠ [] → x ∈ ["b"]) ∧
      ∀ x ∈ ["b"], topics.listeners x ≠ [] ∨
        ∃ m ∈ [moments.get ⟨10, by decide⟩], m.Withdraws x := by
  intro moments topics
  have hsplit : moments = moments.take 9 ++ moments.get ⟨9, by decide⟩ ::
      [moments.get ⟨10, by decide⟩] := rfl
  have hposts : (moments.get ⟨9, by decide⟩).Posts 3 "c" ["b"] := by
    unfold Moment.Posts
    decide +kernel
  have hsince : ∀ {p : Moment → Prop}, p (moments.get ⟨10, by decide⟩) →
      ∀ m ∈ [moments.get ⟨10, by decide⟩], p m := by
    intro p hp m hm
    rwa [List.mem_singleton.mp hm]
  have hlast : ∀ σ client names, ¬ (moments.get ⟨10, by decide⟩).Posts σ client names := by
    intro σ client names hmem
    have hsilent : postings ((moments.get ⟨10, by decide⟩).hub.step
        (moments.get ⟨10, by decide⟩).event).2 = [] := by decide +kernel
    rw [Moment.Posts, hsilent] at hmem
    cases hmem
  have haccepted : ∀ σ result, (moments.get ⟨10, by decide⟩).event = .posted σ result →
      result = .ok () := by
    intro σ result heq
    have hevent : (moments.get ⟨10, by decide⟩).event = .posted 3 (.ok ()) := rfl
    exact (HubEvent.posted.inj (hevent.symm.trans heq)).2.symm
  obtain ⟨-, hlisted, hheld⟩ := posted_of_quiescent (by decide +kernel) hsplit hposts
    (hsince hlast) (hsince (by decide +kernel)) (hsince haccepted)
    (List.isEmpty_iff.mp (by decide +kernel))
  exact ⟨hposts, by decide +kernel, hlisted, hheld⟩

/-- Two listeners open a topic each.  The topics of both have been posted when one of them is
dropped, which still waits for its turn. -/
def droppedOpening : List HubEvent :=
  [.subscribe 0 "a" ⟨1⟩, .subscribe 1 "b" ⟨2⟩,
    .message 2 "PB_CONNECT" "\x7b\"clientId\":\"c\"\x7d", .resume 0, .resume 1, .posted 2 (.ok ()),
    .resume 0, .posted 0 (.ok ()), .drop 1]

/-- No errand is left, no post has failed, and what was posted last has a topic that nobody listens
to. -/
theorem posted_topic_withdrawn_of_droppedOpening :
    let run := (Hub.new 1000).run droppedOpening
    run.1.errands.isEmpty = true ∧ run.1.client = some "c" ∧
      (postings run.2).getLast? = some (0, "c", ["a", "b"]) ∧ run.1.topics.names = ["a"] ∧
      run.1.topics.listeners "b" = [] := by
  decide +kernel

end RunBoard.Realtime
