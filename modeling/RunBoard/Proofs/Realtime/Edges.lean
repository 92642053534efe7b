import RunBoard.Proofs.Realtime.Pairs
import RunBoard.Proofs.Realtime.Posting

/-!
# What is posted at which edge

The topics are posted on behalf of errands, and an errand that posts them is made where a topic
gains its first listener, where it loses its last, and where a connection is greeted.  Each of these
pays for one post: an errand that owes a post has been paid for, and when it posts it owes nothing
any more.  So the account is one inequality, `Hub.step_pays`: what is posted for a ticket and what
is still due for it is not more than what was due, and one for an edge or a greeting.
-/

namespace RunBoard.Realtime

/-! ### What is due -/

instance (e : Errand) : Decidable e.Owes :=
  inferInstanceAs (Decidable (_ ∨ _))

/-- How many posts an errand has still to make. -/
def Errand.due (e : Errand) : Nat :=
  if e.Owes then 1 else 0

/-- How many posts have still to be made for a ticket. -/
def Hub.due (h : Hub) (σ : Ticket) : Nat :=
  (h.errand? σ).elim 0 Errand.due

/-- How many posts are made for a ticket. -/
def posts (σ : Ticket) (effects : List Effect) : Nat :=
  (postings effects).countP (·.1 == σ)

namespace Moment

/-- Whether a topic gains its first listener at a moment or loses its last, by a ticket. -/
def isEdge (m : Moment) (σ : Ticket) : Bool :=
  match m.event with
  | .subscribe τ x _ => τ == σ && m.hub.topics.pairs.on x = ∅
  | .unsubscribe τ x l => τ == σ && m.hub.topics.pairs.on x = {(x, l)}
  | _ => false

/-- Whether the greeting of a connection is read at a moment, with a ticket. -/
def isGreeting (m : Moment) (σ : Ticket) : Bool :=
  match m.event with
  | .message τ name _ => τ == σ && m.hub.reads && name == Hub.greeting
  | _ => false

end Moment

namespace Errand

variable {e : Errand} {serial : Nat} {state : Handshake} {gone : Bool}

lemma due_le_one : e.due ≤ 1 := by
  unfold due
  split <;> omega

lemma due_of_owes (h : e.Owes) : e.due = 1 :=
  if_pos h

lemma due_at_posting {client : String} {names : List String} :
    (e.at (.posting client names)).due = 0 := by
  cases e <;> rfl

lemma due_hear : (e.hear serial state gone).due = e.due := by
  cases e with
  | joining topic l s latest was =>
    simp only [hear]
    split <;> rfl
  | opening | shrinking | restoring => rfl

end Errand

namespace Hub

variable {h h' : Hub} {τ σ : Ticket} {e : Errand} {topic x message : String} {l : Listener}
  {effects : List Effect} {r : Hub × List Effect}

lemma posts_of_silent (hsilent : postings effects = []) : posts σ effects = 0 := by
  rw [posts, hsilent]
  rfl

@[simp] lemma posts_append {more : List Effect} :
    posts σ (effects ++ more) = posts σ effects + posts σ more := by
  simp [posts]

lemma due_of_errands (heq : h'.errands = h.errands) : h'.due σ = h.due σ := by
  unfold due errand?
  rw [heq]

lemma due_put : (h.put τ e).due σ = if σ = τ then e.due else h.due σ := by
  unfold due
  rw [errand?_put]
  split <;> rfl

lemma due_remove : (h.remove τ).due σ = if σ = τ then 0 else h.due σ := by
  unfold due
  rw [errand?_remove]
  split <;> rfl

lemma due_remove_le : (h.remove τ).due σ ≤ h.due σ := by
  rw [due_remove]
  split
  · exact Nat.zero_le _
  · exact le_rfl

lemma due_announce {serial : Nat} {state : Handshake} {gone : Bool} :
    (h.announce serial state gone).due σ = h.due σ := by
  unfold due
  rw [errand?_announce]
  cases h.errand? σ with
  | none => rfl
  | some e => exact Errand.due_hear

lemma due_disconnect_le : h.disconnect.1.due σ ≤ h.due σ := by
  have herrand : h.disconnect.1.errand? σ =
      (((h.errands.filter (·.2.isRestoring)).map (·.1)).foldl remove h).errand? σ := rfl
  unfold due
  rw [herrand, errand?_foldl_remove]
  split
  · exact Nat.zero_le _
  · exact le_rfl

lemma due_abandon_le : (h.abandon topic message).1.due σ ≤ h.due σ := by
  have hidle : ∀ h : Hub, h.disconnectIfIdle.1.due σ ≤ h.due σ := by
    intro h
    unfold disconnectIfIdle
    split
    · exact due_disconnect_le
    · exact le_rfl
  unfold abandon
  refine (hidle _).trans ?_
  split
  · exact le_rfl
  · exact due_announce.le

lemma due_activate : (h.activate topic).due σ = h.due σ := by
  unfold activate
  split
  · rfl
  · exact due_announce

lemma due_unregister : (h.unregister topic l).1.due σ = h.due σ := by
  unfold unregister
  split
  · rfl
  · exact due_announce

lemma due_conclude_le {result : Except RequestError Unit} :
    (h.conclude τ e result).1.due σ ≤ (h.remove τ).due σ := by
  unfold conclude
  split
  · exact due_activate.le
  · exact due_abandon_le
  · exact le_rfl

/-! ### What an operation costs -/

/-- `h.Pays σ n r`: the posts of an operation for a ticket, with those that are due afterwards, are
paid for by those that were due and by `n` others. -/
def Pays (h : Hub) (σ : Ticket) (n : Nat) (r : Hub × List Effect) : Prop :=
  posts σ r.2 + r.1.due σ ≤ h.due σ + n

lemma pays_of_silent {n : Nat} (hsilent : postings r.2 = []) (hdue : r.1.due σ ≤ h.due σ + n) :
    h.Pays σ n r := by
  rw [Pays, posts_of_silent hsilent, Nat.zero_add]
  exact hdue

lemma pays_refl {n : Nat} : h.Pays σ n (h, []) :=
  pays_of_silent rfl (Nat.le_add_right _ _)

/-- Whatever was due for an errand, one post is enough when it posts or waits for its turn. -/
lemma posts_post (hposts : e.progress? ≠ none) :
    posts σ (h.post τ e).2 + (h.post τ e).1.due σ ≤ if σ = τ then 1 else h.due σ := by
  unfold post
  -- it waits for its turn; or the connection has gone, and the errand ends; or it posts
  split
  · rw [posts_of_silent rfl, due_put, Errand.due_of_owes (Errand.owes_at_queued hposts),
      Nat.zero_add]
  · split
    · rw [posts_of_silent postings_conclude, Nat.zero_add]
      refine due_conclude_le.trans ?_
      rw [due_remove]
      split
      · exact Nat.zero_le _
      · exact le_rfl
    · rename_i client _
      dsimp only
      rw [due_put, Errand.due_at_posting]
      by_cases hσ : σ = τ
      · subst hσ
        simp [posts, postings, Effect.posting?]
      · simp [posts, postings, Effect.posting?, hσ, Ne.symm hσ]

lemma posts_queue (hposts : e.progress? ≠ none) :
    posts σ (h.queue τ e).2 + (h.queue τ e).1.due σ ≤ if σ = τ then 1 else h.due σ :=
  posts_post (h := { h with turns := h.turns ++ [τ] }) hposts

lemma due_of_owes (herrand : h.errand? τ = some e) (howes : e.Owes) : h.due τ = 1 := by
  rw [due, herrand]
  exact Errand.due_of_owes howes

/-- The post of an errand for which one is due has been paid for. -/
lemma pays_of_due (hdue : h.due τ = 1)
    (hposts : posts σ r.2 + r.1.due σ ≤ if σ = τ then 1 else h.due σ) : h.Pays σ 0 r := by
  refine hposts.trans ?_
  split
  · rename_i hσ
    rw [hσ, hdue]
  · exact le_rfl

/-- An errand that goes on makes no post but the one that is due for it. -/
lemma resume_pays : h.Pays σ 0 (h.resume τ) := by
  cases herrand : h.errand? τ with
  | none =>
    have hidle : h.resume τ = (h, []) := by simp only [resume, herrand]
    rw [hidle]
    exact pays_refl
  | some e =>
    cases hprogress : e.progress? with
    | none =>
      cases e with
      | joining topic l serial latest gone =>
        -- who waits for others posts nothing, whatever the outcome
        have hawait : h.resume τ = h.await τ topic l latest gone := by simp only [resume, herrand]
        rw [hawait]
        cases latest with
        | active | failed => exact pays_of_silent rfl due_remove_le
        | pending =>
          cases gone with
          | false => exact pays_refl
          | true => exact pays_of_silent rfl (due_unregister.trans_le due_remove_le)
      | opening | shrinking | restoring => cases hprogress
    | some p =>
      have hposts : e.progress? ≠ none := by simp [hprogress]
      rw [resume_eq_go herrand hprogress]
      cases p with
      | connecting =>
        have hdue : h.due τ = 1 := due_of_owes herrand (.inl hprogress)
        simp only [go]
        split
        · exact pays_of_due hdue (posts_queue hposts)
        · exact pays_refl
      | queued =>
        have hdue : h.due τ = 1 := due_of_owes herrand (.inr hprogress)
        exact pays_of_due hdue (posts_post hposts)
      | posting => exact pays_refl

/-- Going on with an errand that has just been put in its place costs what is due for it. -/
lemma put_pays {n : Nat} (hdue : σ = τ → e.due ≤ n) (hr : (h.put τ e).Pays σ 0 r) :
    h.Pays σ n r := by
  refine hr.trans ?_
  rw [due_put]
  split
  · rename_i hσ
    exact (hdue hσ).trans (Nat.le_add_left _ _)
  · exact Nat.le_add_right _ _

lemma subscribe_pays (ht : h.topics.Faithful) :
    h.Pays σ (Moment.isEdge ⟨h, .subscribe τ x l⟩ σ).toNat (h.subscribe τ x l) := by
  rcases h.topics.register_cases x l with ⟨e, -, -, hreg⟩ | ⟨topics, hnone, -, -, hreg⟩ |
    ⟨e, topics, -, -, -, -, hreg⟩
  · unfold subscribe
    rw [hreg]
    exact pays_of_silent rfl (Nat.le_add_right _ _)
  · -- the first listener of a topic is at an edge, which pays for its opening
    have hedge : σ = τ → (Moment.isEdge ⟨h, .subscribe τ x l⟩ σ).toNat = 1 := by
      rintro rfl
      simp [Moment.isEdge, ht.on_pairs_eq_empty_iff.mpr hnone]
    have hconnect : postings ({ h with topics }.connect).2 = [] ∧
        ({ h with topics }.connect).1.errands = h.errands := by
      unfold connect
      split <;> exact ⟨rfl, rfl⟩
    have hresume : Pays ({ h with topics }.connect).1 σ
        (Moment.isEdge ⟨h, .subscribe τ x l⟩ σ).toNat
        ((({ h with topics }.connect).1.put τ (.opening x l .connecting)).resume τ) :=
      put_pays (fun hσ => (Errand.due_le_one).trans (hedge hσ).ge) resume_pays
    unfold subscribe
    rw [hreg]
    dsimp only
    rw [Pays, posts_append, posts_of_silent hconnect.1, Nat.zero_add,
      ← due_of_errands hconnect.2]
    exact hresume
  · unfold subscribe
    rw [hreg]
    -- who joins others has nothing to post
    exact put_pays (h := { h with topics }) (fun _ => Nat.zero_le _) resume_pays

lemma unregister_snd : (h.unregister x l).2 = (h.topics.unregister x l).2.isSome := by
  unfold unregister
  split <;> simp [*]

lemma unsubscribe_pays (ht : h.topics.Faithful) :
    h.Pays σ (Moment.isEdge ⟨h, .unsubscribe τ x l⟩ σ).toNat (h.unsubscribe τ x l) := by
  have hdue : (h.unregister x l).1.due σ = h.due σ := due_unregister
  have hanswer : (h.unregister x l).2 = true ↔ h.topics.pairs.on x = {(x, l)} := by
    rw [unregister_snd]
    exact ht.unregister_answer x l
  unfold unsubscribe
  split
  · rename_i h' heq
    rw [heq] at hdue
    exact pays_of_silent rfl (hdue.trans_le (Nat.le_add_right _ _))
  · rename_i h' heq
    rw [heq] at hdue hanswer
    dsimp only at hdue hanswer
    -- the topic has gone, so it was the last listener that left
    have hedge : σ = τ → (Moment.isEdge ⟨h, .unsubscribe τ x l⟩ σ).toNat = 1 := by
      rintro rfl
      simp [Moment.isEdge, hanswer.mp rfl]
    split
    · refine pays_of_silent ?_ ((due_disconnect_le.trans hdue.le).trans (Nat.le_add_right _ _))
      unfold disconnect
      dsimp only
      split <;> rfl
    · refine pays_of_silent rfl ?_
      rw [due_put, ← hdue]
      split
      · rename_i hσ
        rw [hedge hσ]
        exact Errand.due_le_one.trans (Nat.le_add_left _ _)
      · exact Nat.le_add_right _ _

lemma greet_pays {data : String} : h.Pays σ (τ == σ).toNat (h.greet τ data) := by
  unfold greet
  split
  · exact pays_refl
  · rename_i client _
    dsimp only
    split
    · exact pays_of_silent rfl (Nat.le_add_right _ _)
    · refine (posts_queue (h := { h with client := some client }) (e := .restoring .queued)
        (by simp [Errand.progress?])).trans ?_
      split
      · rename_i hσ
        rw [hσ, beq_self_eq_true]
        exact Nat.le_add_left _ _
      · exact Nat.le_add_right _ _

/-- What is posted for a ticket at a moment, with what is due for it afterwards, is paid for by what
was due, by an edge and by a greeting. -/
lemma step_pays (ht : h.topics.Faithful) (event : HubEvent) :
    h.Pays σ ((Moment.isEdge ⟨h, event⟩ σ).toNat + (Moment.isGreeting ⟨h, event⟩ σ).toNat)
      (h.step event) := by
  have hconclude : ∀ τ e result, h.Pays σ 0 (h.conclude τ e result) := by
    intro τ e result
    exact pays_of_silent postings_conclude (due_conclude_le.trans due_remove_le)
  cases event with
  | subscribe τ x l => exact subscribe_pays ht
  | unsubscribe τ x l => exact unsubscribe_pays ht
  | resume τ => exact resume_pays
  | drop τ =>
    simp only [step, drop]
    split
    · exact pays_of_silent postings_disconnectIfIdle (due_abandon_le.trans due_remove_le)
    · exact pays_of_silent rfl due_remove_le
    · exact pays_refl
  | expire τ =>
    simp only [step, expire]
    split
    · split
      · exact hconclude _ _ _
      · exact pays_refl
    · exact pays_refl
  | posted τ result =>
    simp only [step, posted]
    split
    · split
      · exact hconclude _ _ _
      · exact pays_refl
    · exact pays_refl
  | message τ name data =>
    simp only [step, Hub.message]
    split
    · rename_i hreads
      split
      · rename_i hname
        have hgreeting : Moment.isGreeting ⟨h, .message τ name data⟩ σ = (τ == σ) := by
          simp [Moment.isGreeting, hreads, hname]
        rw [hgreeting]
        exact (Nat.zero_add _).symm ▸ greet_pays
      · exact pays_of_silent postings_deliver (Nat.le_add_right _ _)
    · exact pays_refl
  | lost | ended =>
    simp only [step]
    split <;> exact pays_of_silent rfl (Nat.le_add_right _ _)

/-! ### Runs -/

lemma faithful_step (ht : h.topics.Faithful) (event : HubEvent) :
    (h.step event).1.topics.Faithful :=
  ⟨(h.edit_step event).tidy ht.tidy, Single.step ht.single event⟩

lemma faithful_run (ht : h.topics.Faithful) (events : List HubEvent) :
    (h.run events).1.topics.Faithful := by
  induction events generalizing h with
  | nil => exact ht
  | cons event events ih => exact ih (faithful_step ht event)

lemma faithful_of_mem_moments {events : List HubEvent} {m : Moment} (ht : h.topics.Faithful)
    (hm : m ∈ h.moments events) : m.hub.topics.Faithful :=
  ⟨tidy_of_mem_moments ht.tidy hm, Single.of_mem_moments ht.single hm⟩

/-- **Each post is paid for.**  What is posted for a ticket in a run, with what is due for it at the
end, is paid for by what was due at the beginning, by the edges and by the greetings. -/
lemma run_pays (ht : h.topics.Faithful) (events : List HubEvent) :
    h.Pays σ ((h.moments events).countP (·.isEdge σ) + (h.moments events).countP (·.isGreeting σ))
      (h.run events) := by
  induction events generalizing h with
  | nil => exact pays_refl
  | cons event events ih =>
    have hfirst := step_pays (σ := σ) ht event
    have hrest := ih (faithful_step ht event)
    have hcount : ∀ p : Moment → Bool, (h.moments (event :: events)).countP p =
        ((h.step event).1.moments events).countP p + (p ⟨h, event⟩).toNat := by
      intro p
      rw [moments, List.countP_cons]
      cases p ⟨h, event⟩ <;> rfl
    simp only [Pays, hcount, run, posts_append] at hfirst hrest ⊢
    omega

end Hub

/-- **The table is a set of pairs, and only its edges are posted.**  After any run of a new hub and
any calls of its table, the table holds exactly the pairs that were added and not taken out, each
once, and no topic without listeners.  The answers of a further call are those of the set: a pair is
redundant if it is there, it is the first if its topic has none, and it joins others otherwise; and
a topic goes if the pair that is taken out is its last.  The numbers of topics and of listeners and
the names of the topics are those of the set.  What is posted in a run are the names of the table at
that moment, and each ticket posts at most once for each topic to which it brought the first
listener or from which it took the last, and for each greeting. -/
theorem table_is_set_of_pairs (patience : Nat) (events : List HubEvent) (calls : List TableCall) :
    let start := ((Hub.new patience).run events).1
    let h := calls.foldl TableCall.onHub start
    let p := calls.foldl TableCall.onPairs start.topics.pairs
    (Hub.new patience).topics.pairs = ∅ ∧
    (h.topics.pairs = p ∧ h.topics.pairList.Nodup ∧ ∀ e ∈ h.topics.entries, e.listeners ≠ []) ∧
    (∀ x l, ((h.topics.register x l).2 = .redundant ↔ (x, l) ∈ p) ∧
      ((∃ n, (h.topics.register x l).2 = .first n) ↔ ∀ k, (x, k) ∉ p) ∧
      ((∃ e, (h.topics.register x l).2 = .joined e) ↔ (x, l) ∉ p ∧ ∃ k, (x, k) ∈ p) ∧
      ((h.unregister x l).2 = true ↔ (x, l) ∈ p ∧ ∀ k, (x, k) ∈ p → k = l)) ∧
    (h.topics.size = p.topics.card ∧ (∀ x, (h.topics.listeners x).length = (p.on x).card) ∧
      h.topics.names = p.topics.sort) ∧
    (∀ m ∈ (Hub.new patience).moments events, ∀ σ client names, m.Posts σ client names →
      names = m.next.topics.pairs.topics.sort) ∧
    ∀ σ, posts σ ((Hub.new patience).run events).2 ≤
      ((Hub.new patience).moments events).countP (·.isEdge σ) +
        ((Hub.new patience).moments events).countP (·.isGreeting σ) := by
  intro start h p
  have hnew : (Hub.new patience).topics.Faithful := Topics.faithful_empty
  obtain ⟨ht, hp⟩ : h.topics.Faithful ∧ h.topics.pairs = p :=
    TableCall.pairs_foldl (Hub.faithful_run hnew events) calls
  refine ⟨rfl, ⟨hp, ht.nodup_pairList, fun e => ht.listeners_ne_nil⟩, ?answers, ?counts, ?posted,
    ?paid⟩
  case answers =>
    intro x l
    obtain ⟨hredundant, hfirst, hjoined⟩ := ht.register_answer x l
    have hlast := ht.unregister_answer x l
    rw [← Hub.unregister_snd, Pairs.on_eq_singleton_iff] at hlast
    rw [Pairs.on_eq_empty_iff] at hfirst
    rw [ne_eq, Pairs.on_eq_empty_iff, not_forall_not] at hjoined
    rw [← hp]
    exact ⟨hredundant, hfirst, hjoined, hlast⟩
  case counts =>
    rw [← hp]
    exact ⟨ht.size_eq, fun x => ht.length_listeners, ht.names_eq⟩
  case posted =>
    intro m hm σ client names hposts
    have hnext : m.next.topics.Faithful := Hub.faithful_step (Hub.faithful_of_mem_moments hnew hm) _
    rw [← hnext.names_eq]
    exact (m.hub.tells_step m.event σ client names hposts).1
  case paid =>
    intro σ
    have hpays := Hub.run_pays (σ := σ) hnew events
    have hnothing : (Hub.new patience).due σ = 0 := rfl
    rw [Hub.Pays, hnothing] at hpays
    omega

/-- Of the two listeners whose topics have been opened one has left.  The other one's topic is
joined, and a second one is opened and given up. -/
theorem table_is_set_of_pairs_of_leftTopic :
    let h := [.register "b" ⟨3⟩, .register "c" ⟨1⟩, .abandon "c" "timeout"].foldl TableCall.onHub
      ((Hub.new 1000).run leftTopic).1
    h.topics.pairs = {("b", ⟨2⟩), ("b", ⟨3⟩)} ∧ h.topics.names = ["b"] ∧
      (h.topics.register "b" ⟨2⟩).2 = .redundant ∧ (h.unregister "b" ⟨2⟩).2 = false ∧
      posts 3 ((Hub.new 1000).run leftTopic).2 ≤ 1 := by
  intro h
  obtain ⟨-, ⟨hpairs, -, -⟩, hanswers, ⟨-, -, hnames⟩, -, hposts⟩ := table_is_set_of_pairs 1000
    leftTopic [.register "b" ⟨3⟩, .register "c" ⟨1⟩, .abandon "c" "timeout"]
  obtain ⟨hredundant, -, -, hlast⟩ := hanswers "b" ⟨2⟩
  refine ⟨hpairs.trans (by decide +kernel), hnames.trans (by decide +kernel),
    hredundant.mpr (by decide +kernel), ?_, (hposts 3).trans (by decide +kernel)⟩
  rw [← Bool.not_eq_true]
  refine mt hlast.mp fun hb => ?_
  have hother : (⟨3⟩ : Listener) = ⟨2⟩ := hb.2 ⟨3⟩ (by decide +kernel)
  exact absurd hother (by decide)

end RunBoard.Realtime
