import Mathlib.Data.List.Basic
import Mathlib.Data.List.Nodup
import RunBoard.Proofs.Lookup
import RunBoard.Realtime.Hub

/-!
# The errands of a hub as a map

The errands are a list of pairs, but what is proved of them speaks of the errand of a ticket.  Most
statements are about two views of it only: its claim, which is what a running subscription stands
for, and the names that it has posted.  `Claim` leaves out how far an opening has come, and all
errands that nobody waits for have none.

`Within` and `Frame` are the frame conditions: what an operation cannot do to the errands that it is
not about.
-/

namespace RunBoard.Realtime

/-! ### Claims -/

/-- What a running subscription stands for. -/
inductive Claim where
  /-- It opens a topic for a listener. -/
  | opening (topic : String) (listener : Listener)
  /-- It waits for the outcome of an entry. -/
  | joining (topic : String) (listener : Listener) (serial : Nat) (latest : Handshake) (gone : Bool)
  deriving DecidableEq, Repr

namespace Claim

/-- The topic that is claimed. -/
def topic : Claim → String
  | opening topic _ | joining topic _ _ _ _ => topic

/-- The listener that claims it. -/
def listener : Claim → Listener
  | opening _ l | joining _ l _ _ _ => l

/-- The claim when the state of an entry has been made known. -/
def hear (serial : Nat) (state : Handshake) (gone : Bool) : Claim → Claim
  | opening topic l => opening topic l
  | joining topic l s latest was =>
    if s = serial then joining topic l s state (was || gone) else joining topic l s latest was

variable {serial : Nat} {state : Handshake} {gone : Bool} {c : Claim}

@[simp] lemma hear_topic : (c.hear serial state gone).topic = c.topic := by
  cases c with
  | opening => rfl
  | joining topic l s latest was =>
    simp only [hear]
    split <;> rfl

@[simp] lemma hear_listener : (c.hear serial state gone).listener = c.listener := by
  cases c with
  | opening => rfl
  | joining topic l s latest was =>
    simp only [hear]
    split <;> rfl

end Claim

namespace Errand

/-- The claim of an errand. -/
def claim? : Errand → Option Claim
  | opening topic l _ => some (.opening topic l)
  | joining topic l serial latest gone => some (.joining topic l serial latest gone)
  | shrinking _ | restoring _ => none

/-- The names that an errand has posted and waits for. -/
def posted? (e : Errand) : Option (List String) :=
  match e.progress? with
  | some (.posting _ names) => some names
  | _ => none

/-- The errand when the state of an entry has been made known. -/
def hear (serial : Nat) (state : Handshake) (gone : Bool) : Errand → Errand
  | joining topic l s latest was =>
    if s = serial then joining topic l s state (was || gone) else joining topic l s latest was
  | e => e

variable {serial : Nat} {state : Handshake} {gone : Bool} {e : Errand} {p : Progress}

@[simp] lemma claim?_at : (e.at p).claim? = e.claim? := by
  cases e <;> rfl

@[simp] lemma claim?_hear :
    (e.hear serial state gone).claim? = e.claim?.map (Claim.hear serial state gone) := by
  cases e with
  | joining topic l s latest was =>
    by_cases hs : s = serial
    · simp [hear, claim?, Claim.hear, hs]
    · simp [hear, claim?, Claim.hear, hs]
  | _ => rfl

@[simp] lemma posted?_hear : (e.hear serial state gone).posted? = e.posted? := by
  cases e with
  | joining topic l s latest was =>
    by_cases hs : s = serial
    · simp [hear, posted?, progress?, hs]
    · simp [hear, posted?, progress?, hs]
  | _ => rfl

lemma posted?_at_queued : (e.at .queued).posted? = none := by
  cases e <;> rfl

lemma posted?_at_posting {client : String} {names posted : List String}
    (h : (e.at (.posting client names)).posted? = some posted) : posted = names := by
  cases e with
  | joining topic l s latest was => exact absurd h (by simp [Errand.at, posted?, progress?])
  | _ => exact (Option.some.inj h).symm

lemma claim?_of_isRestoring (h : e.isRestoring = true) : e.claim? = none := by
  cases e with
  | restoring => rfl
  | _ => exact absurd h Bool.false_ne_true

end Errand

/-! ### Lookup in a list of pairs -/

section Lookup

variable {α : Type} {xs : List (Ticket × α)} {τ σ : Ticket}

lemma lookup_filter_self : (xs.filter (·.1 ≠ τ)).lookup τ = none := by
  rw [List.lookup_eq_none_iff]
  intro p hp
  have hne : p.1 ≠ τ := by simpa using (List.mem_filter.mp hp).2
  simpa using fun h : τ = p.1 => hne h.symm

lemma lookup_replace {a : α} :
    (xs.map fun p => if p.1 = τ then (τ, a) else p).lookup σ =
      if σ = τ then (xs.lookup τ).map fun _ => a else xs.lookup σ := by
  induction xs with
  | nil => simp
  | cons x xs ih =>
    obtain ⟨ρ, b⟩ := x
    rw [List.map_cons]
    by_cases hρ : ρ = τ
    · subst hρ
      by_cases hσ : σ = ρ
      · subst hσ
        simp
      · simp [lookup_cons_of_ne hσ, ih, hσ]
    · by_cases hσ : σ = τ
      · subst hσ
        simp [lookup_cons_of_ne (Ne.symm hρ), hρ, ih]
      · simp [List.lookup_cons, hρ, ih, hσ]

end Lookup

namespace Hub

variable {h h' h'' : Hub} {τ σ : Ticket} {e : Errand} {serial : Nat} {state : Handshake}
  {gone : Bool} {fresh : Option Ticket}

/-- The tickets of the errands. -/
def tickets (h : Hub) : List Ticket :=
  h.errands.map Prod.fst

/-- The claim of a ticket. -/
def claim? (h : Hub) (τ : Ticket) : Option Claim :=
  (h.errand? τ).bind Errand.claim?

/-- The names that the errand of a ticket has posted. -/
def posted? (h : Hub) (τ : Ticket) : Option (List String) :=
  (h.errand? τ).bind Errand.posted?

lemma mem_tickets : τ ∈ h.tickets ↔ h.errand? τ ≠ none := by
  simp [tickets, errand?, List.lookup_eq_none_iff]

lemma errand?_of_mem (hk : h.tickets.Nodup) (hmem : (τ, e) ∈ h.errands) : h.errand? τ = some e :=
  lookup_of_mem (List.nodup_iff_count_le_one.mp hk τ) hmem

lemma announce_errands : (h.announce serial state gone).errands =
    h.errands.map fun p => (p.1, p.2.hear serial state gone) := by
  refine List.map_congr_left fun p _ => ?_
  obtain ⟨τ, e⟩ := p
  cases e with
  | joining topic l s latest was =>
    by_cases hs : s = serial
    · simp [Errand.hear, hs]
    · simp [Errand.hear, hs]
  | _ => rfl

@[simp] lemma put_topics : (h.put τ e).topics = h.topics := by
  unfold put
  split <;> rfl

@[simp] lemma disconnect_topics : h.disconnect.1.topics = h.topics := by
  have hfold : ∀ (dropped : List Ticket) (h : Hub), (dropped.foldl remove h).topics = h.topics := by
    intro dropped
    induction dropped with
    | nil => exact fun _ => rfl
    | cons τ dropped ih => exact fun h => ih (h.remove τ)
  exact hfold _ h

/-! ### What each operation does to the errands -/

lemma errand?_remove : (h.remove τ).errand? σ = if σ = τ then none else h.errand? σ := by
  split
  · rename_i hσ
    subst hσ
    exact lookup_filter_self
  · rename_i hσ
    exact lookup_filter fun _ => by simpa using hσ

lemma errand?_put : (h.put τ e).errand? σ = if σ = τ then some e else h.errand? σ := by
  unfold put
  split
  · rename_i hsome
    refine lookup_replace.trans ?_
    obtain ⟨old, hold⟩ := Option.isSome_iff_exists.mp hsome
    rw [show h.errands.lookup τ = some old from hold]
    rfl
  · rename_i hnone
    have hlookup : h.errands.lookup τ = none := by
      rw [← Option.not_isSome_iff_eq_none]
      exact hnone
    refine List.lookup_append.trans ?_
    by_cases hσ : σ = τ
    · subst hσ
      simp [hlookup]
    · simp [errand?, lookup_cons_of_ne hσ, hσ]

lemma errand?_announce :
    (h.announce serial state gone).errand? σ =
      (h.errand? σ).map (Errand.hear serial state gone) := by
  unfold errand?
  rw [announce_errands, lookup_map]

lemma errand?_foldl_remove {dropped : List Ticket} :
    (dropped.foldl remove h).errand? σ = if σ ∈ dropped then none else h.errand? σ := by
  induction dropped generalizing h with
  | nil => simp
  | cons τ dropped ih =>
    rw [List.foldl_cons, ih, errand?_remove]
    by_cases hσ : σ = τ
    · simp [hσ]
    · simp [hσ]

lemma claim?_remove : (h.remove τ).claim? σ = if σ = τ then none else h.claim? σ := by
  unfold claim?
  rw [errand?_remove]
  split <;> rfl

lemma claim?_put : (h.put τ e).claim? σ = if σ = τ then e.claim? else h.claim? σ := by
  unfold claim?
  rw [errand?_put]
  split <;> rfl

lemma claim?_announce :
    (h.announce serial state gone).claim? σ = (h.claim? σ).map (Claim.hear serial state gone) := by
  unfold claim?
  rw [errand?_announce]
  cases h.errand? σ <;> simp

/-- Closing the connection takes away the errands that it waits for, and nobody else does. -/
lemma claim?_disconnect (hk : h.tickets.Nodup) : h.disconnect.1.claim? σ = h.claim? σ := by
  have hdropped : h.disconnect.1.errand? σ =
      (((h.errands.filter (·.2.isRestoring)).map (·.1)).foldl remove h).errand? σ := rfl
  unfold claim?
  rw [hdropped, errand?_foldl_remove]
  split
  · rename_i hσ
    obtain ⟨⟨τ, e⟩, he, rfl⟩ := List.mem_map.mp hσ
    obtain ⟨hmem, hrestoring⟩ := List.mem_filter.mp he
    rw [errand?_of_mem hk hmem]
    exact (Errand.claim?_of_isRestoring hrestoring).symm
  · rfl

/-! ### What an operation leaves alone -/

/-- `h.Within h'`: some of the errands of `h` are left in `h'`, and none has posted again. -/
structure Within (h h' : Hub) : Prop where
  tickets : h'.tickets.Sublist h.tickets
  posted : ∀ σ names, h'.posted? σ = some names → h.posted? σ = some names

/-- `h.Frame fresh h'`: of the errands of `h'`, only the one of the ticket `fresh` can be new, and
what has been posted since are the names of `h'`. -/
structure Frame (h : Hub) (fresh : Option Ticket) (h' : Hub) : Prop where
  nodup : h.tickets.Nodup → h'.tickets.Nodup
  tickets : ∀ σ ∈ h'.tickets, fresh = some σ ∨ σ ∈ h.tickets
  posted : ∀ σ names, h'.posted? σ = some names →
    h.posted? σ = some names ∨ names = h'.topics.names

lemma Within.refl (h : Hub) : h.Within h :=
  ⟨List.Sublist.refl _, fun _ _ hp => hp⟩

lemma Within.trans (h₁ : h.Within h') (h₂ : h'.Within h'') : h.Within h'' :=
  ⟨h₂.tickets.trans h₁.tickets, fun σ names hp => h₁.posted σ names (h₂.posted σ names hp)⟩

/-- Nothing but the errands counts. -/
lemma within_of_errands (heq : h'.errands = h.errands) : h.Within h' := by
  refine ⟨?_, fun σ names hp => ?_⟩
  · unfold tickets
    rw [heq]
  · unfold posted? errand? at *
    rwa [heq] at hp

lemma Within.frame (hw : h.Within h') : h.Frame fresh h' :=
  ⟨fun hk => hk.sublist hw.tickets, fun _ hσ => .inr (hw.tickets.subset hσ),
    fun σ names hp => .inl (hw.posted σ names hp)⟩

lemma Within.trans_frame (hw : h.Within h') (hf : h'.Frame fresh h'') : h.Frame fresh h'' := by
  refine ⟨fun hk => hf.nodup (hk.sublist hw.tickets), fun σ hσ => ?_, fun σ names hp => ?_⟩
  · exact (hf.tickets σ hσ).imp_right fun hσ => hw.tickets.subset hσ
  · exact (hf.posted σ names hp).imp_left (hw.posted σ names)

/-- An errand at another point: what it has posted, if anything, are the names of the table. -/
lemma frame_put (hp : ∀ names, e.posted? = some names → names = h.topics.names) :
    h.Frame (some τ) (h.put τ e) := by
  have htickets : ∀ σ, (h.put τ e).errand? σ ≠ none ↔ some τ = some σ ∨ h.errand? σ ≠ none := by
    intro σ
    rw [errand?_put]
    by_cases hσ : σ = τ
    · simp [hσ]
    · have hne : ¬ τ = σ := fun h => hσ h.symm
      simp [hσ, hne]
  refine ⟨fun hk => ?_, fun σ hσ => ?_, fun σ names hposted => ?_⟩
  · unfold put
    split
    -- an errand that is replaced keeps its place, and one that is new has a ticket of its own
    · have hkeys : (h.errands.map fun p => if p.1 = τ then (τ, e) else p).map Prod.fst =
          h.tickets := by
        rw [List.map_map]
        refine List.map_congr_left fun p _ => ?_
        by_cases hp : p.1 = τ
        · simp [hp]
        · simp [hp]
      unfold tickets
      rwa [hkeys]
    · rename_i hnone
      have hτ : τ ∉ h.tickets := by
        rw [mem_tickets, not_not, ← Option.not_isSome_iff_eq_none]
        exact hnone
      unfold tickets
      rw [List.map_append, List.nodup_append]
      refine ⟨hk, by simp, fun a ha b hb hab => hτ ?_⟩
      obtain rfl : b = τ := by simpa using hb
      exact hab ▸ ha
  · rw [mem_tickets] at hσ ⊢
    exact (htickets σ).mp hσ
  · unfold posted? at *
    rw [errand?_put] at hposted
    rw [put_topics]
    split at hposted
    · exact .inr (hp names hposted)
    · exact .inl hposted

/-- A new errand that has posted nothing yet, and what comes of it. -/
lemma Frame.after_put (hnone : e.posted? = none) (hf : (h.put τ e).Frame none h') :
    h.Frame (some τ) h' := by
  have hput : h.Frame (some τ) (h.put τ e) := frame_put fun names hp => by simp [hnone] at hp
  refine ⟨fun hk => hf.nodup (hput.nodup hk), fun σ hσ => ?_, fun σ names hp => ?_⟩
  · rcases hf.tickets σ hσ with heq | hσ
    · exact absurd heq (by simp)
    · exact hput.tickets σ hσ
  · refine (hf.posted σ names hp).imp_left fun hp => ?_
    unfold posted? at *
    rw [errand?_put] at hp
    split at hp
    · simp [hnone] at hp
    · exact hp

/-- An errand that was there before is not new. -/
lemma Frame.of_known (hf : h.Frame (some τ) h') (hτ : h.errand? τ ≠ none) : h.Frame none h' := by
  refine ⟨hf.nodup, fun σ hσ => .inr ?_, hf.posted⟩
  rcases hf.tickets σ hσ with heq | hσ
  · obtain rfl := Option.some.inj heq
    exact mem_tickets.mpr hτ
  · exact hσ

lemma within_remove : h.Within (h.remove τ) := by
  refine ⟨List.filter_sublist.map _, fun σ names hp => ?_⟩
  unfold posted? at *
  rw [errand?_remove] at hp
  split at hp
  · exact absurd hp (by simp)
  · exact hp

lemma within_announce : h.Within (h.announce serial state gone) := by
  refine ⟨?_, fun σ names hp => ?_⟩
  · unfold tickets
    rw [announce_errands, List.map_map]
    exact List.Sublist.refl _
  · unfold posted? at *
    rw [errand?_announce] at hp
    cases herrand : h.errand? σ with
    | none => exact absurd hp (by simp [herrand])
    | some e => simpa [herrand] using hp

lemma within_disconnect : h.Within h.disconnect.1 := by
  have hfold : ∀ (dropped : List Ticket) (h : Hub), h.Within (dropped.foldl remove h) := by
    intro dropped
    induction dropped with
    | nil => exact Within.refl
    | cons τ dropped ih => exact fun h => within_remove.trans (ih (h.remove τ))
  exact (hfold _ h).trans (within_of_errands rfl)

end Hub

end RunBoard.Realtime
