import Mathlib.Data.Set.Insert
import RunBoard.Proofs.Board.Commands

/-!
# Every subscription is released once

A subscription that was made is given back exactly once, whichever way its run leaves the set, and a
batch that was given up is given back for each of its runs.  `Balanced` is this law for one stretch
of a history, with what was subscribed before it and what is afterwards; it holds of each step, and
stretches add up.

With a backend that keeps its promises, the runs it sends patches of are then exactly those that are
subscribed.
-/

namespace RunBoard.Board

open Subscriptions

variable {b b' : Board} {log : BoardLog} {id : RunId}

/-! ### Counting -/

/-- Whether a moment takes a run off the backend. -/
def isUnsubscribe (id : RunId) : Task.Moment Call Call.Answer Event → Bool
  | .told (.unsubscribe j) => j = id
  | _ => false

/-- Whether a moment is an attempt to subscribe a run that succeeded. -/
def isRegistration (id : RunId) : Task.Moment Call Call.Answer Event → Bool
  | .asked (.subscribe j) ⟨.ok _, _⟩ => j = id
  | .asked (.subscribeAll ids) ⟨some result, _⟩ => id ∈ ids && (result id).isOk
  | _ => false

/-- Whether a moment is a batch with a run that was given up. -/
def isAbandonment (id : RunId) : Task.Moment Call Call.Answer Event → Bool
  | .asked (.subscribeAll ids) ⟨none, _⟩ => id ∈ ids
  | _ => false

/-- One for a run that is subscribed, else zero. -/
def presence (id : RunId) (live : Subscriptions) : Nat :=
  if id ∈ live then 1 else 0

/-- What was subscribed before and in the meantime is either released or still subscribed. -/
def Balanced (id : RunId) (b : Board) (log : BoardLog) (b' : Board) : Prop :=
  log.countP (isUnsubscribe id) + presence id b'.live =
    log.countP (isRegistration id) + log.countP (isAbandonment id) + presence id b.live

lemma countP_unsubscribe_releasing {ids : List RunId} (h : ids.Nodup) :
    (releasing ids).countP (isUnsubscribe id) = if id ∈ ids then 1 else 0 := by
  have hcount : (releasing ids).countP (isUnsubscribe id) = ids.count id := by
    induction ids with
    | nil => rfl
    | cons j ids ih =>
      have hcons : releasing (j :: ids) = .told (.unsubscribe j) :: releasing ids := rfl
      rw [hcons, List.countP_cons, ih h.of_cons, List.count_cons]
      simp [isUnsubscribe]
  rw [hcount]
  split
  · rename_i hmem
    exact List.count_eq_one_of_mem h hmem
  · rename_i hmem
    exact List.count_eq_zero_of_not_mem hmem

lemma countP_unsubscribe_ids (s : Subscriptions) :
    (releasing s.ids).countP (isUnsubscribe id) = presence id s :=
  countP_unsubscribe_releasing s.nodup

@[simp] lemma presence_empty : presence id .empty = 0 :=
  if_neg (not_mem_empty id)

@[simp] lemma countP_registration_releasing (ids : List RunId) :
    (releasing ids).countP (isRegistration id) = 0 := by
  simp [releasing, List.countP_eq_zero, isRegistration]

@[simp] lemma countP_abandonment_releasing (ids : List RunId) :
    (releasing ids).countP (isAbandonment id) = 0 := by
  simp [releasing, List.countP_eq_zero, isAbandonment]

lemma countP_reporting (p : Task.Moment Call Call.Answer Event → Bool)
    (hp : ∀ description, p (.told (.notify description)) = false) (e : RequestError) :
    (reporting e).countP p = 0 := by
  unfold reporting
  split
  · rfl
  · simp [hp]

namespace Balanced

lemma trans {c : Board} {rest : BoardLog} (h : Balanced id b log c) (h' : Balanced id c rest b') :
    Balanced id b (log ++ rest) b' := by
  unfold Balanced at h h' ⊢
  rw [List.countP_append, List.countP_append, List.countP_append]
  omega

/-- What asks and tells nothing, and keeps the subscriptions. -/
lemma of_ids_eq (h : b'.live.ids = b.live.ids) : Balanced id b [] b' := by
  simp [Balanced, presence, mem_def, h]

/-- A request that asks for no subscription. -/
lemma of_request {m : Task.Moment Call Call.Answer Event} {log : BoardLog}
    (hlog : log = [] ∨ ∃ e, log = reporting e) (hm : isUnsubscribe id m = false)
    (hreg : isRegistration id m = false) (hab : isAbandonment id m = false)
    (h : b'.live.ids = b.live.ids) : Balanced id b (m :: log) b' := by
  have hzero : log.countP (isUnsubscribe id) = 0 ∧ log.countP (isRegistration id) = 0 ∧
      log.countP (isAbandonment id) = 0 := by
    rcases hlog with rfl | ⟨e, rfl⟩
    · exact ⟨rfl, rfl, rfl⟩
    · exact ⟨countP_reporting _ (fun _ => rfl) e, countP_reporting _ (fun _ => rfl) e,
        countP_reporting _ (fun _ => rfl) e⟩
  simp [Balanced, hm, hreg, hab, hzero, presence, mem_def, h]

lemma released (b : Board) : Balanced id b (releasing b.live.ids) b.released := by
  unfold Balanced
  rw [countP_unsubscribe_ids, countP_registration_releasing, countP_abandonment_releasing]
  simp [Board.released]

/-- Following the rows releases what is stale and asks for what is missing. -/
lemma follows (h : b.Follows log b') : Balanced id b log b' := by
  have hstale : (releasing (b.live.stale b.rows)).countP (isUnsubscribe id) =
      if id ∈ b.live.stale b.rows then 1 else 0 :=
    countP_unsubscribe_releasing (b.live.nodup.filter _)
  unfold Balanced
  cases h with
  | @settled rest live outcomes batch =>
    simp only [List.countP_append, countP_registration_releasing, countP_abandonment_releasing,
      hstale, mem_stale]
    cases batch with
    | idle hnil =>
      by_cases hlive : id ∈ b.live <;> by_cases hwants : wants b.rows id = true <;>
        simp [presence, hlive, hwants]
    | answered result arrived hne =>
      -- the run is kept, stale, or asked for; only the last brings in the result
      simp only [List.countP_singleton, isUnsubscribe, isRegistration, isAbandonment, presence,
        mem_settle_outcomesOf, mem_receive, mem_keep, mem_missing, mem_wanted]
      by_cases hlive : id ∈ b.live <;> by_cases hwants : wants b.rows id = true <;>
        by_cases hok : (result id).isOk = true <;> simp [hlive, hwants, hok]
  | givenUp arrived hne =>
    simp only [List.countP_append, List.countP_cons, countP_registration_releasing,
      countP_abandonment_releasing, hstale, countP_unsubscribe_ids,
      countP_unsubscribe_releasing (nodup_missing _ _), isUnsubscribe, isRegistration,
      isAbandonment, mem_stale, mem_missing, mem_wanted, mem_keep, presence, Board.released]
    by_cases hlive : id ∈ b.live <;> by_cases hwants : wants b.rows id = true <;>
      simp [hlive, hwants]

/-- A patch releases its run at most once, and only if it is subscribed. -/
lemma patched (b : Board) (patch : Patch) :
    Balanced id b
      (if (b.live.merge patch b.rows b.detail).outcome.releases then
        releasing [patch.record.id] else [])
      (b.patched patch) := by
  have hmerges := merges_merge b.live patch b.rows b.detail
  have hlive : (b.live.merge patch b.rows b.detail).outcome.releases = true →
      patch.record.id ∈ b.live := by
    intro hreleases
    generalize b.live.merge patch b.rows b.detail = merged at hmerges hreleases
    cases hmerges with
    | notSubscribed | stale => cases hreleases
    | notOnPage hlive | removed hlive | applied hlive => exact hlive
  by_cases hreleases : (b.live.merge patch b.rows b.detail).outcome.releases = true
  · have hmem := hlive hreleases
    rw [if_pos hreleases]
    simp only [Balanced, Board.patched, hreleases, if_true, presence, mem_erase,
      countP_registration_releasing, countP_abandonment_releasing,
      countP_unsubscribe_releasing (List.nodup_singleton _), List.mem_singleton]
    by_cases hid : id = patch.record.id
    · subst hid
      simp [hmem]
    · simp [hid]
  · rw [if_neg hreleases]
    exact of_ids_eq (by simp [Board.patched, hreleases])

lemma step (h : Step b log b') : Balanced id b log b' := by
  cases h with
  | patch patch => exact patched b patch
  | load page arrived hfollows =>
    have hask : Balanced id b [.asked (.list b.query) ⟨.ok page, arrived⟩]
        ((b.receive arrived).replacePage page) :=
      of_request (.inl rfl) rfl rfl rfl rfl
    exact hask.trans (follows hfollows)
  | fail e arrived => exact of_request (.inr ⟨_, rfl⟩) rfl rfl rfl (by simp)
  | remove | cancel => exact of_request (.inl rfl) rfl rfl rfl rfl
  | removeFailed | cancelFailed => exact of_request (.inr ⟨_, rfl⟩) rfl rfl rfl rfl
  | take hnext =>
    obtain ⟨_, -, rfl⟩ := nextPatch?_eq_some_iff.mp hnext
    exact of_ids_eq rfl
  | receive | empty | drop | turn | select | clearSelection | closeDetail => exact of_ids_eq rfl
  | toggle id => exact of_ids_eq (by simp)
  | openDetail id => exact of_ids_eq (by simp)

lemma history {deeds : List Deed} (h : History b deeds b') : Balanced id b (logOf deeds) b' :=
  h.keep (fun _ => of_ids_eq rfl) trans step released

end Balanced

/-! ### What a backend delivers that keeps its promises -/

/-- What the backend delivers before and after a moment, if it keeps its promises: a subscription
that succeeds takes effect, one that fails leaves nothing behind, one that is given up may have
taken effect, and after the release of a run nothing of it is delivered any more. -/
def Honours (before : Set RunId) :
    Task.Moment Call Call.Answer Event → Set RunId → Prop
  | .asked (.subscribe id) ⟨.ok _, _⟩, after => after = insert id before
  | .asked (.subscribeAll ids) ⟨some result, _⟩, after =>
    after = before ∪ {id | id ∈ ids ∧ (result id).isOk = true}
  | .asked (.subscribeAll ids) ⟨none, _⟩, after =>
    before ⊆ after ∧ after ⊆ before ∪ {id | id ∈ ids}
  | .told (.unsubscribe id), after => after = before \ {id}
  | _, after => after = before

/-- What an honest backend delivers before and after a course. -/
def Delivers (before : Set RunId) : BoardLog → Set RunId → Prop
  | [], after => after = before
  | m :: log, after => ∃ middle, Honours before m middle ∧ Delivers middle log after

variable {before after : Set RunId}

lemma delivers_append_iff {rest : BoardLog} :
    Delivers before (log ++ rest) after ↔
      ∃ middle, Delivers before log middle ∧ Delivers middle rest after := by
  induction log generalizing before with
  | nil => simp [Delivers]
  | cons m log ih =>
    simp only [List.cons_append, Delivers, ih]
    constructor
    · rintro ⟨s, hs, t, ht, hrest⟩
      exact ⟨t, ⟨s, hs, ht⟩, hrest⟩
    · rintro ⟨t, ⟨s, hs, ht⟩, hrest⟩
      exact ⟨s, hs, t, ht, hrest⟩

lemma delivers_releasing_iff {ids : List RunId} :
    Delivers before (releasing ids) after ↔ after = before \ {id | id ∈ ids} := by
  induction ids generalizing before with
  | nil =>
    have hset : before \ {id | id ∈ ([] : List RunId)} = before := by
      ext id
      simp
    rw [hset]
    exact Iff.rfl
  | cons id ids ih =>
    have hcons : releasing (id :: ids) = .told (.unsubscribe id) :: releasing ids := rfl
    have hset : (before \ {id}) \ {j | j ∈ ids} = before \ {j | j ∈ id :: ids} := by
      ext j
      simp [and_assoc]
    rw [hcons, ← hset, ← ih]
    simp [Delivers, Honours]

lemma delivers_reporting_iff {e : RequestError} :
    Delivers before (reporting e) after ↔ after = before := by
  unfold reporting
  split
  · exact Iff.rfl
  · simp [Delivers, Honours]

/-- The runs that are subscribed. -/
def subscribed (b : Board) : Set RunId :=
  {id | id ∈ b.live}

/-- If the backend delivers exactly the subscribed runs before, it does so after. -/
def Served (b : Board) (log : BoardLog) (b' : Board) : Prop :=
  ∀ after, Delivers b.subscribed log after → after = b'.subscribed

namespace Served

lemma trans {c : Board} {rest : BoardLog} (h : Served b log c) (h' : Served c rest b') :
    Served b (log ++ rest) b' := by
  intro after hafter
  obtain ⟨middle, hfirst, hrest⟩ := delivers_append_iff.mp hafter
  rw [h middle hfirst] at hrest
  exact h' after hrest

lemma of_ids_eq (h : b'.live.ids = b.live.ids) : Served b [] b' := by
  rintro after rfl
  simp [subscribed, mem_def, h]

lemma released (b : Board) : Served b (releasing b.live.ids) b.released := by
  intro after hafter
  rw [delivers_releasing_iff.mp hafter]
  ext id
  simp [subscribed, Board.released, mem_def]

/-- A request that asks for no subscription. -/
lemma of_request {m : Task.Moment Call Call.Answer Event} {log : BoardLog}
    (hlog : log = [] ∨ ∃ e, log = reporting e) (hm : ∀ s t, Honours s m t → t = s)
    (h : b'.live.ids = b.live.ids) : Served b (m :: log) b' := by
  rintro after ⟨middle, hmiddle, hrest⟩
  obtain rfl := hm _ _ hmiddle
  have hsame : after = b.subscribed := by
    rcases hlog with rfl | ⟨e, rfl⟩
    · exact hrest
    · exact delivers_reporting_iff.mp hrest
  simp [hsame, subscribed, mem_def, h]

lemma follows (h : b.Follows log b') : Served b log b' := by
  have hkeep : b.subscribed \ {id | id ∈ b.live.stale b.rows} =
      {id | id ∈ b.live.keep b.rows} := by
    ext id
    simp only [subscribed, Set.mem_sdiff, Set.mem_ofPred_eq, mem_stale, mem_keep]
    by_cases hwants : wants b.rows id = true <;> simp [hwants]
  intro after hafter
  cases h with
  | settled batch =>
    obtain ⟨middle, hmiddle, hrest⟩ := delivers_append_iff.mp hafter
    rw [delivers_releasing_iff, hkeep] at hmiddle
    subst hmiddle
    cases batch with
    | idle hnil => exact hrest
    | answered result arrived hne =>
      obtain ⟨_, rfl, rfl⟩ := hrest
      ext id
      simp [subscribed]
  | givenUp arrived hne =>
    obtain ⟨middle, hmiddle, between, ⟨-, hbetween⟩, hrest⟩ := delivers_append_iff.mp hafter
    rw [delivers_releasing_iff, hkeep] at hmiddle
    subst hmiddle
    obtain ⟨late, hlate, hrest⟩ := delivers_append_iff.mp hrest
    rw [delivers_releasing_iff] at hlate hrest
    subst hlate hrest
    -- whatever took effect of the batch is released, and then what had been kept
    ext id
    have hid : id ∈ between → id ∈ b.live.keep b.rows ∨
        id ∈ (b.live.keep b.rows).missing (wanted b.rows) := fun h => hbetween h
    simp only [Set.mem_sdiff, Set.mem_ofPred_eq, subscribed, Board.released, not_mem_empty]
    constructor
    · rintro ⟨⟨hmem, hmissing⟩, hkept⟩
      rcases hid hmem with h | h
      · exact hkept h
      · exact hmissing h
    · exact False.elim

lemma step (h : Step b log b') : Served b log b' := by
  cases h with
  | patch patch =>
    intro after hafter
    by_cases hreleases : (b.live.merge patch b.rows b.detail).outcome.releases = true
    · rw [if_pos hreleases, delivers_releasing_iff] at hafter
      rw [hafter]
      ext id
      simp [subscribed, Board.patched, hreleases]
    · rw [if_neg hreleases] at hafter
      rw [show after = b.subscribed from hafter]
      simp [subscribed, Board.patched, hreleases]
  | load page arrived hfollows =>
    have hask : Served b [.asked (.list b.query) ⟨.ok page, arrived⟩]
        ((b.receive arrived).replacePage page) :=
      of_request (.inl rfl) (fun _ _ h => h) rfl
    exact hask.trans (follows hfollows)
  | fail e arrived => exact of_request (.inr ⟨_, rfl⟩) (fun _ _ h => h) (by simp)
  | remove | cancel => exact of_request (.inl rfl) (fun _ _ h => h) rfl
  | removeFailed | cancelFailed => exact of_request (.inr ⟨_, rfl⟩) (fun _ _ h => h) rfl
  | take hnext =>
    obtain ⟨_, -, rfl⟩ := nextPatch?_eq_some_iff.mp hnext
    exact of_ids_eq rfl
  | receive | empty | drop | turn | select | clearSelection | closeDetail => exact of_ids_eq rfl
  | toggle id => exact of_ids_eq (by simp)
  | openDetail id => exact of_ids_eq (by simp)

lemma history {deeds : List Deed} (h : History b deeds b') : Served b (logOf deeds) b' :=
  h.keep (fun _ => of_ids_eq rfl) trans step released

end Served

/-! ### The law -/

lemma live_of_teardown {before : List Deed} {log : BoardLog}
    (h : History b (before ++ [⟨.teardown, log⟩]) b') : b'.live = .empty := by
  obtain ⟨c, -, course⟩ := history_append_iff.mp h
  obtain ⟨-, rfl⟩ := course_perform_teardown_iff.mp course
  rfl

/-- **Exactly-once release.**  After every history of a new board, and for every run: the number of
its releases, and one more if it is subscribed now, is the number of subscriptions of it that
succeeded and of batches with it that were given up.  If the backend keeps its promises, the runs it
delivers patches of are the subscribed ones, and so there are none after a teardown. -/
theorem released_exactly_once {query : Query} {deeds : List Deed} {b : Board}
    (history : History (.new query) deeds b) :
    (∀ id, (logOf deeds).countP (isUnsubscribe id) + presence id b.live =
      (logOf deeds).countP (isRegistration id) + (logOf deeds).countP (isAbandonment id)) ∧
    ∀ delivered, Delivers ∅ (logOf deeds) delivered →
      delivered = {id | id ∈ b.live} ∧
        ∀ before log, deeds = before ++ [⟨.teardown, log⟩] → delivered = ∅ := by
  constructor
  · intro id
    have hbalanced : Balanced id (.new query) (logOf deeds) b := .history history
    have hnew : presence id (Board.new query).live = 0 := presence_empty
    unfold Balanced at hbalanced
    omega
  · intro delivered hdelivered
    have hnew : (Board.new query).subscribed = ∅ := by
      ext id
      simp [subscribed, new]
    have hserved : delivered = b.subscribed :=
      Served.history history delivered (hnew ▸ hdelivered)
    refine ⟨hserved, ?_⟩
    rintro before log rfl
    have hlive := live_of_teardown history
    rw [hserved]
    ext id
    simp [subscribed, hlive]

/-- What loading a page comes to if one subscription is refused, and what leaving does then. -/
def refusedThenTornDown : List Deed × Board :=
  let loaded := ((Board.new (.of none 1 10 false)).perform (.command .refresh)).play
    (answerWith ⟨[.bare "a" .pending, .bare "b" .processing, .bare "c" .failed], 3⟩ "b")
  let left := (loaded.2.perform .teardown).play (answerWith ⟨[], 0⟩ "b")
  ([⟨.command .refresh, loaded.1⟩, ⟨.teardown, left.1⟩], left.2)

theorem released_exactly_once_after_teardown :
    (logOf refusedThenTornDown.1).countP (isRegistration "a") = 1 ∧
    (logOf refusedThenTornDown.1).countP (isUnsubscribe "a") +
        presence "a" refusedThenTornDown.2.live =
      (logOf refusedThenTornDown.1).countP (isRegistration "a") +
        (logOf refusedThenTornDown.1).countP (isAbandonment "a") := by
  have history : History (.new (.of none 1 10 false)) refusedThenTornDown.1
      refusedThenTornDown.2 := .next (.next .start (Task.course_play _ _)) (Task.course_play _ _)
  exact ⟨by decide, (released_exactly_once history).1 "a"⟩

end RunBoard.Board
