import RunBoard.Proofs.Board.Commands
import RunBoard.Proofs.Board.Following
import RunBoard.Proofs.Board.Store

/-!
# Keeping abreast of the backend

A row that is subscribed need not be current: the patch that brings it up to date may still be on
its way.  `Abreast` is the invariant that ties the rows of a board and the patches that wait to what
the backend stores.  Nothing is lost by a change while the run is subscribed, by the arrival of
patches, nor by taking one in (`Abreast.patched`), since a row accepts the current record and, once
it is current, no older one.

A page that is listed makes all rows current (`Abreast.fetched`), so that from then on, and until it
is subscribed, only changes that are not sent can leave a row behind.
-/

namespace RunBoard.Board

open Subscriptions

variable {b b' c : Board} {s t : Store} {rows : List Run} {followed followed' : Set RunId}
  {waiting waiting' inbox patches : List Patch} {log rest : BoardLog} {id : RunId} {r row : Run}

/-! ### Keeping abreast of the store -/

/-- Rows and patches that wait keep abreast of the store: all of them are records that it has had,
and each row that is followed is current, or a patch with the current record waits.  This is not
promised of a run whose last change was not sent, nor of one that has strayed. -/
structure Abreast (rows : List Run) (followed : Set RunId) (waiting : List Patch) (s : Store) :
    Prop where
  distinct : Distinct rows
  known : ∀ r ∈ rows, s.Knows r
  heard : ∀ p ∈ waiting, p.action ≠ .delete ∧ s.Knows p.record
  covered : ∀ r ∈ rows, r.id ∈ followed → r.id ∉ s.strayed → r.id ∉ s.unsent →
    s.Current r ∨ ∃ p ∈ waiting, p.record.id = r.id ∧ s.Current p.record

namespace Abreast

/-- Patches of runs that are not followed may go. -/
lemma narrow (h : Abreast rows followed waiting s) (hwaiting : ∀ p ∈ waiting', p ∈ waiting)
    (hfollowed : ∀ id ∈ followed', id ∈ followed ∧
      ∀ p ∈ waiting, p.record.id = id → p ∈ waiting') :
    Abreast rows followed' waiting' s := by
  refine ⟨h.distinct, h.known, fun p hp => h.heard p (hwaiting p hp), ?_⟩
  intro r hr hid hstrayed hunsent
  obtain ⟨hbefore, hkept⟩ := hfollowed r.id hid
  rcases h.covered r hr hbefore hstrayed hunsent with hcurrent | ⟨p, hp, hpid, hcurrent⟩
  · exact Or.inl hcurrent
  · exact Or.inr ⟨p, hkept p hp hpid, hpid, hcurrent⟩

/-- Nothing needs to be promised of runs that are not followed. -/
lemma abandon (h : Abreast rows followed waiting s) (hwaiting : ∀ p ∈ waiting', p ∈ waiting) :
    Abreast rows ∅ waiting' s :=
  h.narrow hwaiting fun _ hid => absurd hid (Set.notMem_empty _)

/-! ### What the store does -/

lemma change (h : Abreast rows followed (inbox ++ s.sent) s) (may : s.MayChange r) :
    Abreast rows followed (inbox ++ (s.change r).sent) (s.change r) := by
  refine ⟨h.distinct, fun row hrow => (h.known row hrow).change may, ?_, ?_⟩
  · intro p hp
    simp only [List.mem_append, Store.mem_sent_change, ← or_assoc] at hp
    rcases hp with hp | ⟨hwatched, rfl⟩
    · obtain ⟨hkind, hknown⟩ := h.heard p (List.mem_append.mpr hp)
      exact ⟨hkind, hknown.change may⟩
    · refine ⟨by simp, (s.current_change r).knows ?_⟩
      rw [Store.mem_unsent_change, if_pos rfl, not_not]
      exact hwatched
  · intro row hrow hfollowed hstrayed hunsent
    rw [Store.mem_strayed_change, not_or] at hstrayed
    rw [Store.mem_unsent_change] at hunsent
    by_cases hid : row.id = r.id
    · -- the change has been sent, for the last one of the run was
      rw [if_pos hid, not_not] at hunsent
      refine Or.inr ⟨⟨.update, r⟩, ?_, hid.symm, s.current_change r⟩
      exact List.mem_append_right _ (Store.mem_sent_change.mpr (Or.inr ⟨hunsent, rfl⟩))
    · rw [if_neg hid] at hunsent
      rcases h.covered row hrow hfollowed hstrayed.1 hunsent with
        hcurrent | ⟨p, hp, hpid, hcurrent⟩
      · exact Or.inl (hcurrent.change_of_ne hid)
      · refine Or.inr ⟨p, ?_, hpid, hcurrent.change_of_ne (hpid ▸ hid)⟩
        simp only [List.mem_append, Store.mem_sent_change, ← or_assoc] at hp ⊢
        exact Or.inl hp

lemma opens {opened : List RunId} (h : Abreast rows followed (inbox ++ s.sent) s)
    (opens : s.Opens opened t) : Abreast rows followed (inbox ++ t.sent) t := by
  induction opens with
  | start => exact h
  | change _ may ih => exact ih.change may
  | watch _ _ ih => exact ⟨ih.distinct, ih.known, ih.heard, ih.covered⟩

end Abreast

/-- The patches that arrived with an answer. -/
def arrivedAt : Task.Moment Call Call.Answer Event → List Patch
  | .asked _ answer => answer.arrived
  | .told _ => []

/-- The patches that arrived in a course. -/
def arrivals (log : BoardLog) : List Patch :=
  log.flatMap arrivedAt

/-- Whether a moment is a page that was listed. -/
def isPage : Task.Moment Call Call.Answer Event → Bool
  | .asked (.list _) ⟨.ok _, _⟩ => true
  | _ => false

@[simp] lemma arrivals_nil : arrivals [] = [] := rfl

@[simp] lemma arrivals_cons (m : Task.Moment Call Call.Answer Event) (log : BoardLog) :
    arrivals (m :: log) = arrivedAt m ++ arrivals log :=
  List.flatMap_cons

@[simp] lemma arrivals_append (log rest : BoardLog) :
    arrivals (log ++ rest) = arrivals log ++ arrivals rest :=
  List.flatMap_append

@[simp] lemma arrivals_releasing (ids : List RunId) : arrivals (releasing ids) = [] := by
  induction ids with
  | nil => rfl
  | cons id ids ih => exact ih

@[simp] lemma arrivals_reporting (e : RequestError) : arrivals (reporting e) = [] := by
  unfold reporting
  split <;> rfl

@[simp] lemma any_isPage_releasing (ids : List RunId) : (releasing ids).any isPage = false := by
  simp [releasing, isPage]

@[simp] lemma any_isPage_reporting (e : RequestError) : (reporting e).any isPage = false := by
  unfold reporting
  split <;> rfl

namespace Abreast

/-- Patches that arrive have been sent, and stay among those that wait. -/
lemma meets {m : Task.Moment Call Call.Answer Event}
    (h : Abreast rows followed (inbox ++ s.sent) s) (meets : s.Meets m t)
    (hm : isPage m = false) : Abreast rows followed (inbox ++ arrivedAt m ++ t.sent) t := by
  cases meets with
  | unsubscribe | notify =>
    rw [arrivedAt, List.append_nil]
    exact ⟨h.distinct, h.known, h.heard, h.covered⟩
  | list => cases hm
  | notListed queue | cancel queue | notRemoved _ queue =>
    -- what arrives leaves the queue of the store and waits behind the others
    rw [queue, ← List.append_assoc] at h
    exact ⟨h.distinct, h.known, h.heard, h.covered⟩
  | subscribeAll opens _ queue | givenUp opens _ queue =>
    have hopened := h.opens opens
    rw [queue, ← List.append_assoc] at hopened
    exact ⟨hopened.distinct, hopened.known, hopened.heard, hopened.covered⟩

/-- While no page is listed the rows stay abreast, however many runs change. -/
lemma answering (h : Abreast rows followed (inbox ++ s.sent) s) (answering : s.Answering log t)
    (hlog : log.any isPage = false) :
    Abreast rows followed (inbox ++ arrivals log ++ t.sent) t := by
  induction answering generalizing inbox with
  | done => simpa [arrivals] using h
  | change may _ ih => exact ih (h.change may) hlog
  | moment meets _ ih =>
    rw [List.any_cons, Bool.or_eq_false_iff] at hlog
    have hthen := ih (h.meets meets hlog.1) hlog.2
    rwa [List.append_assoc inbox] at hthen

/-- A page that is listed now is current, and so are the rows that are shown for it. -/
lemma fetched {page : Page} {arrived late : List Patch}
    (h : Abreast b.rows followed waiting s) (lists : s.Lists page) :
    Abreast ((b.receive arrived).replacePage page).rows Set.univ waiting
      { s with sent := late, unsent := [] } := by
  have hknown : ∀ {r}, s.Knows r → Store.Knows { s with sent := late, unsent := [] } r := by
    rintro r ⟨current, hrecord, hcurrent⟩
    exact ⟨current, hrecord, fun hstrayed =>
      (hcurrent hstrayed).imp_right fun hsame => ⟨hsame.1, List.not_mem_nil⟩⟩
  have hcurrent : ∀ fetched ∈ page.items,
      Store.Current { s with sent := late, unsent := [] } fetched := lists.current
  have hrows : ((b.receive arrived).replacePage page).rows = page.items.map (settleRow b.rows) :=
    rfl
  refine ⟨distinct_replacePage lists.distinct, ?_, fun p hp => ?_, ?_⟩
  · intro row hrow
    rw [hrows] at hrow
    obtain ⟨fetched, hfetched, rfl⟩ := List.mem_map.mp hrow
    rcases settleRow_eq_or b.rows fetched with heq | ⟨hheld, -⟩
    · rw [heq]
      exact (hcurrent fetched hfetched).knows List.not_mem_nil
    · exact hknown (h.known _ hheld)
  · exact ⟨(h.heard p hp).1, hknown (h.heard p hp).2⟩
  · intro row hrow _ hstrayed _
    rw [hrows] at hrow
    obtain ⟨fetched, hfetched, rfl⟩ := List.mem_map.mp hrow
    rcases settleRow_eq_or b.rows fetched with heq | ⟨hheld, hrejects⟩
    · rw [heq]
      exact Or.inl (hcurrent fetched hfetched)
    · -- a row that the store knows accepts what is current
      have haccepts := (h.known _ hheld).accepts hstrayed (lists.current fetched hfetched)
        (settleRow_id _ _).symm
      rw [hrejects] at haccepts
      exact absurd haccepts Bool.false_ne_true

end Abreast

/-! ### What the board does -/

/-- The patches that wait stay as they are. -/
@[simp] lemma patched_inbox (b : Board) (patch : Patch) :
    (b.patched patch).live.inbox = b.live.inbox := by
  unfold Board.patched
  dsimp only
  split <;> rfl

lemma subscribed_patched_subset (b : Board) (patch : Patch) :
    (b.patched patch).subscribed ⊆ b.subscribed := by
  intro id hid
  have hlive : id ∈ if (b.live.merge patch b.rows b.detail).outcome.releases then
      b.live.erase patch.record.id else b.live := hid
  split at hlive
  · exact (mem_erase.mp hlive).1
  · exact hlive

namespace Abreast

/-- Of the patches that wait, the first may be the one that counts. -/
lemma covered_cons {patch : Patch} (h : Abreast rows followed (patch :: waiting) s) (hr : r ∈ rows)
    (hfollowed : r.id ∈ followed) (hstrayed : r.id ∉ s.strayed) (hunsent : r.id ∉ s.unsent) :
    s.Current r ∨ (patch.record.id = r.id ∧ s.Current patch.record) ∨
      ∃ p ∈ waiting, p.record.id = r.id ∧ s.Current p.record := by
  rcases h.covered r hr hfollowed hstrayed hunsent with hcurrent | ⟨p, hp, hpid, hcurrent⟩
  · exact Or.inl hcurrent
  · rcases List.mem_cons.mp hp with rfl | hp
    · exact Or.inr (Or.inl ⟨hpid, hcurrent⟩)
    · exact Or.inr (Or.inr ⟨p, hp, hpid, hcurrent⟩)

/-- A patch may be dropped if it is not the one that counts. -/
lemma ignored {patch : Patch} (h : Abreast rows followed (patch :: waiting) s)
    (hsubset : followed' ⊆ followed)
    (hnot : ∀ r ∈ rows, r.id ∈ followed' → patch.record.id = r.id → r.id ∉ s.strayed →
      ¬ s.Current patch.record) : Abreast rows followed' waiting s := by
  refine ⟨h.distinct, h.known, fun p hp => h.heard p (List.mem_cons_of_mem _ hp), ?_⟩
  intro r hr hid hstrayed hunsent
  rcases h.covered_cons hr (hsubset hid) hstrayed hunsent with
    hcurrent | ⟨hpid, hcurrent⟩ | hlater
  · exact Or.inl hcurrent
  · exact absurd hcurrent (hnot r hr hid hpid hstrayed)
  · exact Or.inr hlater

/-- A patch may be shown if the row accepts it, for then the row is not ahead of it. -/
lemma replaced {patch : Patch} {held record : Run}
    (h : Abreast rows followed (patch :: waiting) s) (hsubset : followed' ⊆ followed)
    (hheld : held ∈ rows) (hid : held.id = patch.record.id)
    (haccepts : held.accepts patch.record = true) (hagrees : patch.record.Agrees record) :
    Abreast (replaceRow rows record) followed' waiting s := by
  obtain ⟨-, hheard⟩ := h.heard patch List.mem_cons_self
  refine ⟨distinct_replaceRow.mpr h.distinct, ?_, ?_, ?_⟩
  · intro r hr
    rcases (mem_replaceRow h.distinct).mp hr with ⟨rfl, -⟩ | ⟨hr, -⟩
    · exact hheard.congr hagrees
    · exact h.known r hr
  · exact fun p hp => h.heard p (List.mem_cons_of_mem _ hp)
  · intro r hr hfollowed hstrayed hunsent
    rcases (mem_replaceRow h.distinct).mp hr with ⟨rfl, -⟩ | ⟨hr, hne⟩
    · rw [← hagrees.id_eq, ← hid] at hfollowed hstrayed hunsent ⊢
      rcases h.covered_cons hheld (hsubset hfollowed) hstrayed hunsent with
        hcurrent | ⟨-, hcurrent⟩ | hlater
      · have hpatch := hheard.current_of_accepts hstrayed hcurrent hid.symm haccepts
        exact Or.inl (hpatch.congr hagrees)
      · exact Or.inl (hcurrent.congr hagrees)
      · exact Or.inr hlater
    · rcases h.covered_cons hr (hsubset hfollowed) hstrayed hunsent with
        hcurrent | ⟨hpid, -⟩ | hlater
      · exact Or.inl hcurrent
      · exact absurd (hpid.symm.trans hagrees.id_eq) hne
      · exact Or.inr hlater

/-- Taking in a patch keeps the rows abreast. -/
lemma patched {patch : Patch} (h : Abreast b.rows b.subscribed (patch :: waiting) s) :
    Abreast (b.patched patch).rows (b.patched patch).subscribed waiting s := by
  have hsubset := subscribed_patched_subset b patch
  have hmerges := merges_merge b.live patch b.rows b.detail
  have hrows : (b.patched patch).rows = (b.live.merge patch b.rows b.detail).rows := rfl
  rw [hrows]
  obtain ⟨hkind, -⟩ := h.heard patch List.mem_cons_self
  generalize b.live.merge patch b.rows b.detail = merged at hmerges
  cases hmerges with
  | notSubscribed hlive =>
    exact h.ignored hsubset fun r _ hid hpid => absurd (hpid ▸ hsubset hid) hlive
  | notOnPage hlive hnone =>
    exact h.ignored hsubset fun r hr _ hpid => absurd hpid.symm (hnone r hr)
  | removed _ _ hdelete => exact absurd hdelete hkind
  | @stale held _ hheld _ hrejects =>
    refine h.ignored hsubset fun r hr _ hpid hstrayed hcurrent => ?_
    obtain ⟨hmem, hid⟩ := rowOf?_eq_some hheld
    obtain rfl := h.distinct.eq_of_id_eq hmem hr (hid.trans hpid)
    -- a row that the store knows accepts what is current
    have haccepts := (h.known held hmem).accepts hstrayed hcurrent hpid
    rw [hrejects] at haccepts
    exact absurd haccepts Bool.false_ne_true
  | applied _ hheld _ haccepts =>
    obtain ⟨hmem, hid⟩ := rowOf?_eq_some hheld
    exact h.replaced hsubset hmem hid haccepts (Run.agrees_keepExpansion _ _).symm

lemma taken (h : Abreast b.rows b.subscribed (patches ++ waiting) s) :
    Abreast (patches.foldl Board.patched b).rows (patches.foldl Board.patched b).subscribed
      waiting s := by
  induction patches generalizing b with
  | nil => exact h
  | cons patch patches ih => exact ih h.patched

end Abreast

/-! ### Loading pages and carrying out commands -/

/-- The rows of a board keep abreast of the store, with the patches that have arrived and those that
are still on their way. -/
def IsAbreast (b : Board) (s : Store) : Prop :=
  Abreast b.rows b.subscribed (b.live.inbox ++ s.sent) s

/-- It suffices to look at the rows, the subscribed runs and the patches that wait. -/
lemma Abreast.isAbreast (h : Abreast b.rows b.subscribed waiting s) (rows : b'.rows = b.rows)
    (ids : b'.live.ids = b.live.ids) (hwaiting : b'.live.inbox ++ s.sent = waiting) :
    b'.IsAbreast s := by
  have hsubscribed : b'.subscribed = b.subscribed := by
    ext id
    simp only [subscribed, Set.mem_ofPred_eq, mem_def, ids]
  unfold IsAbreast
  rwa [rows, hsubscribed, hwaiting]

lemma subscribed_released (b : Board) : b.released.subscribed = ∅ := by
  ext id
  simp [subscribed, released]

namespace IsAbreast

/-- The rows stay abreast while runs change. -/
lemma changed (h : b.IsAbreast s) (answering : s.Answering [] t) : b.IsAbreast t := by
  have hend := Abreast.answering h answering rfl
  rwa [arrivals_nil, List.append_nil] at hend

/-- Once everything is released, nothing needs to be promised of the rows. -/
lemma released {ids : List RunId} (h : b.IsAbreast s) (answering : s.Answering (releasing ids) t) :
    b.released.IsAbreast t := by
  unfold IsAbreast
  rw [subscribed_released]
  exact (Abreast.answering h answering (any_isPage_releasing ids)).abandon
    fun _ hp => List.mem_append_right _ hp

/-- The rows are abreast where the steps of an operation begin. -/
lemma base {op : Operation} (h : b.IsAbreast s) (answering : s.Answering (op.opening b) t) :
    (op.base b).IsAbreast t := by
  unfold Operation.opening at answering
  unfold Operation.base
  by_cases hdown : op.tearsDown = true
  · rw [if_pos hdown] at answering ⊢
    exact h.released answering
  · rw [if_neg hdown] at answering ⊢
    exact h.changed answering

end IsAbreast

@[simp] lemma settle_inbox (live : Subscriptions) (outcomes : Outcomes) :
    (live.settle outcomes).inbox = live.inbox := by
  unfold settle
  induction outcomes generalizing live with
  | nil => rfl
  | cons outcome outcomes ih =>
    rw [List.foldl_cons, ih]
    by_cases hok : outcome.2.isOk = true
    · simp only [hok, if_true, Subscriptions.insert]
      split <;> rfl
    · simp [hok]

/-- Following the rows lists no page.  The patches that arrive wait, unless all is given up. -/
lemma Follows.quietly (h : b.Follows log b') :
    log.any isPage = false ∧ (b' = b.released ∨ b'.live.inbox = b.live.inbox ++ arrivals log) := by
  cases h with
  | settled batch =>
    cases batch with
    | idle hnil =>
      simp only [List.append_nil, any_isPage_releasing, arrivals_releasing, true_and]
      exact Or.inr rfl
    | answered result arrived hne =>
      simp only [List.any_append, any_isPage_releasing, arrivals_append, arrivals_releasing,
        settle_inbox]
      exact ⟨rfl, Or.inr (by simp [arrivedAt, keep, Subscriptions.receive])⟩
  | givenUp arrived hne => exact ⟨by simp [isPage], Or.inl rfl⟩

/-- All rows of a page that has just been listed are current; those that are subscribed then stay
abreast. -/
lemma Abreast.follows (h : Abreast b.rows Set.univ (b.live.inbox ++ s.sent) s)
    (follows : b.Follows log b') (answering : s.Answering log t) : b'.IsAbreast t := by
  obtain ⟨hlog, hinbox⟩ := follows.quietly
  have hend := h.answering answering hlog
  unfold IsAbreast
  rw [follows.rows_eq]
  rcases hinbox with rfl | hinbox
  · rw [subscribed_released]
    exact hend.abandon fun p hp => List.mem_append_right _ hp
  · rw [hinbox]
    exact hend.narrow (fun _ hp => hp) fun id _ => ⟨Set.mem_univ id, fun _ hp _ => hp⟩

namespace IsAbreast

lemma loads {shown : Bool} (h : b.IsAbreast s) (loads : b.Loads log b' shown)
    (answering : s.Answering log t) : b'.IsAbreast t := by
  cases loads with
  | shown page arrived follows =>
    obtain ⟨u, v, hchanges, hmeets, hanswering⟩ := Store.Answering.cons_iff.mp answering
    have hlater : Abreast b.rows b.subscribed (b.live.inbox ++ u.sent) u := h.changed hchanges
    cases hmeets with
    | list lists queue =>
      rw [queue, ← List.append_assoc] at hlater
      exact (hlater.fetched lists).follows follows hanswering
  | failed e arrived =>
    have hend := Abreast.answering h answering (by simp [isPage])
    exact hend.isAbreast (failed_rows _ e) (by simp) (by
      simp [arrivedAt, Board.receive, Subscriptions.receive])

/-- A request leaves the rows abreast, with the patches that arrived. -/
lemma requests {action : Call} {result : action.Result → Except RequestError Bool}
    {outcome : Except ActionError Bool} (h : b.IsAbreast s)
    (requests : b.Requests action result log b' outcome) (answering : s.Answering log t)
    (hpage : ∀ answer, isPage (.asked action answer) = false) : b'.IsAbreast t := by
  have hlog : log.any isPage = false := by
    cases requests <;> simp [hpage]
  have hend := Abreast.answering h answering hlog
  refine hend.isAbreast requests.rows_eq ?_ ?_
  · cases requests <;> rfl
  · cases requests <;> simp [arrivedAt, Board.receive, Subscriptions.receive]

lemma handles (h : b.IsAbreast s) (handles : b.Handles log b') (answering : s.Answering log t) :
    b'.IsAbreast t := by
  cases handles with
  | quiet _ rows live =>
    exact Abreast.isAbreast (h.changed answering) rows (by rw [live]) (by rw [live])
  | loaded loads => exact h.loads loads answering
  | turned loads =>
    refine IsAbreast.loads ?_ loads answering
    exact Abreast.isAbreast h rfl rfl rfl
  | notCanceled requests _ | notRemoved requests _ =>
    exact h.requests requests answering fun _ => rfl
  | canceled loads =>
    obtain ⟨u, v, hchanges, hmeets, hanswering⟩ := Store.Answering.cons_iff.mp answering
    have hthen := Abreast.meets (h.changed hchanges) hmeets rfl
    refine IsAbreast.loads ?_ loads hanswering
    exact hthen.isAbreast rfl rfl rfl
  | removed _ loads =>
    -- the store refuses to delete runs
    obtain ⟨u, v, -, hmeets, -⟩ := Store.Answering.cons_iff.mp answering
    cases hmeets with
    | notRemoved refused _ => exact absurd rfl refused

end IsAbreast

end RunBoard.Board
