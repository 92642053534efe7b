import RunBoard.Proofs.Board.Commands

/-!
# The runs that are followed are those in flight

A board subscribes the rows in flight of its page, and no others.  `Followed` is the invariant that
ties the subscriptions to the rows: whatever is subscribed is shown as in flight, and since the rows
were last followed every row in flight is subscribed unless its subscription failed.  Each step of a
board keeps it, so that `subscribed_iff_inFlight` holds after every history on pages that list each
run once.
-/

namespace RunBoard.Board

open Subscriptions

/-- All pages that were fetched list each run once. -/
def DistinctPages (log : BoardLog) : Prop :=
  ∀ (query : Query) (page : Page) (arrived : List Patch),
    .asked (.list query) ⟨.ok page, arrived⟩ ∈ log → Distinct page.items

lemma DistinctPages.append {log rest : BoardLog} (h : DistinctPages (log ++ rest)) :
    DistinctPages log ∧ DistinctPages rest :=
  ⟨fun query page arrived hmem => h query page arrived (List.mem_append_left _ hmem),
    fun query page arrived hmem => h query page arrived (List.mem_append_right _ hmem)⟩

lemma DistinctPages.append_iff {log rest : BoardLog} :
    DistinctPages (log ++ rest) ↔ DistinctPages log ∧ DistinctPages rest := by
  refine ⟨DistinctPages.append, fun h query page arrived hmem => ?_⟩
  rcases List.mem_append.mp hmem with hmem | hmem
  · exact h.1 query page arrived hmem
  · exact h.2 query page arrived hmem

lemma distinctPages_act {page : Page} (h : Distinct page.items) (b : Board) (op : Operation)
    (refused : RunId) : DistinctPages (b.act op (answerWith page refused)).1.log := by
  intro query fetched arrived hmem
  obtain ⟨-, answers⟩ := Task.course_of_play
    (show (b.perform op).play (answerWith page refused) = (_, _) from rfl)
  cases answers _ _ hmem
  exact h

/-! ### The runs that were missed -/

/-- The runs whose subscription failed when the rows were last followed to the end; there is no such
list once the subscriptions have been given up.  A page that was fetched is followed at once. -/
def missedAfter (missed : Option (List RunId)) :
    Task.Moment Call Call.Answer Event → Option (List RunId)
  | .asked (.list _) ⟨.ok _, _⟩ => some []
  | .asked (.subscribeAll ids) ⟨some result, _⟩ => some (ids.filter fun id => !(result id).isOk)
  | .asked (.subscribeAll _) ⟨none, _⟩ => none
  | _ => missed

/-- The runs that are missed after a deed. -/
def Deed.missed (missed : Option (List RunId)) (deed : Deed) : Option (List RunId) :=
  deed.log.foldl missedAfter (if deed.operation.tearsDown then none else missed)

/-- The runs whose subscription failed when the rows were last followed to the end, unless all
subscriptions have been given up since.  A new board, without rows, misses nothing. -/
def missed (deeds : List Deed) : Option (List RunId) :=
  deeds.foldl Deed.missed (some [])

variable {m : Option (List RunId)} {rows : List Run} {live live' : Subscriptions}
  {b b' : Board} {log : BoardLog} {id : RunId}

@[simp] lemma foldl_missedAfter_releasing (ids : List RunId) :
    (releasing ids).foldl missedAfter m = m := by
  induction ids with
  | nil => rfl
  | cons id ids ih => exact ih

@[simp] lemma foldl_missedAfter_reporting (e : RequestError) :
    (reporting e).foldl missedAfter m = m := by
  unfold reporting
  split <;> rfl

/-! ### The invariant -/

/-- The subscriptions follow the rows: `m` are the runs in flight that were missed, unless the
subscriptions have been given up. -/
structure Followed (m : Option (List RunId)) (rows : List Run) (live : Subscriptions) : Prop where
  distinct : Distinct rows
  shown : ∀ id ∈ live, wants rows id = true
  complete : ∀ failed, m = some failed → ∀ id, wants rows id = true → id ∈ live ∨ id ∈ failed

namespace Followed

/-- Patches that wait do not matter. -/
lemma congr_ids (h : Followed m rows live) (hids : live'.ids = live.ids) :
    Followed m rows live' := by
  have hmem : ∀ id, id ∈ live' ↔ id ∈ live := fun id => by rw [mem_def, mem_def, hids]
  exact ⟨h.distinct, fun id hid => h.shown id ((hmem id).mp hid),
    fun failed hm id hid => (h.complete failed hm id hid).imp_left (hmem id).mpr⟩

/-- Once everything has been released, nothing is promised of the rows in flight. -/
lemma of_released (h : Distinct rows) : Followed none rows .empty :=
  ⟨h, fun id hid => absurd hid (not_mem_empty id), fun _ hm => nomatch hm⟩

/-- A row that ends or goes, with its subscription, leaves the others as they are. -/
lemma erase {rows' : List Run} (h : Followed m rows live) (id : RunId) (distinct : Distinct rows')
    (others : ∀ j, j ≠ id → wants rows' j = wants rows j) (gone : wants rows' id = false) :
    Followed m rows' (live.erase id) := by
  refine ⟨distinct, ?_, ?_⟩
  · intro j hj
    obtain ⟨hlive, hne⟩ := mem_erase.mp hj
    rw [others j hne]
    exact h.shown j hlive
  · intro failed hm j hj
    have hne : j ≠ id := by
      rintro rfl
      rw [gone] at hj
      exact Bool.false_ne_true hj
    rw [others j hne] at hj
    exact (h.complete failed hm j hj).imp_left fun hlive => mem_erase.mpr ⟨hlive, hne⟩

/-- A row may be replaced by another one in flight. -/
lemma replace {rows' : List Run} (h : Followed m rows live) (distinct : Distinct rows')
    (same : ∀ j, wants rows' j = wants rows j) : Followed m rows' live :=
  ⟨distinct, fun j hj => by rw [same]; exact h.shown j hj,
    fun failed hm j hj => h.complete failed hm j (by rwa [same] at hj)⟩

/-- A row that is subscribed is in flight. -/
lemma isInFlight_of_mem {row : Run} (h : Followed m rows live) (hrow : row ∈ rows)
    (hid : row.id ∈ live) : row.isInFlight = true := by
  obtain ⟨r, hr, hrid, hflight⟩ := wants_iff.mp (h.shown _ hid)
  rwa [h.distinct.eq_of_id_eq hrow hr hrid.symm]

/-- If nothing was missed, exactly the rows in flight are subscribed. -/
lemma mem_live_iff {row : Run} (h : Followed (some []) rows live) (hrow : row ∈ rows) :
    row.id ∈ live ↔ row.isInFlight = true := by
  refine ⟨h.isInFlight_of_mem hrow, fun hflight => ?_⟩
  have hwants : wants rows row.id = true := wants_iff.mpr ⟨row, hrow, rfl, hflight⟩
  exact (h.complete [] rfl row.id hwants).resolve_right List.not_mem_nil

end Followed

/-! ### Which runs a changed page shows as in flight -/

lemma wants_removeRow (h : Distinct rows) (id j : RunId) :
    wants (removeRow rows id) j = (wants rows j && j ≠ id) := by
  rw [Bool.eq_iff_iff, Bool.and_eq_true, wants_iff, wants_iff]
  simp only [mem_removeRow h, ne_eq, decide_eq_true_eq]
  constructor
  · rintro ⟨r, ⟨hr, hne⟩, rfl, hflight⟩
    exact ⟨⟨r, hr, rfl, hflight⟩, hne⟩
  · rintro ⟨⟨r, hr, rfl, hflight⟩, hne⟩
    exact ⟨r, ⟨hr, hne⟩, rfl, hflight⟩

lemma wants_replaceRow (h : Distinct rows) {row : Run} (record : Run) (hrow : row ∈ rows)
    (hid : row.id = record.id) (j : RunId) :
    wants (replaceRow rows record) j =
      if j = record.id then record.isInFlight else wants rows j := by
  rw [Bool.eq_iff_iff, wants_iff]
  simp only [mem_replaceRow h]
  by_cases hj : j = record.id
  · rw [if_pos hj]
    constructor
    · rintro ⟨r, ⟨rfl, -⟩ | ⟨-, hne⟩, rfl, hflight⟩
      · exact hflight
      · exact absurd hj hne
    · intro hflight
      exact ⟨record, Or.inl ⟨rfl, row, hrow, hid⟩, hj.symm, hflight⟩
  · rw [if_neg hj, wants_iff]
    constructor
    · rintro ⟨r, ⟨rfl, -⟩ | ⟨hr, -⟩, rfl, hflight⟩
      · exact absurd rfl hj
      · exact ⟨r, hr, rfl, hflight⟩
    · rintro ⟨r, hr, rfl, hflight⟩
      exact ⟨r, Or.inr ⟨hr, hj⟩, rfl, hflight⟩

/-! ### What each step keeps -/

lemma Followed.patched (h : Followed m b.rows b.live) (patch : Patch) :
    Followed m (b.patched patch).rows (b.patched patch).live := by
  have hmerges := merges_merge b.live patch b.rows b.detail
  unfold Board.patched
  generalize b.live.merge patch b.rows b.detail = merged at hmerges
  cases hmerges with
  | notSubscribed hlive => exact h
  | notOnPage hlive hnone =>
    obtain ⟨r, hr, hid, -⟩ := wants_iff.mp (h.shown _ hlive)
    exact absurd hid (hnone r hr)
  | removed hlive hrow hdelete =>
    refine h.erase _ (distinct_removeRow h.distinct _) (fun j hj => ?_) ?_
    · simp [wants_removeRow h.distinct, hj]
    · simp [wants_removeRow h.distinct]
  | @applied row hlive hrow hkeep haccepts =>
    obtain ⟨hmem, hid⟩ := rowOf?_eq_some hrow
    have hwants := wants_replaceRow h.distinct (patch.record.keepExpansion row) hmem
      (by simpa using hid)
    have hdistinct : Distinct (replaceRow b.rows (patch.record.keepExpansion row)) :=
      distinct_replaceRow.mpr h.distinct
    by_cases hflight : (patch.record.keepExpansion row).isInFlight = true
    · -- the run stays subscribed, and was shown as in flight before
      have hsame : ∀ j, wants (replaceRow b.rows (patch.record.keepExpansion row)) j =
          wants b.rows j := by
        intro j
        rw [hwants j]
        split
        · rename_i hj
          rw [hflight, hj, Run.keepExpansion_id]
          exact (h.shown _ hlive).symm
        · rfl
      simpa [hflight, Outcome.releases] using h.replace hdistinct hsame
    · rw [Bool.not_eq_true] at hflight
      have hgone := h.erase patch.record.id hdistinct
        (fun j hj => by rw [hwants j, if_neg (by simpa using hj)])
        (by rw [hwants, if_pos (by simp), hflight])
      simpa [hflight, Outcome.releases] using hgone
  | stale hlive hrow hkeep haccepts => exact h

lemma Followed.dropRows (h : Followed m b.rows b.live) {ids : List RunId}
    (ended : ∀ id ∈ ids, ∃ r ∈ b.rows, r.id = id ∧ r.isTerminal = true) :
    Followed m (b.dropRows ids).rows (b.dropRows ids).live := by
  have hwants : ∀ j, wants (b.dropRows ids).rows j = wants b.rows j := by
    intro j
    rw [Bool.eq_iff_iff, wants_iff, wants_iff]
    simp only [Board.dropRows, List.mem_filter, decide_eq_true_eq]
    constructor
    · rintro ⟨r, ⟨hr, -⟩, rfl, hflight⟩
      exact ⟨r, hr, rfl, hflight⟩
    · rintro ⟨r, hr, rfl, hflight⟩
      refine ⟨r, ⟨hr, fun hmem => ?_⟩, rfl, hflight⟩
      -- a dropped row has ended, and it is the only one of its run
      obtain ⟨r', hr', hid, hterminal⟩ := ended _ hmem
      rw [h.distinct.eq_of_id_eq hr' hr hid] at hterminal
      simp [hflight] at hterminal
  exact h.replace (h.distinct.filter _) hwants

/-- Following the rows of a page, whatever was subscribed before. -/
lemma followed_of_follows (h : Distinct b.rows) (follows : b.Follows log b') :
    Followed (log.foldl missedAfter (some [])) b'.rows b'.live := by
  cases follows with
  | @settled rest live outcomes batch =>
    rw [List.foldl_append, foldl_missedAfter_releasing]
    cases batch with
    | idle hnil =>
      refine ⟨h, fun id hid => (mem_keep.mp hid).2, fun failed _ id hid => Or.inl ?_⟩
      rcases mem_keep_or_missing (s := b.live) hid with hkept | hmissing
      · exact hkept
      · rw [hnil] at hmissing
        exact absurd hmissing List.not_mem_nil
    | answered result arrived hne =>
      refine ⟨h, fun id hid => ?_, fun failed hm id hid => ?_⟩
      · rcases mem_settle_outcomesOf.mp hid with hkept | ⟨hmissing, -⟩
        · exact (mem_keep.mp hkept).2
        · exact mem_wanted.mp (mem_missing.mp hmissing).1
      · rcases mem_keep_or_missing (s := b.live) hid with hkept | hmissing
        · exact Or.inl (mem_settle_outcomesOf.mpr (Or.inl hkept))
        · by_cases hok : (result id).isOk = true
          · exact Or.inl (mem_settle_outcomesOf.mpr (Or.inr ⟨hmissing, hok⟩))
          · obtain rfl := Option.some.inj hm
            exact Or.inr (List.mem_filter.mpr ⟨hmissing, by simpa using hok⟩)
  | givenUp arrived hne =>
    have hnone : (releasing (b.live.stale b.rows) ++
        .asked (.subscribeAll ((b.live.keep b.rows).missing (wanted b.rows))) ⟨none, arrived⟩ ::
          (releasing ((b.live.keep b.rows).missing (wanted b.rows)) ++
            releasing (b.live.keep b.rows).ids)).foldl missedAfter (some []) = none := by
      rw [List.foldl_append, foldl_missedAfter_releasing, List.foldl_cons, List.foldl_append,
        foldl_missedAfter_releasing, foldl_missedAfter_releasing]
      rfl
    rw [hnone]
    exact .of_released h

/-! ### Following with every subscription accepted -/

/-- No batch was given up, and no subscription of the run was refused. -/
def Accepting (id : RunId) (log : BoardLog) : Prop :=
  ∀ (ids : List RunId) (answer : Call.Answer (.subscribeAll ids)),
    .asked (.subscribeAll ids) answer ∈ log →
      ∃ result, answer.result = some result ∧ (id ∈ ids → (result id).isOk = true)

lemma Accepting.append {rest : BoardLog} (h : Accepting id (log ++ rest)) :
    Accepting id log ∧ Accepting id rest :=
  ⟨fun ids answer hmem => h ids answer (List.mem_append_left _ hmem),
    fun ids answer hmem => h ids answer (List.mem_append_right _ hmem)⟩

lemma Follows.rows_eq (h : b.Follows log b') : b'.rows = b.rows := by
  cases h <;> rfl

/-- If its subscription is accepted, a run is subscribed from then on exactly if it is in
flight. -/
lemma Follows.mem_live_iff (h : b.Follows log b') (accepting : Accepting id log) :
    id ∈ b'.live ↔ wants b.rows id = true := by
  cases h with
  | @settled rest live outcomes batch =>
    cases batch with
    | idle hnil =>
      refine ⟨fun hid => (mem_keep.mp hid).2, fun hwants => ?_⟩
      rcases mem_keep_or_missing (s := b.live) hwants with hkept | hmissing
      · exact hkept
      · rw [hnil] at hmissing
        exact absurd hmissing List.not_mem_nil
    | answered result arrived hne =>
      obtain ⟨_, hresult, hok⟩ := accepting.append.2 _ _ List.mem_cons_self
      obtain rfl := Option.some.inj hresult
      simp only [mem_settle_outcomesOf, mem_receive]
      constructor
      · rintro (hkept | ⟨hmissing, -⟩)
        · exact (mem_keep.mp hkept).2
        · exact mem_wanted.mp (mem_missing.mp hmissing).1
      · intro hwants
        rcases mem_keep_or_missing (s := b.live) hwants with hkept | hmissing
        · exact Or.inl hkept
        · exact Or.inr ⟨hmissing, hok hmissing⟩
  | givenUp arrived hne =>
    obtain ⟨_, hresult, -⟩ := accepting.append.2 _ _ List.mem_cons_self
    cases hresult

/-! ### Whole steps -/

/-- Each step keeps the subscriptions in line with the rows. -/
lemma Followed.step (step : Step b log b') (pages : DistinctPages log)
    (h : Followed m b.rows b.live) : Followed (log.foldl missedAfter m) b'.rows b'.live := by
  cases step with
  | receive => exact h.congr_ids rfl
  | patch patch =>
    have hlog : (if (b.live.merge patch b.rows b.detail).outcome.releases then
        releasing [patch.record.id] else []).foldl missedAfter m = m := by
      split
      · exact foldl_missedAfter_releasing _
      · rfl
    rw [hlog]
    exact h.patched patch
  | take hnext =>
    obtain ⟨_, -, rfl⟩ := nextPatch?_eq_some_iff.mp hnext
    exact h.congr_ids rfl
  | empty => exact h.congr_ids rfl
  | load page arrived follows =>
    have hdistinct : Distinct page.items := pages _ _ _ List.mem_cons_self
    exact followed_of_follows (distinct_replacePage hdistinct) follows
  | fail e arrived =>
    rw [List.foldl_cons, foldl_missedAfter_reporting, failed_rows, failed_live]
    exact h.congr_ids rfl
  | remove => exact h.congr_ids rfl
  | removeFailed =>
    rw [List.foldl_cons, foldl_missedAfter_reporting]
    exact h.congr_ids rfl
  | cancel => exact h.congr_ids rfl
  | cancelFailed =>
    rw [List.foldl_cons, foldl_missedAfter_reporting]
    exact h.congr_ids rfl
  | drop ids ended => exact h.dropRows ended
  | turn | select | clearSelection | closeDetail => exact h
  | toggle id =>
    rw [toggle_rows, toggle_live]
    exact h
  | openDetail id =>
    rw [openDetail_rows, openDetail_live]
    exact h

/-! ### Whole histories -/

lemma Followed.steps (steps : Steps b log b') (pages : DistinctPages log)
    (h : Followed m b.rows b.live) : Followed (log.foldl missedAfter m) b'.rows b'.live := by
  induction steps generalizing m with
  | refl => exact h
  | cons first _ ih =>
    rw [List.foldl_append]
    exact ih pages.append.2 (h.step first pages.append.1)

lemma followed_of_history {query : Query} {deeds : List Deed}
    (history : History (.new query) deeds b) (pages : DistinctPages (logOf deeds)) :
    Followed (missed deeds) b.rows b.live := by
  induction history with
  | start =>
    exact ⟨List.nodup_nil, fun id hid => absurd hid (not_mem_empty id), by simp [wants, new]⟩
  | @next deeds c d deed _ course ih =>
    rw [logOf_append] at pages
    have h := ih pages.append.1
    obtain ⟨rest, hlog, steps⟩ := steps_of_course_perform course
    have hpages : DistinctPages rest := by
      have hdeed := pages.append.2
      rw [hlog] at hdeed
      exact hdeed.append.2
    have hmissed : missed (deeds ++ [deed]) = deed.log.foldl missedAfter
        (if deed.operation.tearsDown then none else missed deeds) := by
      simp [missed, Deed.missed]
    rw [hmissed, hlog, List.foldl_append]
    -- an operation that tears down begins without subscriptions, and nothing is promised then
    by_cases hdown : deed.operation.tearsDown = true
    · simp only [Operation.opening, Operation.base, hdown, if_true,
        foldl_missedAfter_releasing] at steps ⊢
      exact Followed.steps steps hpages (.of_released h.distinct)
    · simp only [Operation.opening, Operation.base, hdown] at steps ⊢
      exact Followed.steps steps hpages h

/-- **Subscribed means in flight.**  After every history of a new board, on pages that list each run
once and with any answers of the backend, every subscribed run is shown as in flight, so that no
patch is ever dropped because its run has left the page.  And unless the subscriptions have been
given up since the rows were last followed to the end, every row in flight is subscribed but for
those whose subscription failed then. -/
theorem subscribed_iff_inFlight {query : Query} {deeds : List Deed} {b : Board}
    (history : History (.new query) deeds b) (pages : DistinctPages (logOf deeds)) :
    (∀ id ∈ b.live, ∃ r ∈ b.rows, r.id = id ∧ r.isInFlight = true) ∧
    (∀ (patch : Patch) (log : BoardLog) (b' : Board) (outcome : Outcome),
      (b.applyPatch patch).Course log (b', outcome) → outcome ≠ .ignored .notOnPage) ∧
    (∀ failed, missed deeds = some failed →
      ∀ r ∈ b.rows, r.isInFlight = true → r.id ∈ b.live ∨ r.id ∈ failed) := by
  have h := followed_of_history history pages
  refine ⟨fun id hid => wants_iff.mp (h.shown id hid), ?_, ?_⟩
  · rintro patch log b' outcome hcourse rfl
    obtain ⟨-, -, houtcome⟩ := course_applyPatch_iff.mp hcourse
    have hmerges := merges_merge b.live patch b.rows b.detail
    generalize b.live.merge patch b.rows b.detail = merged at hmerges houtcome
    cases hmerges with
    | notOnPage hlive hnone =>
      obtain ⟨r, hr, hid, -⟩ := wants_iff.mp (h.shown _ hlive)
      exact hnone r hr hid
    | notSubscribed | removed | applied | stale => cases houtcome
  · intro failed hmissed r hr hflight
    exact h.complete failed hmissed r.id (wants_iff.mpr ⟨r, hr, rfl, hflight⟩)

/-- A page with three runs in flight and one that has ended. -/
def busyPage : Page :=
  ⟨[.bare "a" .pending, .bare "b" .processing, .bare "c" .succeeded, .bare "d" .pending], 4⟩

/-- What loading the page comes to if the subscription of one run is refused. -/
def busyLoad : BoardLog × Board :=
  ((Board.new (.of none 1 10 false)).perform (.command .refresh)).play (answerWith busyPage "b")

theorem subscribed_iff_inFlight_of_refused :
    (∀ id ∈ busyLoad.2.live, ∃ r ∈ busyLoad.2.rows, r.id = id ∧ r.isInFlight = true) ∧
    ∀ r ∈ busyLoad.2.rows, r.isInFlight = true →
      r.id ∈ busyLoad.2.live ∨ r.id ∈ [(⟨"b"⟩ : RunId)] := by
  have history : History (.new (.of none 1 10 false)) [⟨.command .refresh, busyLoad.1⟩]
      busyLoad.2 := .next .start (Task.course_play _ _)
  have pages : DistinctPages (logOf [⟨.command .refresh, busyLoad.1⟩]) := by
    intro query page arrived hmem
    have hlog : logOf [⟨.command .refresh, busyLoad.1⟩] =
        [.asked (.list (.of none 1 10 false)) ⟨.ok busyPage, []⟩,
          .asked (.subscribeAll ["a", "b", "d"]) (answerWith busyPage "b" _)] := rfl
    rw [hlog, List.mem_cons, List.mem_singleton] at hmem
    rcases hmem with hlist | hbatch
    · cases hlist
      unfold Distinct
      decide
    · cases hbatch
  have h := subscribed_iff_inFlight history pages
  exact ⟨h.1, h.2.2 _ rfl⟩

end RunBoard.Board
