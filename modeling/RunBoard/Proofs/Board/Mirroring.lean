import Mathlib.Data.List.Chain
import RunBoard.Proofs.Board.Progress

/-!
# The detail mirrors the row

The run that is shown in full is a copy of its row, taken when the detail was opened.  From then on
the copy and the row are replaced separately, each by what it accepts itself, so nothing but the
same test on both sides keeps them alike.

`Mirrors` says that they are alike.  An operation keeps it as long as it leaves the run on the page;
a run that is gone in the middle of it is gone at the end, or it has been deleted.  Without its row
the copy goes on by itself (`GoesOn`), to records that it accepts.
-/

namespace RunBoard.Board

open Subscriptions

variable {b b' c d : Board} {rows : List Run} {row run : Run} {id : RunId} {log : BoardLog}

/-! ### Offering rows to the detail -/

lemma merge_of_ne (h : row.id ≠ run.id) : Detail.merge (some run) row = some run := by
  simp [Detail.merge, Detail.takes, h.symm]

lemma merge_of_id (h : row.id = run.id) :
    Detail.merge (some run) row = if run.accepts row then some row else some run := by
  simp [Detail.merge, Detail.takes, h]

lemma mergeRows_of_absent (h : ∀ r ∈ rows, r.id ≠ run.id) :
    mergeRows (some run) rows = some run := by
  induction rows with
  | nil => rfl
  | cons r rows ih =>
    rw [mergeRows, List.foldl_cons, merge_of_ne (h r List.mem_cons_self)]
    exact ih fun s hs => h s (List.mem_cons_of_mem _ hs)

/-- Of the rows of a page only that of the run counts. -/
lemma mergeRows_of_row (distinct : Distinct rows) (hrow : rowOf? rows run.id = some row) :
    mergeRows (some run) rows = if run.accepts row then some row else some run := by
  induction rows with
  | nil => cases hrow
  | cons r rows ih =>
    obtain ⟨hnew, hrows⟩ := Distinct.cons_iff.mp distinct
    rw [mergeRows, List.foldl_cons]
    by_cases hid : r.id = run.id
    · obtain rfl : r = row := by simpa [rowOf?, hid] using hrow
      rw [merge_of_id hid]
      -- the rows behind it are of other runs
      split
      · exact mergeRows_of_absent hnew
      · exact mergeRows_of_absent fun s hs => hid ▸ hnew s hs
    · rw [merge_of_ne hid]
      exact ih hrows (by simpa [rowOf?, hid] using hrow)

/-! ### One operation -/

/-- The run that is shown in full is the row of the run. -/
def Mirrors (id : RunId) (b : Board) : Prop :=
  ∃ run, b.detail = some run ∧ b.row? id = some run

/-- The detail shows the same run on both boards, on the second one in a record that the first one
accepts. -/
def GoesOn (b b' : Board) : Prop :=
  ∃ run run', b.detail = some run ∧ b'.detail = some run' ∧ run'.id = run.id ∧
    run.accepts run' = true

lemma goesOn_of_merge (hdetail : b.detail = some run)
    (hmerge : b'.detail = Detail.merge (some run) row) : GoesOn b b' := by
  by_cases hid : row.id = run.id
  · rw [merge_of_id hid] at hmerge
    split at hmerge
    · rename_i haccepts
      exact ⟨run, row, hdetail, hmerge, hid, haccepts⟩
    · exact ⟨run, run, hdetail, hmerge, rfl, (Run.Agrees.refl run).accepts⟩
  · rw [merge_of_ne hid] at hmerge
    exact ⟨run, run, hdetail, hmerge, rfl, (Run.Agrees.refl run).accepts⟩

lemma goesOn_of_same (hdetail : b.detail = some run) (same : b'.detail = b.detail) : GoesOn b b' :=
  ⟨run, run, hdetail, same.trans hdetail, rfl, (Run.Agrees.refl run).accepts⟩

lemma goesOn_patched (hdetail : b.detail = some run) (patch : Patch) :
    GoesOn b (b.patched patch) := by
  have hmerges := merges_merge b.live patch b.rows b.detail
  have hpatched : (b.patched patch).detail = (b.live.merge patch b.rows b.detail).detail := rfl
  generalize b.live.merge patch b.rows b.detail = merged at hmerges hpatched
  cases hmerges with
  | notSubscribed | notOnPage | stale | removed => exact goesOn_of_same hdetail hpatched
  | applied =>
    rw [hdetail] at hpatched
    exact goesOn_of_merge hdetail hpatched

/-- A patch that leaves the run on the page goes to its row and to the copy alike. -/
lemma Mirrors.patched (h : Mirrors id b) (distinct : Distinct b.rows) (patch : Patch)
    (shown : ((b.patched patch).row? id).isSome = true) : Mirrors id (b.patched patch) := by
  obtain ⟨run, hdetail, hrow⟩ := h
  obtain ⟨-, rfl⟩ := rowOf?_eq_some hrow
  have hmerges := merges_merge b.live patch b.rows b.detail
  have hpatched : (b.patched patch).detail = (b.live.merge patch b.rows b.detail).detail := rfl
  have hrows : (b.patched patch).row? run.id =
      rowOf? (b.live.merge patch b.rows b.detail).rows run.id := rfl
  rw [hrows] at shown
  generalize b.live.merge patch b.rows b.detail = merged at hmerges hpatched hrows shown
  cases hmerges with
  | notSubscribed | notOnPage | stale => exact ⟨run, hpatched.trans hdetail, hrows.trans hrow⟩
  | removed =>
    by_cases hid : run.id = patch.record.id
    · rw [hid, rowOf?_removeRow_self distinct] at shown
      cases shown
    · exact ⟨run, hpatched.trans hdetail, hrows.trans ((rowOf?_removeRow hid).trans hrow)⟩
  | @applied held _ hheld _ haccepts =>
    rw [rowOf?_replaceRow, Run.keepExpansion_id] at hrows
    rw [hdetail] at hpatched
    by_cases hid : run.id = patch.record.id
    · obtain rfl : run = held := Option.some.inj (hrow.symm.trans (hid ▸ hheld))
      -- the copy is offered the record with the expansion of the row, which has the same status
      -- and the same stamp as the one that the row has accepted
      have hsame : run.accepts (patch.record.keepExpansion run) = true := by
        rwa [Run.accepts_congr (.refl run) (Run.agrees_keepExpansion patch.record run)]
      rw [merge_of_id (by simp [hid]), if_pos hsame] at hpatched
      rw [if_pos hid] at hrows
      exact ⟨_, hpatched, hrows.trans (by rw [show rowOf? b.rows run.id = some run from hrow]; rfl)⟩
    · rw [merge_of_ne (by simpa using Ne.symm hid)] at hpatched
      rw [if_neg hid] at hrows
      exact ⟨run, hpatched, hrows.trans hrow⟩

lemma goesOn_of_reshows (hdetail : b.detail = some run) (h : Reshows log b b')
    (pages : DistinctPages log) : GoesOn b b' := by
  cases h with
  | patched patch _ hpatched =>
    obtain ⟨r, s, hr, hs, hlater⟩ := goesOn_patched hdetail patch
    exact ⟨r, s, hr, hpatched.trans hs, hlater⟩
  | thinned _ same => exact goesOn_of_same hdetail same
  | @loaded rest query page arrived _ fetched hrows hmerged =>
    have distinct : Distinct b'.rows :=
      hrows ▸ distinct_map_settleRow (pages _ _ _ fetched) rest
    rw [hdetail] at hmerged
    cases hrow : rowOf? b'.rows run.id with
    | none =>
      rw [mergeRows_of_absent (rowOf?_eq_none_iff.mp hrow)] at hmerged
      exact goesOn_of_same hdetail (hmerged.trans hdetail.symm)
    | some row =>
      rw [mergeRows_of_row distinct hrow, ← merge_of_id (rowOf?_eq_some hrow).2] at hmerged
      exact goesOn_of_merge hdetail hmerged

/-- An operation that leaves the run on the page leaves the copy equal to its row. -/
lemma Mirrors.of_reshows (h : Mirrors id b) (distinct : Distinct b.rows)
    (reshows : Reshows log b b') (pages : DistinctPages log)
    (spared : ∀ ids arrived, .asked (.remove ids) ⟨.ok true, arrived⟩ ∈ log → id ∉ ids)
    (shown : (b'.row? id).isSome = true) : Mirrors id b' := by
  cases reshows with
  | patched patch hrows hpatched =>
    have hrow : (b.patched patch).row? id = b'.row? id := by rw [row?, row?, hrows]
    obtain ⟨run, hdetail, hrow'⟩ := h.patched distinct patch (hrow ▸ shown)
    exact ⟨run, hpatched.trans hdetail, hrow ▸ hrow'⟩
  | thinned thinned same =>
    obtain ⟨run, hdetail, hrow⟩ := h
    exact ⟨run, same.trans hdetail, (thinned.rowOf?_eq spared).trans hrow⟩
  | @loaded rest query page arrived thinned fetched hrows hmerged =>
    obtain ⟨run, hdetail, hrow⟩ := h
    obtain ⟨-, rfl⟩ := rowOf?_eq_some hrow
    obtain ⟨row, hrow'⟩ := Option.isSome_iff_exists.mp shown
    -- the row is one that the old row accepts, so the copy, which equals that one, accepts it
    have hlater : run.accepts row = true :=
      (Reworked.loaded thinned fetched).accepts distinct spared hrow (hrows ▸ hrow')
    have distinct' : Distinct b'.rows :=
      hrows ▸ distinct_map_settleRow (pages _ _ _ fetched) rest
    rw [hdetail, mergeRows_of_row distinct' hrow', if_pos hlater] at hmerged
    exact ⟨row, hmerged, hrow'⟩

/-! ### All patches that wait -/

lemma Mirrors.patches {patches : List Patch} (h : Mirrors id b) (distinct : Distinct b.rows)
    (shown : ((patches.foldl Board.patched b).row? id).isSome = true) :
    Mirrors id (patches.foldl Board.patched b) := by
  induction patches generalizing b with
  | nil => exact h
  | cons patch patches ih =>
    have hdistinct : Distinct (b.patched patch).rows := distinct_merge distinct
    -- no patch brings a row back, so the run has its row after the first one
    obtain ⟨row, hrow⟩ := Option.isSome_iff_exists.mp shown
    obtain ⟨mid, hmid, -⟩ := onward_of_patches (P := fun _ => True) (R := fun _ _ => True)
      (fun _ => trivial) (fun _ _ _ => trivial) hdistinct (fun _ _ _ _ => trivial) hrow
    exact ih (h.patched distinct patch (by rw [hmid]; rfl)) hdistinct shown

/-- The detail goes on with every patch of those that are taken in together. -/
lemma isChain_goesOn_of_patches (hdetail : b.detail = some run) (patches : List Patch) :
    (b :: (b.patchedBy patches ++ [patches.foldl Board.patched b])).IsChain GoesOn := by
  induction patches generalizing b run with
  | nil => exact List.isChain_pair.mpr (goesOn_of_same hdetail rfl)
  | cons patch patches ih =>
    have hfirst := goesOn_patched hdetail patch
    have ⟨_, _, _, hdetail', _⟩ := hfirst
    exact List.isChain_cons_cons.mpr ⟨hfirst, ih hdetail'⟩

/-! ### Histories -/

/-- In a deed the detail is neither opened nor closed.  Asking for a run that has no row opens
nothing. -/
structure Deed.LeavesDetail (deed : Deed) (before _after : Board) : Prop where
  notClosed : deed.operation ≠ .command .closeDetail
  notOpened : ∀ id, deed.operation = .command (.openDetail id) → before.row? id = none

/-- A run stays on the page in a deed, and the detail is neither closed nor opened for another
run. -/
structure Deed.KeepsShowing (id : RunId) (deed : Deed) (before after : Board) : Prop
    extends deed.Displays id before after where
  left : deed.LeavesDetail before after ∨ deed.operation = .command (.openDetail id)

lemma Deed.LeavesDetail.of_not_meansDetail {deed : Deed}
    (h : deed.operation.meansDetail = false) : deed.LeavesDetail c d := by
  constructor
  · intro hop
    rw [hop] at h
    cases h
  · intro id hop
    rw [hop] at h
    cases h

lemma Deed.LeavesDetail.eq_of_meansDetail {deed : Deed} (h : deed.LeavesDetail c d)
    (hop : deed.operation.meansDetail = true)
    (course : (c.perform deed.operation).Course deed.log d) : d = c := by
  obtain ⟨notClosed, notOpened⟩ := h
  generalize deed.operation = op at *
  unfold Operation.meansDetail at hop
  split at hop
  · rename_i id
    obtain ⟨-, rfl⟩ := course_openDetail_iff.mp course
    rw [openDetail_of_none (notOpened id rfl)]
  · exact absurd rfl notClosed
  · cases hop

/-- The detail goes on through all that a deed goes through. -/
lemma isChain_goesOn_of_course {deed : Deed} (hdetail : c.detail = some run)
    (course : (c.perform deed.operation).Course deed.log d) (leaves : deed.LeavesDetail c d)
    (pages : DistinctPages deed.log) : (c :: deed.operation.moments c d).IsChain GoesOn := by
  by_cases hop : deed.operation = .drain
  · rw [hop] at course ⊢
    obtain ⟨-, rfl⟩ := course_perform_drain course
    have hchain := isChain_goesOn_of_patches (b := c.emptied) hdetail c.live.inbox
    rw [List.isChain_cons] at hchain ⊢
    exact hchain
  · have hmoments : deed.operation.moments c d = [d] := by
      unfold Operation.moments
      split
      · exact absurd ‹_› hop
      · rfl
    rw [hmoments, List.isChain_pair]
    cases hmeans : deed.operation.meansDetail with
    | true =>
      obtain rfl := leaves.eq_of_meansDetail hmeans course
      exact goesOn_of_same hdetail rfl
    | false => exact goesOn_of_reshows hdetail (reshows_of_course_perform hop hmeans course) pages

/-- A deed that keeps the run on the page and the detail open leaves the copy equal to its row. -/
lemma Mirrors.of_course {deed : Deed} (h : Mirrors id c) (distinct : Distinct c.rows)
    (course : (c.perform deed.operation).Course deed.log d) (keeps : deed.KeepsShowing id c d)
    (pages : DistinctPages deed.log) : Mirrors id d := by
  by_cases hop : deed.operation = .drain
  · rw [hop] at course
    obtain ⟨-, rfl⟩ := course_perform_drain course
    exact Mirrors.patches (b := c.emptied) h distinct keeps.shown
  · cases hmeans : deed.operation.meansDetail with
    | true =>
      rcases keeps.left with leaves | hopen
      · exact leaves.eq_of_meansDetail hmeans course ▸ h
      · -- the run is opened anew, and the copy is taken anew
        rw [hopen] at course
        obtain ⟨-, rfl⟩ := course_openDetail_iff.mp course
        obtain ⟨run, -, hrow⟩ := h
        rw [openDetail_of_row hrow]
        exact ⟨run, rfl, hrow⟩
    | false =>
      exact h.of_reshows distinct (reshows_of_course_perform hop hmeans course) pages
        keeps.spared keeps.shown

lemma mirrors_openDetail (opened : (b.openDetail id).2 = true) :
    Mirrors id (b.openDetail id).1 := by
  cases hrow : b.row? id with
  | none =>
    rw [openDetail_of_none hrow] at opened
    cases opened
  | some row =>
    rw [openDetail_of_row hrow]
    exact ⟨row, rfl, hrow⟩

lemma Mirrors.of_history {query : Query} {earlier deeds : List Deed} (h : Mirrors id b)
    (reached : History (.new query) earlier b)
    (stretch : HistoryWhere (Deed.KeepsShowing id) b deeds b')
    (pages : DistinctPages (logOf (earlier ++ deeds))) : Mirrors id b' := by
  induction stretch with
  | start => exact h
  | @next deeds c d deed before course holds ih =>
    rw [← List.append_assoc, logOf_append] at pages
    have distinct : Distinct c.rows :=
      (followed_of_history (before.history reached) pages.append.1).distinct
    exact (ih pages.append.1).of_course distinct course holds pages.append.2

/-- The run that the detail shows on the first board is shown on the second one, with a status that
can be reached. -/
def Becomes (b b' : Board) : Prop :=
  ∃ run run', b.detail = some run ∧ b'.detail = some run' ∧ run'.id = run.id ∧
    run.status.canBecome run'.status = true

lemma GoesOn.becomes (h : GoesOn b b') : Becomes b b' := by
  obtain ⟨run, run', hdetail, hdetail', hid, haccepts⟩ := h
  exact ⟨run, run', hdetail, hdetail', hid, (Run.accepts_iff.mp haccepts).1⟩

lemma Becomes.trans (h : Becomes b c) (h' : Becomes c d) : Becomes b d := by
  obtain ⟨run, mid, hdetail, hmid, hid, hearly⟩ := h
  obtain ⟨mid', run', hmid', hdetail', hid', hlate⟩ := h'
  obtain rfl : mid = mid' := Option.some.inj (hmid.symm.trans hmid')
  exact ⟨run, run', hdetail, hdetail', hid'.trans hid, Status.canBecome_trans hearly hlate⟩

instance : Trans Becomes Becomes Becomes := ⟨Becomes.trans⟩

lemma becomes_of_history {deeds : List Deed} (hdetail : b.detail = some run)
    (stretch : HistoryWhere Deed.LeavesDetail b deeds b') (pages : DistinctPages (logOf deeds)) :
    Becomes b b' := by
  induction stretch with
  | start => exact ⟨run, run, hdetail, hdetail, rfl, Status.canBecome_self run.status⟩
  | @next deeds c d deed before course holds ih =>
    rw [logOf_append] at pages
    have hearly := ih pages.append.1
    have ⟨_, mid, _, hmid, _⟩ := hearly
    have hchain := (isChain_goesOn_of_course hmid course holds pages.append.2).imp
      fun _ _ => GoesOn.becomes
    have hlate : Becomes c d :=
      List.rel_of_pairwise_cons (List.isChain_iff_pairwise.mp hchain) deed.operation.mem_moments
    exact hearly.trans hlate

/-- **The detail mirrors the row.**  Take a board that has been reached on pages that list each run
once.  If the detail is opened for a run, then it shows the row of the run, in every field, as long
as the run stays on the page and is not deleted, and the detail is neither closed nor opened for
another run.  With or without a row, the run that the detail shows is replaced by nothing but
records of the same run that it accepts, also while patches are taken in together, and its status
never regresses.  Opening and closing the detail asks and tells nothing, and changes nothing but the
detail. -/
theorem detail_mirrors_row {query : Query} {earlier : List Deed} {b : Board}
    (reached : History (.new query) earlier b) :
    (∀ (id : RunId) (deeds : List Deed) (b' : Board), (b.openDetail id).2 = true →
      HistoryWhere (Deed.KeepsShowing id) (b.openDetail id).1 deeds b' →
      DistinctPages (logOf (earlier ++ deeds)) →
      ∃ run, b'.detail = some run ∧ b'.row? id = some run) ∧
    (∀ (run : Run) (deed : Deed) (b' : Board), b.detail = some run →
      (b.perform deed.operation).Course deed.log b' → deed.LeavesDetail b b' →
      DistinctPages deed.log → (b :: deed.operation.moments b b').IsChain GoesOn) ∧
    (∀ (run : Run) (deeds : List Deed) (b' : Board), b.detail = some run →
      HistoryWhere Deed.LeavesDetail b deeds b' → DistinctPages (logOf deeds) →
      ∃ run', b'.detail = some run' ∧ run'.id = run.id ∧
        run.status.canBecome run'.status = true ∧
        (run.isTerminal = true → run'.status = run.status)) ∧
    (∀ (op : Operation) (log : BoardLog) (b' : Board), op.meansDetail = true →
      (b.perform op).Course log b' → log = [] ∧ b' = { b with detail := b'.detail }) := by
  refine ⟨?_, ?_, ?_, fun op log b' hop course => course_of_meansDetail hop course⟩
  · intro id deeds b' opened stretch pages
    have hopen : History (.new query) (earlier ++ [⟨.command (.openDetail id), []⟩])
        (b.openDetail id).1 := .next reached (course_openDetail_iff.mpr ⟨rfl, rfl⟩)
    have hlog : logOf (earlier ++ [⟨.command (.openDetail id), []⟩] ++ deeds) =
        logOf (earlier ++ deeds) := by
      simp [logOf]
    exact (mirrors_openDetail opened).of_history hopen stretch (hlog ▸ pages)
  · intro run deed b' hdetail course leaves pages
    exact isChain_goesOn_of_course hdetail course leaves pages
  · intro run deeds b' hdetail stretch pages
    obtain ⟨mid, run', hmid, hdetail', hid, hbecomes⟩ := becomes_of_history hdetail stretch pages
    obtain rfl : run = mid := Option.some.inj (hdetail.symm.trans hmid)
    exact ⟨run', hdetail', hid, hbecomes,
      fun hended => Status.canBecome_of_isTerminal hended hbecomes⟩

/-- A run is loaded together with related records. -/
def relatedLoad : Deed × Board :=
  let related : Run :=
    { Run.stamped "a" .pending 1 with expansion := some ⟨some ⟨"wf", "Build"⟩⟩ }
  (Board.new (.of none 1 10 false)).act (.command .refresh)
    (answerWith ⟨[related, .bare "b" .succeeded], 2⟩ "b")

/-- It is opened, and a record without them is taken in. -/
def unrelatedPatch : Deed × Board :=
  (relatedLoad.2.openDetail "a").1.act (.apply ⟨.update, .stamped "a" .processing 3⟩)
    (answerWith ⟨[], 0⟩ "b")

/-- An older record of it is fetched. -/
def olderLoad : Deed × Board :=
  unrelatedPatch.2.act (.command .refresh)
    (answerWith ⟨[.bare "b" .succeeded, .stamped "a" .pending 2], 2⟩ "b")

/-- A page without it is fetched. -/
def absentLoad : Deed × Board :=
  olderLoad.2.act (.command (.setPage 2 1)) (answerWith ⟨[.bare "b" .succeeded], 2⟩ "b")

theorem detail_mirrors_row_of_loads :
    ∃ run, olderLoad.2.detail = some run ∧ olderLoad.2.row? "a" = some run ∧
      run.workflowName? = some "Build" ∧ run.updated = some ⟨3, 0⟩ ∧
      absentLoad.2.row? "a" = none ∧ [olderLoad.2, absentLoad.2].IsChain GoesOn ∧
      (∃ run', absentLoad.2.detail = some run' ∧ run'.id = run.id ∧
        run.status.canBecome run'.status = true) ∧
      olderLoad.2.closeDetail.1 = { olderLoad.2 with detail := none } := by
  have distinct : ∀ {page : Page}, (page.items.map (·.id.text)).Nodup → Distinct page.items := by
    intro page hnodup
    refine List.Nodup.of_map RunId.text ?_
    rwa [List.map_map]
  have reached : History (.new (.of none 1 10 false)) [relatedLoad.1] relatedLoad.2 :=
    .next .start (course_act _ _ _)
  have stretch : HistoryWhere (Deed.KeepsShowing "a") (relatedLoad.2.openDetail "a").1
      [unrelatedPatch.1, olderLoad.1] olderLoad.2 := by
    refine .next (.next .start (course_act _ _ _) ?_) (course_act _ _ _) ?_
    · refine ⟨⟨fun ids arrived hmem => ?_, by decide⟩, .inl (.of_not_meansDetail rfl)⟩
      exact absurd (show _ ∈ ([] : BoardLog) from hmem) List.not_mem_nil
    · refine ⟨⟨fun ids arrived hmem => ?_, by decide⟩, .inl (.of_not_meansDetail rfl)⟩
      obtain ⟨q, answer, hlog⟩ : ∃ q answer, olderLoad.1.log = [.asked (.list q) answer] :=
        ⟨_, _, rfl⟩
      rw [hlog, List.mem_singleton] at hmem
      cases hmem
  have pages : DistinctPages (logOf ([relatedLoad.1] ++ [unrelatedPatch.1, olderLoad.1])) := by
    simp only [logOf, List.flatMap_append, List.flatMap_cons, List.flatMap_nil, List.append_nil]
    refine DistinctPages.append_iff.mpr ⟨?_, DistinctPages.append_iff.mpr ⟨?_, ?_⟩⟩
    · exact distinctPages_act (distinct (by decide)) _ _ _
    · exact distinctPages_act (distinct (by decide)) _ _ _
    · exact distinctPages_act (distinct (by decide)) _ _ _
  have last : DistinctPages absentLoad.1.log := distinctPages_act (distinct (by decide)) _ _ _
  obtain ⟨run, hdetail, hrow⟩ := (detail_mirrors_row reached).1 "a" _ _ (by decide) stretch pages
  have hopened : History (.new (.of none 1 10 false))
      ([relatedLoad.1] ++ [⟨.command (.openDetail "a"), []⟩]) (relatedLoad.2.openDetail "a").1 :=
    .next reached (course_openDetail_iff.mpr ⟨rfl, rfl⟩)
  obtain ⟨-, hgoes, hbecomes, hrest⟩ := detail_mirrors_row (stretch.history hopened)
  have leaves : absentLoad.1.LeavesDetail olderLoad.2 absentLoad.2 := .of_not_meansDetail rfl
  have hchain := hgoes run absentLoad.1 absentLoad.2 hdetail (course_act _ _ _) leaves last
  obtain ⟨run', hdetail', hid, hstatus, -⟩ := hbecomes run [absentLoad.1] absentLoad.2 hdetail
    (.next .start (course_act _ _ _) leaves) (by simpa [logOf] using last)
  have hclosed := (hrest (.command .closeDetail) [] olderLoad.2.closeDetail.1 rfl
    (course_closeDetail_iff.mpr ⟨rfl, rfl⟩)).2
  have hrun : run.workflowName? = some "Build" ∧ run.updated = some ⟨3, 0⟩ := by
    obtain rfl := Option.some.inj (hrow.symm.trans (rfl : olderLoad.2.row? "a" = some _))
    exact ⟨rfl, rfl⟩
  exact ⟨run, hdetail, hrow, hrun.1, hrun.2, rfl, hchain, ⟨run', hdetail', hid, hstatus⟩, hclosed⟩

end RunBoard.Board
