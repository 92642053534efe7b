import RunBoard.Proofs.Board.Paging
import RunBoard.Proofs.Board.Progress

/-!
# A patch touches its run alone

A patch replaces or removes the first row of its run and leaves the rows before and after it as they
are (`FirstRow`), and of all subscriptions it can only end that of its run.  `Touched` says what has
become of the rows and of the detail, given the outcome.

A record that brings no related records takes over those of the row in whose place it comes.  So as
long as no page is fetched, patches that bring none take rows away at most, and the rows that are
left keep their related records (`Sheds`).  Neither needs the page to list each run once.
-/

namespace RunBoard

namespace Run

/-- Where a record has no related records, those of the other one are kept. -/
lemma keepExpansion_eq (r old : Run) :
    r.keepExpansion old = { r with expansion := r.expansion.or old.expansion } := by
  cases r with
  | mk id workflow status trigger startedAt endedAt graph error created updated expansion =>
    cases expansion <;> rfl

/-- The run of a row, and the related records that came with it. -/
def related (r : Run) : RunId × Option Expansion :=
  (r.id, r.expansion)

end Run

namespace Detail

/-- The run that is shown is replaced by a record of it that it accepts. -/
lemma merge_eq_map (d : Detail) (r : Run) :
    d.merge r =
      d.map fun shown => if shown.id = r.id ∧ shown.accepts r = true then r else shown := by
  cases d with
  | none => rfl
  | some shown =>
    rw [Option.map_some]
    by_cases htakes : shown.id = r.id ∧ shown.accepts r = true
    · rw [if_pos htakes]
      exact if_pos (by simpa [takes] using htakes)
    · rw [if_neg htakes]
      exact if_neg (by simpa [takes] using htakes)

end Detail

namespace Subscriptions

variable {rows before after rest : List Run} {id : RunId} {row record : Run}

/-! ### The first row of a run -/

/-- The first row of a run, with the rows before and after it. -/
structure FirstRow (id : RunId) (rows before : List Run) (row : Run) (after : List Run) :
    Prop where
  rows_eq : rows = before ++ row :: after
  row_id : row.id = id
  first : ∀ r ∈ before, r.id ≠ id

lemma exists_firstRow (h : rowOf? rows id = some row) :
    ∃ before after, FirstRow id rows before row after := by
  obtain ⟨hid, before, after, hrows, hfirst⟩ := List.find?_eq_some_iff_append.mp h
  exact ⟨before, after, hrows, by simpa using hid, by simpa using hfirst⟩

/-- Rows of other runs are passed over. -/
lemma removeRow_append (hbefore : ∀ r ∈ before, r.id ≠ id) (rest : List Run) :
    removeRow (before ++ rest) id = before ++ removeRow rest id :=
  List.eraseP_append_right rest (by simpa using hbefore)

lemma replaceRow_append (hbefore : ∀ r ∈ before, r.id ≠ record.id) (rest : List Run) :
    replaceRow (before ++ rest) record = before ++ replaceRow rest record := by
  induction before with
  | nil => rfl
  | cons a before ih =>
    obtain ⟨ha, hothers⟩ := List.forall_mem_cons.mp hbefore
    rw [List.cons_append, replaceRow_cons_of_ne ha, ih hothers, List.cons_append]

namespace FirstRow

lemma removeRow_eq (h : FirstRow id rows before row after) :
    removeRow rows id = before ++ after := by
  rw [h.rows_eq, removeRow_append h.first, removeRow_cons_self h.row_id]

lemma replaceRow_eq (h : FirstRow id rows before row after) (hrecord : record.id = id) :
    replaceRow rows record = before ++ record :: after := by
  have hbefore : ∀ r ∈ before, r.id ≠ record.id := hrecord ▸ h.first
  rw [h.rows_eq, replaceRow_append hbefore, replaceRow_cons_self (h.row_id.trans hrecord.symm)]

lemma length_eq (h : FirstRow id rows before row after) :
    rows.length = (before ++ after).length + 1 := by
  rw [h.rows_eq, List.length_append, List.length_cons, List.length_append, Nat.add_assoc]

end FirstRow

/-! ### What a patch touches -/

/-- What a patch has done to the rows and to the detail, by what became of it. -/
def Touched (patch : Patch) (rows : List Run) (detail : Detail) (merged : Merged) : Prop :=
  match merged.outcome with
  | .ignored _ => merged.rows = rows ∧ merged.detail = detail
  | .removed => ∃ before row after, FirstRow patch.record.id rows before row after ∧
      merged.rows = before ++ after ∧ merged.detail = detail
  | .applied _ => ∃ before row after, FirstRow patch.record.id rows before row after ∧
      let record := { patch.record with expansion := patch.record.expansion.or row.expansion }
      merged.rows = before ++ record :: after ∧
        merged.detail = detail.map fun shown =>
          if shown.id = patch.record.id ∧ shown.accepts patch.record = true then record else shown

lemma touched_merge (s : Subscriptions) (patch : Patch) (rows : List Run) (detail : Detail) :
    Touched patch rows detail (s.merge patch rows detail) := by
  have hmerges := merges_merge s patch rows detail
  generalize s.merge patch rows detail = merged at hmerges
  cases hmerges with
  | notSubscribed | notOnPage | stale => exact ⟨rfl, rfl⟩
  | removed _ hrow _ =>
    obtain ⟨before, after, hfirst⟩ := exists_firstRow hrow
    exact ⟨before, _, after, hfirst, hfirst.removeRow_eq, rfl⟩
  | @applied row _ hrow _ _ =>
    obtain ⟨before, after, hfirst⟩ := exists_firstRow hrow
    have haccepts : ∀ shown : Run,
        shown.accepts (patch.record.keepExpansion row) = shown.accepts patch.record :=
      fun shown => Run.accepts_congr (.refl shown) (Run.agrees_keepExpansion _ _)
    refine ⟨before, row, after, hfirst, ?_, ?_⟩
    · rw [← Run.keepExpansion_eq]
      exact hfirst.replaceRow_eq (Run.keepExpansion_id _ _)
    · rw [← Run.keepExpansion_eq]
      simp only [Detail.merge_eq_map, Run.keepExpansion_id, haccepts]

/-- The rows are one fewer if a row was removed, and otherwise as many as before. -/
lemma Touched.length_eq {patch : Patch} {detail : Detail} {merged : Merged}
    (h : Touched patch rows detail merged) :
    merged.rows.length + (if merged.outcome = .removed then 1 else 0) = rows.length := by
  unfold Touched at h
  split at h
  · rename_i houtcome
    simp [h.1, houtcome]
  · rename_i houtcome
    obtain ⟨before, row, after, hfirst, hrows, -⟩ := h
    rw [if_pos houtcome, hrows, hfirst.length_eq]
  · rename_i houtcome
    obtain ⟨before, row, after, hfirst, hrows, -⟩ := h
    simp [hrows, hfirst.rows_eq, houtcome]

/-- Only the run of the patch is released, if any. -/
lemma mem_apply_of_ne {s s' : Subscriptions} {patch : Patch} {detail : Detail} {merged : Merged}
    {log : BoardLog} {j : RunId} (h : (s.apply patch rows detail).Course log (s', merged))
    (hne : j ≠ patch.record.id) : j ∈ s' ↔ j ∈ s := by
  obtain ⟨-, rfl, -⟩ := course_apply_iff.mp h
  split
  · simp [hne]
  · exact Iff.rfl

end Subscriptions

namespace Board

open Subscriptions

variable {b b' c d : Board} {rows rows' rest before after : List Run} {row record : Run}
  {kept : RunId → Prop} {id : RunId} {log : BoardLog}

/-! ### Rows that are left -/

/-- Some rows may have gone, none of them of a run that is kept, and those that are left show the
same related records as before. -/
structure Sheds (kept : RunId → Prop) (rows rows' : List Run) : Prop where
  sublist : (rows'.map Run.related).Sublist (rows.map Run.related)
  spared : ∀ id, kept id →
    (rows'.filter (·.id = id)).map Run.expansion = (rows.filter (·.id = id)).map Run.expansion

namespace Sheds

/-- The rows of one run, read off the pairs of run and related records. -/
lemma map_expansion_filter (rows : List Run) (id : RunId) :
    (rows.filter (·.id = id)).map Run.expansion =
      ((rows.map Run.related).filter (·.1 = id)).map Prod.snd := by
  rw [List.filter_map, List.map_map]
  rfl

lemma of_related_eq (h : rows'.map Run.related = rows.map Run.related) : Sheds kept rows rows' := by
  refine ⟨h ▸ List.Sublist.refl _, fun id _ => ?_⟩
  rw [map_expansion_filter, map_expansion_filter, h]

lemma trans (h : Sheds kept rows rest) (h' : Sheds kept rest rows') : Sheds kept rows rows' :=
  ⟨h'.sublist.trans h.sublist, fun id hkept => (h'.spared id hkept).trans (h.spared id hkept)⟩

lemma of_removal (h : FirstRow id rows before row after) (hkept : ¬ kept id) :
    Sheds kept rows (before ++ after) := by
  obtain ⟨rfl, rfl, -⟩ := h
  constructor
  · exact ((List.sublist_cons_self row after).append_left before).map Run.related
  · intro j hj
    have hne : row.id ≠ j := fun heq => hkept (heq ▸ hj)
    rw [List.filter_append, List.filter_append, List.filter_cons_of_neg (by simpa using hne)]

lemma of_replacement (h : FirstRow id rows before row after)
    (hrelated : record.related = row.related) : Sheds kept rows (before ++ record :: after) := by
  obtain ⟨rfl, -, -⟩ := h
  refine of_related_eq ?_
  rw [List.map_append, List.map_cons, hrelated, List.map_append, List.map_cons]

lemma of_filter {ids : List RunId} (hkept : ∀ id, kept id → id ∉ ids) :
    Sheds kept rows (rows.filter fun r => r.id ∉ ids) := by
  refine ⟨List.filter_sublist.map _, fun id hid => ?_⟩
  rw [List.filter_filter]
  congr 1
  refine List.filter_congr fun r _ => ?_
  by_cases hr : r.id = id
  · simp [hr, hkept id hid]
  · simp [hr]

/-- What an operation drops is what the backend has just deleted. -/
lemma of_thinned (h : Thinned log rows rest)
    (undeleted : ∀ id, kept id →
      ∀ ids arrived, .asked (.remove ids) ⟨.ok true, arrived⟩ ∈ log → id ∉ ids) :
    Sheds kept rows rest := by
  cases h with
  | none => exact of_related_eq rfl
  | dropped removed => exact of_filter fun id hid => undeleted id hid _ _ removed

end Sheds

/-! ### Patches without related records -/

/-- The runs of the rows that patches remove, taken in one after the other. -/
def removals (b : Board) : List Patch → List RunId
  | [] => []
  | patch :: patches =>
    if (b.live.merge patch b.rows b.detail).outcome = .removed then
      patch.record.id :: (b.patched patch).removals patches
    else (b.patched patch).removals patches

/-- A record without related records has those of the row in whose place it comes. -/
lemma sheds_of_touched {patch : Patch} {detail : Detail} {merged : Merged}
    (h : Touched patch rows detail merged) (plain : patch.record.expansion = none)
    (unremoved : merged.outcome = .removed → ¬ kept patch.record.id) :
    Sheds kept rows merged.rows := by
  unfold Touched at h
  split at h
  · exact .of_related_eq (congrArg (List.map Run.related) h.1)
  · rename_i houtcome
    obtain ⟨before, row, after, hfirst, hrows, -⟩ := h
    rw [hrows]
    exact .of_removal hfirst (unremoved houtcome)
  · obtain ⟨before, row, after, hfirst, hrows, -⟩ := h
    rw [hrows, plain, Option.none_or]
    exact .of_replacement hfirst (congrArg (·, row.expansion) hfirst.row_id.symm)

lemma sheds_patches {patches : List Patch}
    (plain : ∀ patch ∈ patches, patch.record.expansion = none)
    (unremoved : ∀ id, kept id → id ∉ b.removals patches) :
    Sheds kept b.rows (patches.foldl patched b).rows := by
  induction patches generalizing b with
  | nil => exact .of_related_eq rfl
  | cons patch patches ih =>
    obtain ⟨hplain, hrest⟩ := List.forall_mem_cons.mp plain
    have hfirst : Sheds kept b.rows (b.patched patch).rows := by
      refine sheds_of_touched (touched_merge b.live patch b.rows b.detail) hplain
        fun houtcome hkept => unremoved _ hkept ?_
      rw [removals, if_pos houtcome]
      exact List.mem_cons_self
    -- what the other patches remove is among what all of them remove
    refine hfirst.trans (ih hrest fun id hkept hmem => unremoved id hkept ?_)
    unfold removals
    split
    · exact List.mem_cons_of_mem _ hmem
    · exact hmem

/-! ### Stretches without a page -/

/-- The patches that an operation takes in. -/
def Operation.takenIn (op : Operation) (b : Board) : List Patch :=
  match op with
  | .apply patch => [patch]
  | .drain => b.live.inbox
  | _ => []

/-- The runs of the rows that an operation removes as patches tell. -/
def Operation.removals (op : Operation) (b : Board) : List RunId :=
  match op with
  | .apply patch => b.removals [patch]
  | .drain => b.emptied.removals b.live.inbox
  | _ => []

/-- No page is fetched in the course of a deed, and no patch that it takes in brings related
records. -/
structure Deed.StaysOnPage (deed : Deed) (before _after : Board) : Prop where
  unlisted : listed deed.log = []
  plain : ∀ patch ∈ deed.operation.takenIn before, patch.record.expansion = none

/-- A deed does not delete a run, and takes in no patch that removes a row of it. -/
structure Deed.Spares (id : RunId) (deed : Deed) (before : Board) : Prop where
  undeleted : ∀ ids arrived, .asked (.remove ids) ⟨.ok true, arrived⟩ ∈ deed.log → id ∉ ids
  unremoved : id ∉ deed.operation.removals before

/-- If no page is fetched, a command drops the rows of deleted runs at most. -/
lemma thinned_of_handles (h : c.Handles log b') (unlisted : listed log = []) :
    Thinned log c.rows b'.rows := by
  cases h with
  | quiet _ hrows _ => exact hrows ▸ .none
  | loaded loads | turned loads => exact loads.rows_eq_of_unlisted unlisted ▸ .none
  | canceled loads => exact loads.rows_eq_of_unlisted unlisted ▸ .none
  | notCanceled requests | notRemoved requests => exact requests.rows_eq ▸ .none
  | removed _ loads =>
    rw [loads.rows_eq_of_unlisted unlisted]
    exact .dropped List.mem_cons_self

lemma sheds_of_course {deed : Deed} (course : (c.perform deed.operation).Course deed.log d)
    (stays : deed.StaysOnPage c d) (spares : ∀ id, kept id → deed.Spares id c) :
    Sheds kept c.rows d.rows := by
  obtain ⟨op, log⟩ := deed
  cases op with
  | apply patch =>
    obtain ⟨-, rfl⟩ := course_perform_apply_iff.mp course
    have hsheds : Sheds kept c.rows ([patch].foldl patched c).rows :=
      sheds_patches stays.plain fun id hkept => (spares id hkept).unremoved
    exact hsheds
  | drain =>
    -- the patches are taken in by the board whose inbox has been emptied
    obtain ⟨-, rfl⟩ := course_perform_drain course
    exact sheds_patches (b := c.emptied) stays.plain fun id hkept => (spares id hkept).unremoved
  | command command =>
    obtain ⟨outcome, hhandle⟩ := course_perform_command_iff.mp course
    obtain ⟨rest, rfl, hhandles⟩ := course_handle hhandle
    have hunlisted : listed rest = [] := by
      have hlog := stays.unlisted
      rw [listed_append] at hlog
      exact (List.append_eq_nil_iff.mp hlog).2
    have hthinned : Thinned rest c.rows d.rows :=
      Operation.base_rows _ c ▸ thinned_of_handles hhandles hunlisted
    exact .of_thinned hthinned fun id hkept ids arrived hmem =>
      (spares id hkept).undeleted ids arrived (List.mem_append_right _ hmem)
  | receive patches =>
    obtain ⟨-, rfl⟩ := Task.course_done_iff.mp course
    exact .of_related_eq rfl
  | take =>
    obtain ⟨-, _, rfl⟩ := course_perform_take course
    exact .of_related_eq rfl
  | teardown =>
    obtain ⟨-, rfl⟩ := course_perform_teardown_iff.mp course
    exact .of_related_eq rfl

lemma sheds_of_history {R : Deed → Board → Board → Prop} {deeds : List Deed}
    (stretch : HistoryWhere R b deeds b')
    (stays : ∀ {deed c d}, R deed c d → deed.StaysOnPage c d)
    (spares : ∀ {deed c d}, R deed c d → ∀ id, kept id → deed.Spares id c) :
    Sheds kept b.rows b'.rows := by
  induction stretch with
  | start => exact .of_related_eq rfl
  | next _ course holds ih => exact ih.trans (sheds_of_course course (stays holds) (spares holds))

/-! ### The theorem -/

/-- **A patch touches its run alone, and loses no related records.**  Whatever the subscriptions,
the rows and the detail are, taking in a patch tells of nothing but the release of its run, leaves
the subscriptions of all other runs as they are, and changes no row but the first one of its run:
that one is replaced by the record of the patch, which keeps the related records of the row if it
has none, and then the detail shows the record too if it showed the run and accepts the record; or
the row is removed, and only then there are fewer rows, by one; or the rows and the detail stay.  So
over every stretch of a history without a page and with no related records in the patches that are
taken in, the rows that are left show the same runs with the same related records, in the same
order, and all rows of a run are left that is neither deleted nor removed by a patch. -/
theorem patch_touches_only_its_run :
    (∀ (s : Subscriptions) (patch : Patch) (rows : List Run) (detail : Detail)
      (answer : (c : Call) → Call.Answer c),
      let played := (s.apply patch rows detail).play answer
      (∀ m ∈ played.1, m = .told (.unsubscribe patch.record.id)) ∧
      (∀ j, j ≠ patch.record.id → (j ∈ played.2.1 ↔ j ∈ s)) ∧
      Touched patch rows detail played.2.2 ∧
      played.2.2.rows.length + (if played.2.2.outcome = .removed then 1 else 0) = rows.length) ∧
    (∀ (b b' : Board) (deeds : List Deed), HistoryWhere Deed.StaysOnPage b deeds b' →
      (b'.rows.map Run.related).Sublist (b.rows.map Run.related)) ∧
    ∀ (id : RunId) (b b' : Board) (deeds : List Deed),
      HistoryWhere (fun deed c d => deed.StaysOnPage c d ∧ deed.Spares id c) b deeds b' →
      (b'.rows.filter (·.id = id)).map Run.expansion =
        (b.rows.filter (·.id = id)).map Run.expansion := by
  refine ⟨fun s patch rows detail answer => ?_, ?_, ?_⟩
  · intro played
    have course : (s.apply patch rows detail).Course played.1 (played.2.1, played.2.2) :=
      Task.course_play _ _
    obtain ⟨hlog, -, hmerged⟩ := course_apply_iff.mp course
    have htouched : Touched patch rows detail played.2.2 :=
      hmerged ▸ touched_merge s patch rows detail
    refine ⟨fun m hm => ?_, fun j hne => mem_apply_of_ne course hne, htouched,
      htouched.length_eq⟩
    rw [hlog] at hm
    split at hm
    · exact List.mem_singleton.mp hm
    · cases hm
  · intro b b' deeds stretch
    have hsheds : Sheds (fun _ => False) b.rows b'.rows :=
      sheds_of_history stretch (fun holds => holds) fun _ _ hkept => hkept.elim
    exact hsheds.sublist
  · intro id b b' deeds stretch
    have hsheds : Sheds (· = id) b.rows b'.rows :=
      sheds_of_history stretch And.left fun holds _ hkept => hkept ▸ holds.2
    exact hsheds.spared id rfl

/-- A page of two runs in flight is loaded together with their workflows. -/
def expandedPage : Board :=
  let expanded (id : RunId) (workflow : WorkflowSummary) : Run :=
    { Run.bare id .processing with expansion := some ⟨some workflow⟩ }
  ((Board.new (.of none 1 10 false)).act (.command .refresh)
    (answerWith ⟨[expanded "a" ⟨"w", "Build"⟩, expanded "b" ⟨"v", "Test"⟩], 2⟩ "none")).2

/-- Without related records, patches tell that the first run has ended and the other was deleted. -/
def plainPatches : (Deed × Board) × (Deed × Board) :=
  let received := expandedPage.act
    (.receive [⟨.update, .bare "a" .succeeded⟩, ⟨.delete, .bare "b" .processing⟩]) offline
  (received, received.2.act .drain offline)

/-- The row of the second run goes, and that of the first run keeps its workflow. -/
theorem patch_touches_only_its_run_of_expandedPage :
    let patch : Patch := ⟨.update, .bare "a" .succeeded⟩
    let played := (expandedPage.live.apply patch expandedPage.rows none).play offline
    Touched patch expandedPage.rows none played.2.2 ∧
    played.2.2.outcome = .applied true ∧ played.2.2.rows.length = 2 ∧
    (("b" : RunId) ∈ played.2.1 ↔ ("b" : RunId) ∈ expandedPage.live) ∧
    (plainPatches.2.2.rows.map Run.related).Sublist (expandedPage.rows.map Run.related) ∧
    plainPatches.2.2.rows.length = 1 ∧
    (plainPatches.2.2.rows.filter (·.id = ("a" : RunId))).map Run.expansion =
      (expandedPage.rows.filter (·.id = ("a" : RunId))).map Run.expansion := by
  intro patch played
  obtain ⟨hsingle, hsublist, hkeeps⟩ := patch_touches_only_its_run
  obtain ⟨-, hothers, htouched, hlength⟩ :=
    hsingle expandedPage.live patch expandedPage.rows none offline
  have first : plainPatches.1.1.StaysOnPage expandedPage plainPatches.1.2 ∧
      plainPatches.1.1.Spares "a" expandedPage :=
    ⟨⟨rfl, fun _ hpatch => absurd hpatch List.not_mem_nil⟩,
      ⟨fun _ _ hmem => absurd hmem List.not_mem_nil, List.not_mem_nil⟩⟩
  have second : plainPatches.2.1.StaysOnPage plainPatches.1.2 plainPatches.2.2 ∧
      plainPatches.2.1.Spares "a" plainPatches.1.2 := by
    have hlog : plainPatches.2.1.log = releasing ["a", "b"] := rfl
    refine ⟨⟨rfl, by decide⟩, ⟨fun ids arrived hmem => ?_, by decide⟩⟩
    rw [hlog] at hmem
    simp [releasing] at hmem
  have stretch : HistoryWhere (fun deed c d => deed.StaysOnPage c d ∧ deed.Spares "a" c)
      expandedPage [plainPatches.1.1, plainPatches.2.1] plainPatches.2.2 :=
    .next (.next .start (course_act _ _ _) first) (course_act _ _ _) second
  exact ⟨htouched, rfl, hlength, hothers "b" (by decide),
    hsublist _ _ _ (stretch.imp And.left), rfl, hkeeps "a" _ _ _ stretch⟩

end Board

end RunBoard
