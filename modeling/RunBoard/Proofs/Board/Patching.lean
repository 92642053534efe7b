import RunBoard.Proofs.Board.Mirroring

/-!
# Patches repeat and pass each other without harm

What a patch comes to is settled by its own run: whether the run is subscribed, and its row.
`Board.effectOf` reads the effect off a board, and `Board.enact` carries it out on each part of the
board.  Neither looks at another run, so patches of two runs can be taken in in either order.  A
patch that comes once more finds its run released, or its own record in the row.
-/

namespace RunBoard

/-! ### The parts of a board under two patches -/

namespace Subscriptions

variable {rows : List Run} {id j : RunId} {r r' : Run}

lemma erase_comm (s : Subscriptions) (id j : RunId) :
    (s.erase id).erase j = (s.erase j).erase id := by
  have hids : (s.ids.filter (· ≠ id)).filter (· ≠ j) = (s.ids.filter (· ≠ j)).filter (· ≠ id) := by
    rw [List.filter_filter, List.filter_filter]
    exact List.filter_congr fun k _ => Bool.and_comm _ _
  simpa [erase] using hids

lemma removeRow_comm (rows : List Run) (hne : id ≠ j) :
    removeRow (removeRow rows id) j = removeRow (removeRow rows j) id := by
  induction rows with
  | nil => rfl
  | cons a rows ih =>
    by_cases hid : a.id = id
    · have hj : a.id ≠ j := fun h => hne (hid.symm.trans h)
      rw [removeRow_cons_self hid, removeRow_cons_of_ne hj, removeRow_cons_self hid]
    · rw [removeRow_cons_of_ne hid]
      by_cases hj : a.id = j
      · rw [removeRow_cons_self hj, removeRow_cons_self hj]
      · rw [removeRow_cons_of_ne hj, removeRow_cons_of_ne hj, removeRow_cons_of_ne hid, ih]

lemma removeRow_replaceRow (rows : List Run) (hne : r.id ≠ id) :
    removeRow (replaceRow rows r) id = replaceRow (removeRow rows id) r := by
  induction rows with
  | nil => rfl
  | cons a rows ih =>
    by_cases hr : a.id = r.id
    · have hid : a.id ≠ id := fun h => hne (hr.symm.trans h)
      rw [replaceRow_cons_self hr, removeRow_cons_of_ne hne, removeRow_cons_of_ne hid,
        replaceRow_cons_self hr]
    · rw [replaceRow_cons_of_ne hr]
      by_cases hid : a.id = id
      · rw [removeRow_cons_self hid, removeRow_cons_self hid]
      · rw [removeRow_cons_of_ne hid, removeRow_cons_of_ne hid, replaceRow_cons_of_ne hr, ih]

lemma replaceRow_comm (rows : List Run) (hne : r.id ≠ r'.id) :
    replaceRow (replaceRow rows r) r' = replaceRow (replaceRow rows r') r := by
  induction rows with
  | nil => rfl
  | cons a rows ih =>
    by_cases hr : a.id = r.id
    · have hr' : a.id ≠ r'.id := fun h => hne (hr.symm.trans h)
      rw [replaceRow_cons_self hr, replaceRow_cons_of_ne hne, replaceRow_cons_of_ne hr',
        replaceRow_cons_self hr]
    · rw [replaceRow_cons_of_ne hr]
      by_cases hr' : a.id = r'.id
      · rw [replaceRow_cons_self hr', replaceRow_cons_self hr', replaceRow_cons_of_ne hne.symm]
      · rw [replaceRow_cons_of_ne hr', replaceRow_cons_of_ne hr', replaceRow_cons_of_ne hr, ih]

lemma replaceRow_replaceRow (rows : List Run) (r : Run) :
    replaceRow (replaceRow rows r) r = replaceRow rows r := by
  induction rows with
  | nil => rfl
  | cons a rows ih =>
    by_cases hr : a.id = r.id
    · rw [replaceRow_cons_self hr, replaceRow_cons_self rfl]
    · rw [replaceRow_cons_of_ne hr, replaceRow_cons_of_ne hr, ih]

end Subscriptions

namespace Detail

variable {d : Detail} {r r' : Run}

lemma merge_merge (d : Detail) (r : Run) : (d.merge r).merge r = d.merge r := by
  by_cases htakes : d.takes r = true
  · have hself : Detail.takes (some r) r = true := by
      simp [takes, (Run.Agrees.refl r).accepts]
    have hmerge : d.merge r = some r := if_pos htakes
    rw [hmerge]
    exact if_pos hself
  · have hmerge : d.merge r = d := if_neg htakes
    rw [hmerge, hmerge]

/-- The detail shows one run only, and so at most one of two records of different runs. -/
lemma merge_comm (d : Detail) (hne : r.id ≠ r'.id) :
    (d.merge r).merge r' = (d.merge r').merge r := by
  cases d with
  | none => rfl
  | some shown =>
    by_cases hr : r.id = shown.id
    · have hr' : r'.id ≠ shown.id := fun h => hne (hr.trans h.symm)
      rw [Board.merge_of_ne hr', Board.merge_of_id hr]
      split
      · exact Board.merge_of_ne hne.symm
      · exact Board.merge_of_ne hr'
    · rw [Board.merge_of_ne hr]
      by_cases hr' : r'.id = shown.id
      · rw [Board.merge_of_id hr']
        split
        · exact (Board.merge_of_ne hne).symm
        · exact (Board.merge_of_ne hr).symm
      · rw [Board.merge_of_ne hr', Board.merge_of_ne hr]

end Detail

namespace Run

/-- The related records are kept once and for all. -/
lemma keepExpansion_keepExpansion (r old : Run) :
    r.keepExpansion (r.keepExpansion old) = r.keepExpansion old := by
  by_cases hsome : r.expansion.isSome = true
  · simp [keepExpansion, hsome]
  · simp [keepExpansion, hsome]

end Run

namespace Board

open Subscriptions

variable {b : Board} {id j : RunId} {patch : Patch}

/-! ### The effect of a patch -/

/-- What a patch comes to for its run. -/
inductive Effect where
  | nothing
  /-- The run is released. -/
  | released
  /-- The run is released, and its row goes. -/
  | removed
  /-- The row is replaced by a record, and the run is released if it has ended. -/
  | replaced (record : Run)

namespace Effect

variable {e e' : Effect}

/-- Whether the run is released. -/
def releases : Effect → Bool
  | nothing => false
  | released | removed => true
  | replaced record => record.isTerminal

/-- Whether the row goes. -/
def removes : Effect → Bool
  | removed => true
  | nothing | released | replaced _ => false

/-- The subscriptions after an effect on a run. -/
def live (e : Effect) (id : RunId) (s : Subscriptions) : Subscriptions :=
  if e.releases then s.erase id else s

/-- The rows after an effect on a run. -/
def rows (e : Effect) (id : RunId) (rows : List Run) : List Run :=
  match e with
  | removed => removeRow rows id
  | replaced record => replaceRow rows record
  | nothing | released => rows

/-- The detail after an effect. -/
def detail (e : Effect) (d : Detail) : Detail :=
  match e with
  | replaced record => d.merge record
  | nothing | released | removed => d

/-- The selection after an effect on a run. -/
def selected (e : Effect) (id : RunId) (ids : List RunId) : List RunId :=
  if e.removes then ids.filter (· ≠ id) else ids

/-- The number of runs on all pages after an effect. -/
def total (e : Effect) (count : Nat) : Nat :=
  if e.removes then count - 1 else count

/-- An effect is on a run if its record is one of the run. -/
def IsOn (e : Effect) (id : RunId) : Prop :=
  ∀ record, e = replaced record → record.id = id

lemma live_of_releases (h : e.releases = true) (s : Subscriptions) : e.live id s = s.erase id :=
  if_pos h

lemma live_of_not_releases (h : e.releases = false) (s : Subscriptions) : e.live id s = s :=
  if_neg (by simp [h])

/-! Effects on two runs can be carried out in either order, on each part of a board. -/

lemma live_comm (id j : RunId) (e e' : Effect) (s : Subscriptions) :
    e'.live j (e.live id s) = e.live id (e'.live j s) := by
  unfold live
  by_cases h : e.releases = true
  · by_cases h' : e'.releases = true
    · rw [if_pos h, if_pos h', if_pos h, if_pos h', erase_comm]
    · rw [if_neg h', if_neg h']
  · rw [if_neg h, if_neg h]

lemma rows_comm (hne : id ≠ j) (he : e.IsOn id) (he' : e'.IsOn j) (rows : List Run) :
    e'.rows j (e.rows id rows) = e.rows id (e'.rows j rows) := by
  cases e with
  | nothing | released => rfl
  | removed =>
    cases e' with
    | nothing | released => rfl
    | removed => exact removeRow_comm rows hne
    | replaced r' =>
      have hr' : r'.id ≠ id := he' r' rfl ▸ hne.symm
      exact (removeRow_replaceRow rows hr').symm
  | replaced r =>
    have hr : r.id = id := he r rfl
    cases e' with
    | nothing | released => rfl
    | removed => exact removeRow_replaceRow rows (hr ▸ hne)
    | replaced r' =>
      have hr' : r'.id = j := he' r' rfl
      exact replaceRow_comm rows (hr ▸ hr' ▸ hne)

lemma detail_comm (hne : id ≠ j) (he : e.IsOn id) (he' : e'.IsOn j) (d : Detail) :
    e'.detail (e.detail d) = e.detail (e'.detail d) := by
  cases e with
  | nothing | released | removed => rfl
  | replaced r =>
    cases e' with
    | nothing | released | removed => rfl
    | replaced r' =>
      have hr : r.id = id := he r rfl
      have hr' : r'.id = j := he' r' rfl
      exact Detail.merge_comm d (hr ▸ hr' ▸ hne)

lemma selected_comm (id j : RunId) (e e' : Effect) (ids : List RunId) :
    e'.selected j (e.selected id ids) = e.selected id (e'.selected j ids) := by
  unfold selected
  by_cases h : e.removes = true
  · by_cases h' : e'.removes = true
    · rw [if_pos h, if_pos h', if_pos h, if_pos h', List.filter_filter, List.filter_filter]
      exact List.filter_congr fun k _ => Bool.and_comm _ _
    · rw [if_neg h', if_neg h']
  · rw [if_neg h, if_neg h]

lemma total_comm (e e' : Effect) (count : Nat) :
    e'.total (e.total count) = e.total (e'.total count) := by
  unfold total
  split <;> split <;> rfl

end Effect

/-- The board after an effect on a run. -/
def enact (b : Board) (id : RunId) (e : Effect) : Board :=
  { b with
    live := e.live id b.live
    rows := e.rows id b.rows
    detail := e.detail b.detail
    total := e.total b.total
    selected := e.selected id b.selected }

/-- The effect of a patch on a board. -/
def effectOf (b : Board) (patch : Patch) : Effect :=
  if patch.record.id ∈ b.live then
    match b.row? patch.record.id with
    | none => .released
    | some row =>
      if patch.action = .delete then .removed
      else if row.accepts patch.record then .replaced (patch.record.keepExpansion row)
      else .nothing
  else .nothing

lemma isOn_effectOf (b : Board) (patch : Patch) : (b.effectOf patch).IsOn patch.record.id := by
  intro record heq
  unfold effectOf at heq
  split at heq
  · split at heq
    · cases heq
    · split at heq
      · cases heq
      · split at heq
        · obtain rfl := Effect.replaced.inj heq
          exact Run.keepExpansion_id _ _
        · cases heq
  · cases heq

/-- A row is replaced by a record that it accepts, with its related records kept. -/
lemma effectOf_eq_replaced {record : Run} (h : b.effectOf patch = .replaced record) :
    patch.record.id ∈ b.live ∧ patch.action ≠ .delete ∧
      ∃ row, b.row? patch.record.id = some row ∧ record = patch.record.keepExpansion row := by
  unfold effectOf at h
  split at h
  · rename_i hlive
    split at h
    · cases h
    · rename_i row hrow
      split at h
      · cases h
      · rename_i hkeep
        split at h
        · exact ⟨hlive, hkeep, row, hrow, (Effect.replaced.inj h).symm⟩
        · cases h
  · cases h

/-- Taking in a patch is carrying out its effect. -/
lemma patched_eq_enact (b : Board) (patch : Patch) :
    b.patched patch = b.enact patch.record.id (b.effectOf patch) ∧
      (b.live.merge patch b.rows b.detail).outcome.releases = (b.effectOf patch).releases := by
  have hmerges := merges_merge b.live patch b.rows b.detail
  unfold patched
  generalize b.live.merge patch b.rows b.detail = merged at hmerges ⊢
  cases hmerges with
  | notSubscribed hlive =>
    have heffect : b.effectOf patch = .nothing := if_neg hlive
    rw [heffect]
    exact ⟨rfl, rfl⟩
  | notOnPage hlive hrow =>
    have hnone : b.row? patch.record.id = none := rowOf?_eq_none_iff.mpr hrow
    have heffect : b.effectOf patch = .released := by simp [effectOf, hlive, hnone]
    rw [heffect]
    exact ⟨rfl, rfl⟩
  | @removed row hlive hrow hdelete =>
    have hsome : b.row? patch.record.id = some row := hrow
    have heffect : b.effectOf patch = .removed := by simp [effectOf, hlive, hsome, hdelete]
    rw [heffect]
    exact ⟨rfl, rfl⟩
  | @applied row hlive hrow hkeep haccepts =>
    have hsome : b.row? patch.record.id = some row := hrow
    have heffect : b.effectOf patch = .replaced (patch.record.keepExpansion row) := by
      simp [effectOf, hlive, hsome, hkeep, haccepts]
    rw [heffect]
    exact ⟨rfl, rfl⟩
  | @stale row hlive hrow hkeep haccepts =>
    have hsome : b.row? patch.record.id = some row := hrow
    have heffect : b.effectOf patch = .nothing := by
      simp [effectOf, hlive, hsome, hkeep, haccepts]
    rw [heffect]
    exact ⟨rfl, rfl⟩

/-- What comes of taking in a patch, whatever the backend would answer. -/
lemma play_applyPatch (b : Board) (patch : Patch) (answer : (c : Call) → Call.Answer c) :
    ((b.applyPatch patch).play answer).1 =
        (if (b.effectOf patch).releases then releasing [patch.record.id] else []) ∧
      ((b.applyPatch patch).play answer).2.1 = b.enact patch.record.id (b.effectOf patch) := by
  obtain ⟨hlog, hboard, -⟩ :=
    course_applyPatch_iff.mp (Task.course_play answer (b.applyPatch patch))
  obtain ⟨henact, hreleases⟩ := b.patched_eq_enact patch
  exact ⟨hreleases ▸ hlog, hboard.trans henact⟩

/-! ### Two patches -/

/-- An effect on a run changes nothing that the effect of a patch of another run depends on. -/
lemma effectOf_enact {e : Effect} (hne : id ≠ patch.record.id) (he : e.IsOn id) :
    (b.enact id e).effectOf patch = b.effectOf patch := by
  have hlive : patch.record.id ∈ (b.enact id e).live ↔ patch.record.id ∈ b.live := by
    show patch.record.id ∈ e.live id b.live ↔ _
    unfold Effect.live
    split
    · rw [mem_erase]
      exact and_iff_left hne.symm
    · rfl
  have hrow : (b.enact id e).row? patch.record.id = b.row? patch.record.id := by
    show rowOf? (e.rows id b.rows) patch.record.id = rowOf? b.rows patch.record.id
    cases e with
    | nothing | released => rfl
    | removed => exact rowOf?_removeRow hne.symm
    | replaced record =>
      have hrecord : record.id = id := he record rfl
      exact (rowOf?_replaceRow _ _ _).trans (if_neg (hrecord ▸ hne.symm))
  unfold effectOf
  rw [hrow]
  by_cases h : patch.record.id ∈ b.live
  · rw [if_pos h, if_pos (hlive.mpr h)]
  · rw [if_neg h, if_neg (mt hlive.mp h)]

lemma enact_comm {e e' : Effect} (b : Board) (hne : id ≠ j) (he : e.IsOn id) (he' : e'.IsOn j) :
    (b.enact id e).enact j e' = (b.enact j e').enact id e := by
  have hlive := Effect.live_comm id j e e' b.live
  have hrows := Effect.rows_comm hne he he' b.rows
  have hdetail := Effect.detail_comm hne he he' b.detail
  have hselected := Effect.selected_comm id j e e' b.selected
  have htotal := Effect.total_comm e e' b.total
  simp only [enact, hlive, hrows, hdetail, hselected, htotal]

lemma enact_replaced_twice {record : Run} (b : Board)
    (hkept : (Effect.replaced record).releases = false) :
    (b.enact id (.replaced record)).enact id (.replaced record) =
      b.enact id (.replaced record) := by
  have hlive : ∀ s, (Effect.replaced record).live id s = s := Effect.live_of_not_releases hkept
  have hrows := replaceRow_replaceRow b.rows record
  have hdetail := Detail.merge_merge b.detail record
  simp [enact, hlive, Effect.rows, Effect.detail, Effect.selected, Effect.total, Effect.removes,
    hrows, hdetail]

/-- A patch that comes once more releases nothing, and changes nothing. -/
lemma effectOf_again (b : Board) (patch : Patch) :
    let once := b.enact patch.record.id (b.effectOf patch)
    (once.effectOf patch).releases = false ∧
      once.enact patch.record.id (once.effectOf patch) = once := by
  intro once
  have hnothing : once.effectOf patch = .nothing →
      (once.effectOf patch).releases = false ∧
        once.enact patch.record.id (once.effectOf patch) = once := by
    intro h
    rw [h]
    exact ⟨rfl, rfl⟩
  by_cases hreleases : (b.effectOf patch).releases = true
  · have hgone : patch.record.id ∉ once.live := by
      show patch.record.id ∉ (b.effectOf patch).live patch.record.id b.live
      rw [Effect.live_of_releases hreleases, mem_erase]
      exact fun h => h.2 rfl
    exact hnothing (if_neg hgone)
  · cases heffect : b.effectOf patch with
    | nothing =>
      have honce : once = b := by
        show b.enact _ (b.effectOf patch) = b
        rw [heffect]
        rfl
      exact hnothing (honce ▸ heffect)
    | released | removed =>
      rw [heffect] at hreleases
      exact absurd rfl hreleases
    | replaced record =>
      obtain ⟨hlive, hkeep, row, hrow, rfl⟩ := effectOf_eq_replaced heffect
      have honce : once = b.enact patch.record.id (.replaced (patch.record.keepExpansion row)) := by
        show b.enact patch.record.id (b.effectOf patch) = _
        rw [heffect]
      have hkept : (Effect.replaced (patch.record.keepExpansion row)).releases = false := by
        simpa [heffect] using hreleases
      have hsame : once.live = b.live := by
        rw [honce]
        exact Effect.live_of_not_releases hkept b.live
      have hlive' : patch.record.id ∈ once.live := hsame ▸ hlive
      have hrow' : once.row? patch.record.id = some (patch.record.keepExpansion row) := by
        have hreplace := rowOf?_replaceRow b.rows (patch.record.keepExpansion row) patch.record.id
        rw [if_pos (Run.keepExpansion_id _ _).symm] at hreplace
        rw [honce]
        refine hreplace.trans ?_
        rw [show rowOf? b.rows patch.record.id = some row from hrow]
        rfl
      -- the row is the record of the patch now, which accepts the patch and stays as it is
      have haccepts : (patch.record.keepExpansion row).accepts patch.record = true :=
        (Run.agrees_keepExpansion patch.record row).accepts
      have hagain : once.effectOf patch = .replaced (patch.record.keepExpansion row) := by
        simp [effectOf, hlive', hrow', hkeep, haccepts, Run.keepExpansion_keepExpansion]
      rw [hagain]
      exact ⟨hkept, honce ▸ enact_replaced_twice b hkept⟩

/-! ### The theorem -/

/-- A patch that comes twice in a row comes to nothing the second time. -/
lemma play_applyPatch_again (b : Board) (patch : Patch) (answer : (c : Call) → Call.Answer c) :
    let once := ((b.applyPatch patch).play answer).2.1
    ((once.applyPatch patch).play answer).1 = [] ∧
      ((once.applyPatch patch).play answer).2.1 = once := by
  intro once
  have honce : once = b.enact patch.record.id (b.effectOf patch) :=
    (b.play_applyPatch patch answer).2
  obtain ⟨hlog, hboard⟩ := once.play_applyPatch patch answer
  obtain ⟨hnone, hsame⟩ := b.effectOf_again patch
  rw [← honce] at hnone hsame
  rw [hnone] at hlog
  exact ⟨hlog, hboard.trans hsame⟩

/-- The second of two patches of different runs comes to what it would have come to alone. -/
lemma play_applyPatch_after {p q : Patch} (b : Board) (hne : p.record.id ≠ q.record.id)
    (answer : (c : Call) → Call.Answer c) :
    let first := (b.applyPatch p).play answer
    ((first.2.1.applyPatch q).play answer).1 = ((b.applyPatch q).play answer).1 ∧
      ((first.2.1.applyPatch q).play answer).2.1 =
        (b.enact p.record.id (b.effectOf p)).enact q.record.id (b.effectOf q) := by
  intro first
  have hfirst : first.2.1 = b.enact p.record.id (b.effectOf p) := (b.play_applyPatch p answer).2
  obtain ⟨hlog, hboard⟩ := first.2.1.play_applyPatch q answer
  have hsame : first.2.1.effectOf q = b.effectOf q :=
    hfirst ▸ effectOf_enact hne (b.isOn_effectOf p)
  rw [hsame] at hlog hboard
  exact ⟨hlog.trans (b.play_applyPatch q answer).1.symm, hfirst ▸ hboard⟩

/-- A patch that comes twice in a row leaves the board as it left it the first time, and gives
nothing back.  Patches of two runs can come in either order: the board is the same in the end, and
the same subscriptions are given back. -/
theorem patches_repeat_and_commute (b : Board) (answer : (c : Call) → Call.Answer c) :
    (∀ patch : Patch,
      let once := ((b.applyPatch patch).play answer).2.1
      ((once.applyPatch patch).play answer).1 = [] ∧
        ((once.applyPatch patch).play answer).2.1 = once) ∧
      ∀ p q : Patch, p.record.id ≠ q.record.id →
        let first := (b.applyPatch p).play answer
        let second := (first.2.1.applyPatch q).play answer
        let first' := (b.applyPatch q).play answer
        let second' := (first'.2.1.applyPatch p).play answer
        second.2.1 = second'.2.1 ∧ (first.1 ++ second.1).Perm (first'.1 ++ second'.1) := by
  refine ⟨fun patch => b.play_applyPatch_again patch answer, fun p q hne => ?_⟩
  intro first second first' second'
  obtain ⟨hlog, hboard⟩ := b.play_applyPatch_after hne answer
  obtain ⟨hlog', hboard'⟩ := b.play_applyPatch_after hne.symm answer
  constructor
  · calc second.2.1
        = (b.enact p.record.id (b.effectOf p)).enact q.record.id (b.effectOf q) := hboard
      _ = (b.enact q.record.id (b.effectOf q)).enact p.record.id (b.effectOf p) :=
          b.enact_comm hne (b.isOn_effectOf p) (b.isOn_effectOf q)
      _ = second'.2.1 := hboard'.symm
  · -- either order gives back what each of the patches gives back by itself
    rw [show second.1 = first'.1 from hlog, show second'.1 = first.1 from hlog']
    exact List.perm_append_comm

/-- A board with two runs in flight, one of which is shown in full. -/
def pairBoard : Board :=
  (((Board.new (.of none 1 10 false)).act (.command .refresh)
    (answerWith ⟨[.stamped "a" .pending 1, .stamped "b" .processing 1], 2⟩ "none")).2.openDetail
      "a").1

/-- One of the runs ends while the other one is deleted. -/
theorem patches_repeat_and_commute_of_pair :
    let ended : Patch := ⟨.update, .stamped "a" .succeeded 2⟩
    let deleted : Patch := ⟨.delete, .bare "b" .processing⟩
    let answer := answerWith ⟨[], 0⟩ "none"
    let afterEnded := (pairBoard.applyPatch ended).play answer
    let afterDeleted := (pairBoard.applyPatch deleted).play answer
    let both := (afterEnded.2.1.applyPatch deleted).play answer
    both.2.1 = ((afterDeleted.2.1.applyPatch ended).play answer).2.1 ∧
      both.2.1.live.ids = [] ∧ both.2.1.total = 1 ∧
      both.2.1.rows.map (·.status) = [.succeeded] ∧
      both.2.1.detail.map (·.status) = some .succeeded ∧
      afterEnded.1.length = 1 ∧ ((afterEnded.2.1.applyPatch ended).play answer).1 = [] := by
  intro ended deleted answer afterEnded afterDeleted both
  obtain ⟨hagain, hcomm⟩ := patches_repeat_and_commute pairBoard answer
  exact ⟨(hcomm ended deleted (by decide)).1, rfl, rfl, rfl, rfl, rfl, (hagain ended).1⟩

end Board

end RunBoard
