import Mathlib.Data.List.Chain
import RunBoard.Proofs.Run.Succession
import RunBoard.Proofs.Board.Following

/-!
# Boards converge whatever the order of delivery

The records of one run reach a board as patches and as entries of fetched pages, in any order and
any number of times.  What the board shows in the end, and whether it follows the run, depends on
the newest of them alone.

A `Chronicle` is the list of the records of a run as they were written.  `Shows` says of a board
that its row of a run agrees with a given record, and that the run is subscribed exactly if the
record is in flight.  A single delivery takes a board that shows one record of a chronicle to one
that shows the later of that record and the delivered one (`Shows.deliver`); so a sequence of
deliveries ends with the newest (`Shows.deliveries`), which is the same for all sequences of the
same records.
-/

namespace RunBoard.Board

open Subscriptions

variable {b b' : Board} {r s : Run} {id : RunId} {C : List Run} {log : BoardLog}

/-! ### Chronicles -/

/-- The records of a run in the order in which they were written: the stamps increase, each status
can be reached from the one before, and only the newest record may have ended. -/
structure Chronicle (id : RunId) (C : List Run) : Prop where
  ofRun : ∀ r ∈ C, r.id = id
  ordered : C.IsChain Run.Precedes
  running : ∀ r ∈ C.dropLast, r.isInFlight = true

namespace Chronicle

lemma pairwise (chronicle : Chronicle id C) : C.Pairwise Run.Precedes :=
  List.isChain_iff_pairwise.mp chronicle.ordered

/-- Of two records of a chronicle one precedes the other, unless they are the same. -/
lemma eq_or_precedes (chronicle : Chronicle id C) (hr : r ∈ C) (hs : s ∈ C) :
    r = s ∨ r.Precedes s ∨ s.Precedes r := by
  have hpairs : C.Pairwise fun r s => r = s ∨ r.Precedes s ∨ s.Precedes r :=
    chronicle.pairwise.imp fun h => Or.inr (Or.inl h)
  have hflipped : C.Pairwise (flip fun r s => r = s ∨ r.Precedes s ∨ s.Precedes r) :=
    chronicle.pairwise.imp fun h => Or.inr (Or.inr h)
  have hself : ∀ t ∈ C, t = t ∨ t.Precedes t ∨ t.Precedes t := fun _ _ => Or.inl rfl
  exact List.Pairwise.forall_of_forall_of_flip hself hpairs hflipped hr hs

/-- A record that another one follows is in flight. -/
lemma isInFlight_of_precedes (chronicle : Chronicle id C) (hr : r ∈ C) (hs : s ∈ C)
    (h : r.Precedes s) : r.isInFlight = true := by
  rcases List.eq_nil_or_concat C with rfl | ⟨older, newest, rfl⟩
  · exact absurd hr List.not_mem_nil
  · have hpairs := chronicle.pairwise
    have hrunning := chronicle.running
    simp only [List.concat_eq_append, List.mem_append, List.mem_singleton, List.pairwise_append,
      List.dropLast_concat] at hr hs hpairs hrunning
    rcases hr with hr | rfl
    · exact hrunning r hr
    · -- nothing follows the newest record
      exfalso
      rcases hs with hs | rfl
      · exact h.asymm (hpairs.2.2 s hs r rfl)
      · exact h.asymm h

end Chronicle

/-! ### Deliveries -/

/-- The row of a run agrees with a record of it, and the run is subscribed exactly if the record is
in flight. -/
structure Shows (b : Board) (r : Run) : Prop where
  row : ∃ row, b.row? r.id = some row ∧ row.Agrees r
  live : r.id ∈ b.live ↔ r.isInFlight = true

/-- On a board that has been reached over pages that list each run once, nothing but rows in flight
is subscribed; so it shows its rows, those in flight if they are subscribed. -/
lemma shows_of_history {query : Query} {deeds : List Deed} {row : Run}
    (history : History (.new query) deeds b) (pages : DistinctPages (logOf deeds))
    (hrow : b.row? row.id = some row) (hlive : row.isInFlight = true → row.id ∈ b.live) :
    b.Shows row := by
  have hfollowed := followed_of_history history pages
  exact ⟨⟨row, hrow, .refl row⟩, hfollowed.isInFlight_of_mem (rowOf?_eq_some hrow).1, hlive⟩

/-- A record of a run reaches a board, as a patch or as an entry of a page that lists the run once;
the subscription of the run is accepted if the board asks for it. -/
inductive Delivery (b : Board) (r : Run) : Board → Prop
  | patch {b' : Board} {patch : Patch} {log : BoardLog} {outcome : Outcome}
      (kind : patch.action ≠ .delete) (record : patch.record.Agrees r)
      (course : (b.applyPatch patch).Course log (b', outcome)) : Delivery b r b'
  | page {b' : Board} {page : Page} {arrived : List Patch} {entry : Run} {rest : BoardLog}
      {shown : Bool} (listed : page.items.filter (fun e => e.id = r.id) = [entry])
      (record : entry.Agrees r)
      (course : b.load.Course (.asked (.list b.query) ⟨.ok page, arrived⟩ :: rest) (b', shown))
      (accepting : Accepting r.id rest) : Delivery b r b'

/-- Records reach a board one after the other. -/
inductive Deliveries : Board → List Run → Board → Prop
  | none (b : Board) : Deliveries b [] b
  | next {b c d : Board} {r : Run} {rs : List Run} (first : Delivery b r c)
      (others : Deliveries c rs d) : Deliveries b (r :: rs) d

/-! ### A single delivery -/

lemma rowOf?_eq_some_of_filter {rows : List Run} {entry : Run}
    (h : rows.filter (fun e => e.id = id) = [entry]) : rowOf? rows id = some entry := by
  have hhead : rowOf? rows id = (rows.filter fun e => e.id = id).head? := by
    rw [List.head?_filter]
    rfl
  rw [hhead, h]
  rfl

/-- A page that lists the run once shows it as in flight exactly if its entry is. -/
lemma wants_map_settleRow {rows items : List Run} {entry : Run}
    (h : items.filter (fun e => e.id = id) = [entry]) :
    wants (items.map (settleRow rows)) id = (settleRow rows entry).isInFlight := by
  have hmem : ∀ e, e ∈ items ∧ e.id = id ↔ e = entry := by
    intro e
    have hfilter : e ∈ items.filter (fun e => e.id = id) ↔ e ∈ items ∧ e.id = id := by simp
    rw [← hfilter, h, List.mem_singleton]
  rw [Bool.eq_iff_iff, wants_iff]
  constructor
  · rintro ⟨_, hmap, hid, hflight⟩
    obtain ⟨e, he, rfl⟩ := List.mem_map.mp hmap
    rw [settleRow_id] at hid
    obtain rfl := (hmem e).mp ⟨he, hid⟩
    exact hflight
  · intro hflight
    obtain ⟨hentry, hid⟩ := (hmem entry).mpr rfl
    exact ⟨_, List.mem_map_of_mem hentry, by rwa [settleRow_id], hflight⟩

/-- A patch that is dropped while its run has a row changes nothing. -/
lemma patched_of_ignored {patch : Patch} {reason : IgnoreReason}
    (h : b.live.merge patch b.rows b.detail = ⟨b.rows, b.detail, .ignored reason⟩)
    (hreason : reason ≠ .notOnPage) : b.patched patch = b := by
  have hkeeps : (Outcome.ignored reason).releases = false := by
    cases reason with
    | notOnPage => exact absurd rfl hreason
    | notSubscribed | stale => rfl
  simp [Board.patched, h, hkeeps]

namespace Shows

/-- A patch that the row accepts is shown. -/
lemma accepted {patch : Patch} (h : b.Shows r) (hflight : r.isInFlight = true)
    (kind : patch.action ≠ .delete) (record : patch.record.Agrees s) (hid : s.id = r.id)
    (haccepts : r.accepts s = true) : (b.patched patch).Shows s := by
  obtain ⟨row, hrow, hagrees⟩ := h.row
  have hpatch : patch.record.id = r.id := record.id_eq.trans hid
  have hlive : patch.record.id ∈ b.live := hpatch ▸ h.live.mpr hflight
  have hshown : rowOf? b.rows patch.record.id = some row := hpatch ▸ hrow
  have hmerges := merges_merge b.live patch b.rows b.detail
  generalize hmerge : b.live.merge patch b.rows b.detail = merged at hmerges
  cases hmerges with
  | notSubscribed hnot => exact absurd hlive hnot
  | notOnPage _ hnone => exact absurd hshown (by simp [rowOf?_eq_none_iff.mpr hnone])
  | removed _ _ hdelete => exact absurd hdelete kind
  | stale _ hheld _ hstale =>
    obtain rfl := Option.some.inj (hshown.symm.trans hheld)
    rw [Run.accepts_congr hagrees record, haccepts] at hstale
    exact absurd hstale (by simp)
  | @applied held _ hheld _ _ =>
    have hkeep := Run.agrees_keepExpansion patch.record held
    refine ⟨⟨patch.record.keepExpansion held, ?_, hkeep.trans record⟩, ?_⟩
    · simp [Board.row?, Board.patched, hmerge, rowOf?_replaceRow, record.id_eq.symm, hheld]
    · have hflight' : (patch.record.keepExpansion held).isInFlight = s.isInFlight :=
        (hkeep.trans record).isInFlight_eq
      cases hs : s.isInFlight <;>
        simp [Board.patched, hmerge, Outcome.releases, hflight', hs, record.id_eq.symm, hlive]

/-- A patch that the row does not accept changes nothing. -/
lemma rejected {patch : Patch} (h : b.Shows r) (kind : patch.action ≠ .delete)
    (record : patch.record.Agrees s) (hid : s.id = r.id) (hrejects : r.accepts s = false) :
    b.patched patch = b := by
  obtain ⟨row, hrow, hagrees⟩ := h.row
  have hshown : rowOf? b.rows patch.record.id = some row := by
    rw [record.id_eq, hid]
    exact hrow
  have hmerges := merges_merge b.live patch b.rows b.detail
  generalize hmerge : b.live.merge patch b.rows b.detail = merged at hmerges
  cases hmerges with
  | notSubscribed _ => exact patched_of_ignored hmerge (by simp)
  | notOnPage _ hnone => exact absurd hshown (by simp [rowOf?_eq_none_iff.mpr hnone])
  | removed _ _ hdelete => exact absurd hdelete kind
  | stale _ _ _ _ => exact patched_of_ignored hmerge (by simp)
  | applied _ hheld _ haccepts =>
    obtain rfl := Option.some.inj (hshown.symm.trans hheld)
    rw [Run.accepts_congr hagrees record, hrejects] at haccepts
    exact absurd haccepts (by simp)

/-- Once a run has ended its patches change nothing. -/
lemma ended {patch : Patch} (h : b.Shows r) (hended : r.isInFlight = false)
    (hid : patch.record.id = r.id) : b.patched patch = b := by
  have hnot : patch.record.id ∉ b.live := by
    rw [hid, h.live, hended]
    exact Bool.false_ne_true
  have hmerge : b.live.merge patch b.rows b.detail =
      ⟨b.rows, b.detail, .ignored .notSubscribed⟩ := by
    simp [merge, hnot]
  exact patched_of_ignored hmerge (by simp)

/-- A page shows the entry of the run, unless the row is ahead of it. -/
lemma loaded {page : Page} {arrived : List Patch} {entry : Run} (h : b.Shows r)
    (listed : page.items.filter (fun e => e.id = r.id) = [entry]) (record : entry.Agrees s)
    (hid : s.id = r.id)
    (follows : ((b.receive arrived).replacePage page).Follows log b')
    (accepting : Accepting r.id log) : b'.Shows (if r.accepts s then s else r) := by
  obtain ⟨row, hrow, hagrees⟩ := h.row
  have hentry : entry.id = r.id := record.id_eq.trans hid
  have hrows : b'.rows = page.items.map (settleRow b.rows) := follows.rows_eq
  have hsettled : settleRow b.rows entry = if r.accepts s then entry else row := by
    rw [settleRow_of_held (hentry ▸ hrow), Run.accepts_congr hagrees record]
  have hshown : b'.row? r.id = some (settleRow b.rows entry) := by
    rw [Board.row?, hrows, rowOf?_map_settleRow, rowOf?_eq_some_of_filter listed]
    rfl
  have hlive : r.id ∈ b'.live ↔ (settleRow b.rows entry).isInFlight = true := by
    rw [follows.mem_live_iff accepting, ← wants_map_settleRow listed]
    rfl
  by_cases haccepts : r.accepts s = true
  · rw [if_pos haccepts] at hsettled ⊢
    rw [hsettled] at hshown hlive
    exact ⟨⟨entry, hid ▸ hshown, record⟩, by rw [hid, hlive, record.isInFlight_eq]⟩
  · rw [if_neg haccepts] at hsettled ⊢
    rw [hsettled] at hshown hlive
    exact ⟨⟨row, hshown, hagrees⟩, by rw [hlive, hagrees.isInFlight_eq]⟩

/-- What a delivery leaves: the delivered record if the one that is shown accepts it. -/
lemma delivered (h : b.Shows r) (hid : s.id = r.id)
    (running : r.accepts s = true → r.isInFlight = true ∨ s = r) (delivery : Delivery b s b') :
    b'.Shows (if r.accepts s then s else r) := by
  cases delivery with
  | @patch patch _ _ kind record course =>
    obtain ⟨-, rfl, -⟩ := course_applyPatch_iff.mp course
    by_cases haccepts : r.accepts s = true
    · rw [if_pos haccepts]
      cases hflight : r.isInFlight with
      | true => exact h.accepted hflight kind record hid haccepts
      | false =>
        -- the run has ended, so this is the same record once more
        obtain rfl : s = r := (running haccepts).resolve_left (by simp [hflight])
        rw [h.ended hflight record.id_eq]
        exact h
    · rw [if_neg haccepts, h.rejected kind record hid (Bool.eq_false_iff.mpr haccepts)]
      exact h
  | page listed record course accepting =>
    cases course_load course with
    | shown page arrived follows =>
      exact h.loaded (hid ▸ listed) record hid follows (hid ▸ accepting)

/-- A delivery leaves the later one of the record that is shown and the one that is delivered. -/
lemma deliver (chronicle : Chronicle id C) (hr : r ∈ C) (hs : s ∈ C) (h : b.Shows r)
    (delivery : Delivery b s b') : ∃ t, (t = r ∨ t = s) ∧ (r = t ∨ r.Precedes t) ∧
      (s = t ∨ s.Precedes t) ∧ b'.Shows t := by
  have hid : s.id = r.id := (chronicle.ofRun s hs).trans (chronicle.ofRun r hr).symm
  have hshows : (r.accepts s = true → r.isInFlight = true ∨ s = r) →
      b'.Shows (if r.accepts s then s else r) := fun running => h.delivered hid running delivery
  rcases chronicle.eq_or_precedes hr hs with rfl | hlater | hearlier
  · refine ⟨r, Or.inl rfl, Or.inl rfl, Or.inl rfl, ?_⟩
    simpa using hshows fun _ => Or.inr rfl
  · refine ⟨s, Or.inr rfl, Or.inr hlater, Or.inl rfl, ?_⟩
    have hflight := chronicle.isInFlight_of_precedes hr hs hlater
    simpa [hlater.accepts] using hshows fun _ => Or.inl hflight
  · refine ⟨r, Or.inl rfl, Or.inl rfl, Or.inr hearlier, ?_⟩
    have hrejects := hearlier.rejects
    simpa [hrejects] using hshows fun haccepts => absurd haccepts (by simp [hrejects])

/-- A sequence of deliveries leaves the newest of all records. -/
lemma deliveries {rs : List Run} (chronicle : Chronicle id C) (hr : r ∈ C) (hrs : ∀ s ∈ rs, s ∈ C)
    (h : b.Shows r) (deliveries : Deliveries b rs b') :
    ∃ newest ∈ r :: rs, (∀ s ∈ r :: rs, s = newest ∨ s.Precedes newest) ∧ b'.Shows newest := by
  induction deliveries generalizing r with
  | none b => exact ⟨r, List.mem_cons_self, by simp, h⟩
  | @next b c d s rs first others ih =>
    obtain ⟨t, ht, hrt, hst, hshows⟩ := h.deliver chronicle hr (hrs s List.mem_cons_self) first
    have htC : t ∈ C := by
      rcases ht with rfl | rfl
      · exact hr
      · exact hrs t List.mem_cons_self
    obtain ⟨newest, hmem, hnewest, hend⟩ :=
      ih htC (fun s hs => hrs s (List.mem_cons_of_mem _ hs)) hshows
    -- what is not later than the record in between is not later than the newest
    have hbehind : ∀ s, (s = t ∨ s.Precedes t) → s = newest ∨ s.Precedes newest := by
      rintro s (rfl | hs)
      · exact hnewest s List.mem_cons_self
      · rcases hnewest t List.mem_cons_self with rfl | htn
        · exact Or.inr hs
        · exact Or.inr (hs.trans htn)
    refine ⟨newest, ?_, ?_, hend⟩
    · rcases List.mem_cons.mp hmem with rfl | hmem
      · rcases ht with rfl | rfl
        · exact List.mem_cons_self
        · exact List.mem_cons_of_mem _ List.mem_cons_self
      · exact List.mem_cons_of_mem _ (List.mem_cons_of_mem _ hmem)
    · intro x hx
      simp only [List.mem_cons] at hx
      rcases hx with rfl | rfl | hx
      · exact hbehind _ hrt
      · exact hbehind _ hst
      · exact hnewest x (List.mem_cons_of_mem _ hx)

end Shows

/-! ### Convergence -/

/-- **Convergence.**  Let a board show a record of a chronicle.  Whatever records of the chronicle
then reach it, in any order and any number of times, as patches or with fetched pages, it shows the
newest of them all in the end: its row of the run agrees with the newest record, and the run is
subscribed exactly if that record is in flight.  So two sequences of deliveries of the same records
lead to the same. -/
theorem shows_newest_in_any_order {id : RunId} {C : List Run} (chronicle : Chronicle id C)
    {r₀ : Run} (hr₀ : r₀ ∈ C) {b b₁ b₂ : Board} (start : b.Shows r₀) {first second : List Run}
    (ofChronicle : ∀ r ∈ first, r ∈ C) (same : ∀ r, r ∈ first ↔ r ∈ second)
    (one : Deliveries b first b₁) (other : Deliveries b second b₂) :
    ∃ newest ∈ r₀ :: first, (∀ r ∈ r₀ :: first, r = newest ∨ r.Precedes newest) ∧
      b₁.Shows newest ∧ b₂.Shows newest := by
  have hsame : ∀ r, r ∈ r₀ :: first ↔ r ∈ r₀ :: second := by
    intro r
    rw [List.mem_cons, List.mem_cons, same]
  obtain ⟨newest, hmem, hnewest, hshows⟩ := start.deliveries chronicle hr₀ ofChronicle one
  obtain ⟨newest', hmem', hnewest', hshows'⟩ :=
    start.deliveries chronicle hr₀ (fun r hr => ofChronicle r ((same r).mpr hr)) other
  have heq : newest' = newest := by
    rcases hnewest newest' ((hsame newest').mpr hmem') with h | h
    · exact h
    · rcases hnewest' newest ((hsame newest).mp hmem) with h' | h'
      · exact h'.symm
      · exact absurd h' h.asymm
  exact ⟨newest, hmem, hnewest, hshows, heq ▸ hshows'⟩

/-- What becomes of a board that loads a page with one run. -/
def loadedWith (b : Board) (r : Run) : Board :=
  (b.load.play (answerWith ⟨[r], 1⟩ "refused")).2.1

lemma delivery_patched (b : Board) (r : Run) : Delivery b r (b.patched ⟨.update, r⟩) :=
  .patch (by simp) (.refl r) (course_applyPatch_iff.mpr ⟨rfl, rfl, rfl⟩)

lemma delivery_loadedWith (b : Board) {r : Run} (hid : r.id ≠ "refused") :
    Delivery b r (b.loadedWith r) := by
  obtain ⟨course, answers⟩ := Task.course_of_play
    (show b.load.play (answerWith ⟨[r], 1⟩ "refused") = (_, _) from rfl)
  refine .page (by simp) (.refl r) course fun ids answer hmem => ?_
  rw [answers _ _ (List.mem_cons_of_mem _ hmem)]
  exact ⟨_, rfl, fun _ => by simp [hid, Except.isOk, Except.toBool]⟩

/-- A board that has loaded the first record of a run, and the deed. -/
def firstLoad : Deed × Board :=
  (Board.new (.of none 1 10 false)).act (.command .refresh)
    (answerWith ⟨[.stamped "a" .pending 1], 1⟩ "refused")

theorem shows_newest_in_any_order_of_crossing :
    ∃ newest ∈ [.stamped "a" .pending 1, .stamped "a" .processing 2, .stamped "a" .succeeded 3],
      (∀ r ∈ [.stamped "a" .pending 1, .stamped "a" .processing 2, .stamped "a" .succeeded 3],
        r = newest ∨ r.Precedes newest) ∧
      ((firstLoad.2.patched ⟨.update, .stamped "a" .processing 2⟩).loadedWith
        (.stamped "a" .succeeded 3)).Shows newest ∧
      ((firstLoad.2.loadedWith (.stamped "a" .succeeded 3)).patched
        ⟨.update, .stamped "a" .processing 2⟩).Shows newest := by
  have chronicle : Chronicle "a"
      [.stamped "a" .pending 1, .stamped "a" .processing 2, .stamped "a" .succeeded 3] := by
    refine ⟨by simp [Run.stamped, Run.bare], ?_, by simp [Run.stamped, Run.bare, Run.isInFlight,
      Status.isInFlight]⟩
    simp only [List.isChain_cons_cons, List.isChain_singleton, and_true]
    exact ⟨⟨rfl, rfl⟩, ⟨rfl, rfl⟩⟩
  have start : firstLoad.2.Shows (.stamped "a" .pending 1) := by
    have hpage : Distinct [Run.stamped "a" .pending 1] := List.nodup_singleton _
    have pages : DistinctPages (logOf [firstLoad.1]) := by
      rw [logOf, List.flatMap_singleton]
      exact distinctPages_act hpage _ _ _
    exact shows_of_history (.next .start (course_act _ _ _)) pages rfl (by decide)
  have hid : ∀ status second, (Run.stamped "a" status second).id ≠ "refused" := by
    intro status second
    simp [Run.stamped, Run.bare]
  exact shows_newest_in_any_order chronicle (by simp) start (by simp)
    (fun r => by rw [List.mem_pair, List.mem_pair, or_comm])
    (.next (delivery_patched _ _) (.next (delivery_loadedWith _ (hid _ _)) (.none _)))
    (.next (delivery_loadedWith _ (hid _ _)) (.next (delivery_patched _ _) (.none _)))

end RunBoard.Board
