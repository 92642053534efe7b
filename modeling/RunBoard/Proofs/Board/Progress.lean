import RunBoard.Proofs.Run.Succession
import RunBoard.Proofs.Board.Showing

/-!
# What is shown of a run only moves forward

While a run stays displayed, each record that takes the place of its row is one that the row
accepts, whether it comes as a patch or with a page.  `Reworked` says all that an operation can do
to the rows of a page; only the operation that takes in all patches that wait does so several
times.

So the status of a run that stays displayed never goes back (`status_never_regresses`), and neither
does its stamp as long as the row has one (`stamp_never_goes_back`).  A record without a stamp is
not older than any other, nor newer: once such a record is shown, an older one may follow
(`stamp_goes_back_across_unstamped`).
-/

namespace RunBoard.Board

open Subscriptions RunBoard.Time

variable {b b' c d : Board} {rows rows' rest : List Run} {row row' : Run} {id : RunId}
  {log all : BoardLog}

/-! ### What an operation does to the rows -/

/-- What an operation does to the rows: a patch is taken in, or rows are dropped, and a page may be
fetched. -/
inductive Reworked (log : BoardLog) (rows : List Run) : List Run → Prop
  | patched (live : Subscriptions) (patch : Patch) (detail : Detail) :
      Reworked log rows (live.merge patch rows detail).rows
  | thinned {rest : List Run} (thinned : Thinned log rows rest) : Reworked log rows rest
  | loaded {rest : List Run} {query : Query} {page : Page} {arrived : List Patch}
      (thinned : Thinned log rows rest)
      (fetched : .asked (.list query) ⟨.ok page, arrived⟩ ∈ log) :
      Reworked log rows (page.items.map (settleRow rest))

lemma Reshows.reworked (h : Reshows log b b') : Reworked log b.rows b'.rows := by
  cases h with
  | patched patch hrows => exact hrows ▸ .patched b.live patch b.detail
  | thinned thinned => exact .thinned thinned
  | loaded thinned fetched hrows => exact hrows ▸ .loaded thinned fetched

/-- What an operation does to the rows, unless it takes in all patches that wait. -/
lemma reworked_of_course_perform {op : Operation} (hop : op ≠ .drain)
    (h : (b.perform op).Course log b') : Reworked log b.rows b'.rows := by
  cases hdetail : op.meansDetail with
  | true =>
    have hrows : b'.rows = b.rows := (congrArg Board.rows (course_of_meansDetail hdetail h).2 :)
    exact hrows ▸ .thinned .none
  | false => exact (reshows_of_course_perform hop hdetail h).reworked

/-! ### The row of one run -/

/-- A patch leaves the row of a run, if any, as a record that the row accepts. -/
lemma accepts_of_merge {live : Subscriptions} {patch : Patch} {detail : Detail}
    (distinct : Distinct rows)
    (hrow' : rowOf? (live.merge patch rows detail).rows id = some row') :
    ∃ row, rowOf? rows id = some row ∧ row.accepts row' = true := by
  have hmerges := merges_merge live patch rows detail
  generalize live.merge patch rows detail = merged at hmerges hrow'
  cases hmerges with
  | notSubscribed | notOnPage | stale =>
    exact ⟨row', hrow', (Run.Agrees.refl row').accepts⟩
  | removed hlive hheld hdelete =>
    by_cases hid : id = patch.record.id
    · subst hid
      rw [rowOf?_removeRow_self distinct] at hrow'
      cases hrow'
    · rw [rowOf?_removeRow hid] at hrow'
      exact ⟨row', hrow', (Run.Agrees.refl row').accepts⟩
  | @applied held hlive hheld hkeep haccepts =>
    rw [rowOf?_replaceRow, Run.keepExpansion_id] at hrow'
    split at hrow'
    · rename_i hid
      obtain ⟨_, -, rfl⟩ := Option.map_eq_some_iff.mp hrow'
      have hagrees := Run.agrees_keepExpansion patch.record held
      refine ⟨held, hid ▸ hheld, ?_⟩
      rw [Run.accepts_congr (.refl held) hagrees]
      exact haccepts
    · exact ⟨row', hrow', (Run.Agrees.refl row').accepts⟩

/-- The record that takes the place of a row is one that the row accepts, unless the run has been
deleted in the meantime. -/
lemma Reworked.accepts (h : Reworked log rows rows') (distinct : Distinct rows)
    (kept : ∀ ids arrived, .asked (.remove ids) ⟨.ok true, arrived⟩ ∈ log → id ∉ ids)
    (hrow : rowOf? rows id = some row) (hrow' : rowOf? rows' id = some row') :
    row.accepts row' = true := by
  have hthinned : ∀ {rest}, Thinned log rows rest → rowOf? rest id = some row :=
    fun hthinned => (hthinned.rowOf?_eq kept).trans hrow
  have hsame : rowOf? rows' id = rowOf? rows id → row.accepts row' = true := by
    intro hsame
    rw [hrow, hrow'] at hsame
    obtain rfl := Option.some.inj hsame
    exact (Run.Agrees.refl row').accepts
  cases h with
  | patched live patch detail =>
    obtain ⟨held, hheld, haccepts⟩ := accepts_of_merge distinct hrow'
    obtain rfl := Option.some.inj (hrow.symm.trans hheld)
    exact haccepts
  | thinned thinned => exact hsame ((hthinned thinned).trans hrow.symm)
  | @loaded rest query page arrived thinned fetched =>
    rw [rowOf?_map_settleRow, Option.map_eq_some_iff] at hrow'
    obtain ⟨fetched, hfetched, rfl⟩ := hrow'
    obtain ⟨-, rfl⟩ := rowOf?_eq_some hfetched
    rw [settleRow_of_held (hthinned thinned)]
    split
    · assumption
    · exact (Run.Agrees.refl row).accepts

lemma distinct_merge {live : Subscriptions} {patch : Patch} {detail : Detail}
    (distinct : Distinct rows) : Distinct (live.merge patch rows detail).rows := by
  have hmerges := merges_merge live patch rows detail
  generalize live.merge patch rows detail = merged at hmerges
  cases hmerges with
  | notSubscribed | notOnPage | stale => exact distinct
  | removed => exact distinct_removeRow distinct _
  | applied => exact distinct_replaceRow.mpr distinct

/-! ### Taking in all patches that wait -/

/-- The boards that taking in patches one after the other goes through. -/
def patchedBy (b : Board) : List Patch → List Board
  | [] => []
  | patch :: patches => b.patched patch :: (b.patched patch).patchedBy patches

/-- The boards that an operation from `b` to `b'` goes through: `b'`, and one after each patch if it
takes in all patches that wait. -/
def Operation.moments (op : Operation) (b b' : Board) : List Board :=
  match op with
  | .drain => b.emptied.patchedBy b.live.inbox ++ [b']
  | _ => [b']

lemma Operation.mem_moments (op : Operation) : b' ∈ op.moments b b' := by
  cases op <;> simp [moments]

/-! ### Stretches of a history -/

/-- A history each deed of which is as required, given the boards before and after it. -/
inductive HistoryWhere (R : Deed → Board → Board → Prop) (b : Board) : List Deed → Board → Prop
  | start : HistoryWhere R b [] b
  | next {deeds : List Deed} {c d : Board} {deed : Deed} (before : HistoryWhere R b deeds c)
      (course : (c.perform deed.operation).Course deed.log d) (holds : R deed c d) :
      HistoryWhere R b (deeds ++ [deed]) d

/-- A run is not deleted in the course of a deed, and is displayed after it. -/
structure Deed.Displays (id : RunId) (deed : Deed) (_before after : Board) : Prop where
  spared : ∀ ids arrived, .asked (.remove ids) ⟨.ok true, arrived⟩ ∈ deed.log → id ∉ ids
  shown : (after.row? id).isSome = true

/-- A run is displayed after a deed, and its row carries a stamp all the time. -/
structure Deed.DisplaysStamped (id : RunId) (deed : Deed) (before after : Board) : Prop
    extends deed.Displays id before after where
  stamped : ∀ m ∈ deed.operation.moments before after, ∀ row, m.row? id = some row →
    row.updated.isSome = true

lemma HistoryWhere.history {R : Deed → Board → Board → Prop} {earlier deeds : List Deed}
    (h : HistoryWhere R b deeds b') (reached : History d earlier b) :
    History d (earlier ++ deeds) b' := by
  induction h with
  | start => simpa using reached
  | next _ course _ ih =>
    rw [← List.append_assoc]
    exact .next ih course

lemma HistoryWhere.imp {R S : Deed → Board → Board → Prop} {deeds : List Deed}
    (h : HistoryWhere R b deeds b') (hRS : ∀ {deed c d}, R deed c d → S deed c d) :
    HistoryWhere S b deeds b' := by
  induction h with
  | start => exact .start
  | next _ course holds ih => exact .next ih course (hRS holds)

section Onward

/-! A relation between the records that a row shows one after the other.  It need only be composed
where the record in between is as `P` says. -/

variable {P : Run → Prop} {R : Run → Run → Prop}
  (step : ∀ {r s : Run}, r.accepts s = true → R r s)
  (trans : ∀ {r s t : Run}, P s → R r s → R s t → R r t)

include step trans

lemma onward_of_patches {patches : List Patch} (distinct : Distinct b.rows)
    (through : ∀ m ∈ b.patchedBy patches, ∀ row, m.row? id = some row → P row)
    (hrow' : (patches.foldl patched b).row? id = some row') :
    ∃ row, b.row? id = some row ∧ R row row' := by
  induction patches generalizing b with
  | nil => exact ⟨row', hrow', step (Run.Agrees.refl row').accepts⟩
  | cons patch patches ih =>
    have hdistinct : Distinct (b.patched patch).rows := distinct_merge distinct
    obtain ⟨mid, hmid, hlate⟩ := ih hdistinct
      (fun m hm => through m (List.mem_cons_of_mem _ hm)) hrow'
    obtain ⟨row, hrow, haccepts⟩ := accepts_of_merge distinct hmid
    exact ⟨row, hrow, trans (through _ List.mem_cons_self _ hmid) (step haccepts) hlate⟩

lemma onward_of_course {deed : Deed} (distinct : Distinct c.rows)
    (course : (c.perform deed.operation).Course deed.log d) (displays : deed.Displays id c d)
    (through : ∀ m ∈ deed.operation.moments c d, ∀ row, m.row? id = some row → P row)
    (hrow : c.row? id = some row) (hrow' : d.row? id = some row') : R row row' := by
  by_cases hop : deed.operation = .drain
  · -- the only operation that may replace a row more than once
    rw [hop] at course through
    obtain ⟨-, hboard⟩ := course_perform_drain course
    rw [hboard] at hrow'
    obtain ⟨held, hheld, honward⟩ := onward_of_patches step trans (b := c.emptied) distinct
      (fun m hm => through m (List.mem_append_left _ hm)) hrow'
    obtain rfl := Option.some.inj (hrow.symm.trans hheld)
    exact honward
  · have hreworked := reworked_of_course_perform hop course
    exact step (hreworked.accepts distinct displays.spared hrow hrow')

/-- What holds from each record to one that it accepts holds over a whole stretch. -/
lemma onward_of_history {S : Deed → Board → Board → Prop} {query : Query}
    {earlier deeds : List Deed} (reached : History (.new query) earlier b)
    (stretch : HistoryWhere S b deeds b')
    (displays : ∀ {deed c d}, S deed c d → deed.Displays id c d)
    (through : ∀ {deed c d}, S deed c d →
      ∀ m ∈ deed.operation.moments c d, ∀ row, m.row? id = some row → P row)
    (pages : DistinctPages (logOf (earlier ++ deeds)))
    (hrow : b.row? id = some row) (hP : P row) :
    ∃ row', b'.row? id = some row' ∧ P row' ∧ R row row' := by
  induction stretch with
  | start => exact ⟨row, hrow, hP, step (Run.Agrees.refl row).accepts⟩
  | @next deeds c d deed before course holds ih =>
    rw [← List.append_assoc, logOf_append] at pages
    have hdistinct : Distinct c.rows :=
      (followed_of_history (before.history reached) pages.append.1).distinct
    obtain ⟨mid, hmid, hPmid, hearly⟩ := ih pages.append.1
    obtain ⟨row', hrow'⟩ := Option.isSome_iff_exists.mp (displays holds).shown
    have hlate : R mid row' :=
      onward_of_course step trans hdistinct course (displays holds) (through holds) hmid hrow'
    have hPlast : P row' := through holds d deed.operation.mem_moments row' hrow'
    exact ⟨row', hrow', hPlast, trans hPmid hearly hlate⟩

end Onward

/-! ### Status and stamp -/

/-- **The status never regresses.**  Take any stretch of a history of a new board, on pages that
list each run once, over which a run stays displayed and is not deleted.  The status that is shown
at the end can be reached from the one at the beginning; so it is the same if the run had ended. -/
theorem status_never_regresses {query : Query} {earlier deeds : List Deed} {b b' : Board}
    {id : RunId} {row row' : Run} (reached : History (.new query) earlier b)
    (stretch : HistoryWhere (Deed.Displays id) b deeds b')
    (pages : DistinctPages (logOf (earlier ++ deeds)))
    (hrow : b.row? id = some row) (hrow' : b'.row? id = some row') :
    row.status.canBecome row'.status = true ∧
      (row.isTerminal = true → row'.status = row.status) := by
  obtain ⟨last, hlast, -, hbecomes⟩ :=
    onward_of_history (P := fun _ => True)
      (R := fun r s => r.status.canBecome s.status = true)
      (fun haccepts => (Run.accepts_iff.mp haccepts).1)
      (fun _ hrs hst => Status.canBecome_trans hrs hst)
      reached stretch (fun holds => holds) (fun _ _ _ _ _ => trivial) pages hrow trivial
  obtain rfl := Option.some.inj (hrow'.symm.trans hlast)
  exact ⟨hbecomes, fun hended => Status.canBecome_of_isTerminal hended hbecomes⟩

/-- A run that has ended is shown, and then a page is loaded that lists a newer record of it which
is in flight. -/
def endedThenLoaded : (Deed × Board) × (Deed × Board) :=
  let ended := (Board.new (.of none 1 10 false)).act (.command .refresh)
    (answerWith ⟨[.stamped "a" .succeeded 1], 1⟩ "refused")
  (ended, ended.2.act (.command .refresh)
    (answerWith ⟨[.stamped "a" .processing 2], 1⟩ "refused"))

theorem status_never_regresses_on_reload :
    ∃ row row', endedThenLoaded.1.2.row? "a" = some row ∧
      endedThenLoaded.2.2.row? "a" = some row' ∧ row.isTerminal = true ∧
      row.status.canBecome row'.status = true ∧ row'.status = row.status := by
  have reached : History (.new (.of none 1 10 false)) [endedThenLoaded.1.1] endedThenLoaded.1.2 :=
    .next .start (course_act _ _ _)
  have displays : endedThenLoaded.2.1.Displays "a" endedThenLoaded.1.2 endedThenLoaded.2.2 := by
    refine ⟨fun ids arrived hmem => ?_, by decide⟩
    have hlog : endedThenLoaded.2.1.log = [.asked (.list (.of none 1 10 false))
      ⟨.ok ⟨[.stamped "a" .processing 2], 1⟩, []⟩] := rfl
    rw [hlog, List.mem_singleton] at hmem
    cases hmem
  have stretch : HistoryWhere (Deed.Displays "a") endedThenLoaded.1.2 [endedThenLoaded.2.1]
      endedThenLoaded.2.2 := .next .start (course_act _ _ _) displays
  have hpage : ∀ r : Run, Distinct [r] := fun _ => List.nodup_singleton _
  have pages : DistinctPages (logOf ([endedThenLoaded.1.1] ++ [endedThenLoaded.2.1])) := by
    simp only [logOf, List.flatMap_append, List.flatMap_singleton]
    exact DistinctPages.append_iff.mpr
      ⟨distinctPages_act (hpage _) _ _ _, distinctPages_act (hpage _) _ _ _⟩
  obtain ⟨hbecomes, hended⟩ := status_never_regresses reached stretch pages rfl rfl
  exact ⟨_, _, rfl, rfl, rfl, hbecomes, hended rfl⟩

/-- **The stamp never goes back** as long as the row has one.  Take any stretch of a history of a
new board, on pages that list each run once, over which a run stays displayed and is not deleted,
and its row carries a stamp after each operation and after each patch of those that are taken in
together.  The stamp at the end is not before the one at the beginning. -/
theorem stamp_never_goes_back {query : Query} {earlier deeds : List Deed} {b b' : Board}
    {id : RunId} {row row' : Run} {s t : Instant} (reached : History (.new query) earlier b)
    (stretch : HistoryWhere (Deed.DisplaysStamped id) b deeds b')
    (pages : DistinctPages (logOf (earlier ++ deeds)))
    (hrow : b.row? id = some row) (hrow' : b'.row? id = some row')
    (hs : row.updated = some s) (ht : row'.updated = some t) : t.before s = false := by
  obtain ⟨last, hlast, -, hnot⟩ :=
    onward_of_history (P := fun r => r.updated.isSome = true) (R := Run.NotBack)
      Run.notBack_of_accepts Run.NotBack.trans
      reached stretch (fun holds => holds.toDisplays) (fun holds => holds.stamped) pages hrow
      (by simp [hs])
  obtain rfl := Option.some.inj (hrow'.symm.trans hlast)
  exact hnot s t hs ht

/-- A run is loaded, and then two newer records arrive, the older of them last. -/
def stampedThroughout : (Deed × Board) × (Deed × Board) × (Deed × Board) :=
  let answer := answerWith ⟨[.stamped "a" .pending 10], 1⟩ "refused"
  let loaded := (Board.new (.of none 1 10 false)).act (.command .refresh) answer
  let received := loaded.2.act (.receive [⟨.update, .stamped "a" .processing 12⟩,
    ⟨.update, .stamped "a" .processing 11⟩]) answer
  (loaded, received, received.2.act .drain answer)

theorem stamp_never_goes_back_on_drain :
    ∃ row row', stampedThroughout.1.2.row? "a" = some row ∧
      stampedThroughout.2.2.2.row? "a" = some row' ∧
      row.updated = some ⟨10, 0⟩ ∧ row'.updated = some ⟨12, 0⟩ ∧
      Instant.before ⟨12, 0⟩ ⟨10, 0⟩ = false := by
  have reached : History (.new (.of none 1 10 false)) [stampedThroughout.1.1]
      stampedThroughout.1.2 := .next .start (course_act _ _ _)
  have displays : ∀ deed b b', deed.log = [] → (Board.row? b' "a").isSome = true →
      (∀ m ∈ deed.operation.moments b b', (m.row? "a").all (·.updated.isSome) = true) →
      Deed.DisplaysStamped "a" deed b b' := by
    intro deed b b' hlog hshown hstamped
    refine ⟨⟨fun ids arrived hmem => by simp [hlog] at hmem, hshown⟩, fun m hm row hrow => ?_⟩
    simpa [hrow] using hstamped m hm
  have stretch : HistoryWhere (Deed.DisplaysStamped "a") stampedThroughout.1.2
      [stampedThroughout.2.1.1, stampedThroughout.2.2.1] stampedThroughout.2.2.2 :=
    .next (.next .start (course_act _ _ _) (displays _ _ _ rfl (by decide) (by decide)))
      (course_act _ _ _) (displays _ _ _ rfl (by decide) (by decide))
  have hpage : Distinct [Run.stamped "a" .pending 10] := List.nodup_singleton _
  have pages : DistinctPages (logOf ([stampedThroughout.1.1] ++
      [stampedThroughout.2.1.1, stampedThroughout.2.2.1])) := by
    have hlog : logOf ([stampedThroughout.1.1] ++
        [stampedThroughout.2.1.1, stampedThroughout.2.2.1]) = stampedThroughout.1.1.log := rfl
    rw [hlog]
    exact distinctPages_act hpage _ _ _
  have hback := stamp_never_goes_back (s := ⟨10, 0⟩) (t := ⟨12, 0⟩) reached stretch pages
    rfl rfl rfl rfl
  exact ⟨_, _, rfl, rfl, rfl, rfl, hback⟩

/-- A run is loaded, a record without a stamp is taken in, and then one that is older than the
first. -/
def unstampedBetween : (Deed × Board) × (Deed × Board) × (Deed × Board) :=
  let answer := answerWith ⟨[.stamped "a" .pending 10], 1⟩ "refused"
  let loaded := (Board.new (.of none 1 10 false)).act (.command .refresh) answer
  let unstamped := loaded.2.act (.apply ⟨.update, .bare "a" .pending⟩) answer
  (loaded, unstamped, unstamped.2.act (.apply ⟨.update, .stamped "a" .pending 5⟩) answer)

/-- The stamp can go back if a record without one is shown in between. -/
theorem stamp_goes_back_across_unstamped :
    ¬ ∀ (query : Query) (earlier deeds : List Deed) (b b' : Board) (id : RunId) (row row' : Run)
      (s t : Instant), History (.new query) earlier b →
      HistoryWhere (Deed.Displays id) b deeds b' → DistinctPages (logOf (earlier ++ deeds)) →
      b.row? id = some row → b'.row? id = some row' →
      row.updated = some s → row'.updated = some t → t.before s = false := by
  intro law
  have reached : History (.new (.of none 1 10 false)) [unstampedBetween.1.1]
      unstampedBetween.1.2 := .next .start (course_act _ _ _)
  have displays : ∀ deed b b', deed.log = [] → (Board.row? b' "a").isSome = true →
      Deed.Displays "a" deed b b' := by
    intro deed b b' hlog hshown
    exact ⟨fun ids arrived hmem => by simp [hlog] at hmem, hshown⟩
  have stretch : HistoryWhere (Deed.Displays "a") unstampedBetween.1.2
      [unstampedBetween.2.1.1, unstampedBetween.2.2.1] unstampedBetween.2.2.2 :=
    .next (.next .start (course_act _ _ _) (displays _ _ _ rfl (by decide)))
      (course_act _ _ _) (displays _ _ _ rfl (by decide))
  have hpage : Distinct [Run.stamped "a" .pending 10] := List.nodup_singleton _
  have pages : DistinctPages (logOf ([unstampedBetween.1.1] ++
      [unstampedBetween.2.1.1, unstampedBetween.2.2.1])) := by
    have hlog : logOf ([unstampedBetween.1.1] ++
        [unstampedBetween.2.1.1, unstampedBetween.2.2.1]) = unstampedBetween.1.1.log := rfl
    rw [hlog]
    exact distinctPages_act hpage _ _ _
  have hback := law _ _ _ _ _ "a" _ _ ⟨10, 0⟩ ⟨5, 0⟩ reached stretch pages rfl rfl rfl rfl
  exact absurd hback (by decide)

end RunBoard.Board
