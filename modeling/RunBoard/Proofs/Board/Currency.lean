import RunBoard.Proofs.Board.Abreast

/-!
# Whether subscribed rows are current

A board lists a page first and subscribes its rows in flight afterwards, while runs change at any
time.  `Together` says where a board and its backend can get with all that the user may ask for, and
`Hears` what happens while the user asks for nothing; wherever they get, the board keeps abreast of
the backend (`Together.inStep`).

So once a page has been loaded and all patches have been taken in, a subscribed row is current
exactly if the last change of its run was sent (`current_unless_unsent`).  A change that falls
between the listing of the page and the subscription is not sent, and nothing makes up for it
(`stale_after_unsent_change_or_straying`).
-/

namespace RunBoard.Board

open Subscriptions

variable {b b' c : Board} {s t : Store} {patches : List Patch} {log : BoardLog} {id : RunId}

/-! ### A board and its backend -/

/-- What happens to a board and its backend while the user asks for nothing. -/
inductive Hears (b : Board) (s : Store) : Board → Store → Prop
  | change {r : Run} (may : s.MayChange r) : Hears b s b (s.change r)
  | receive {arrived late : List Patch} (queue : s.sent = arrived ++ late) :
      Hears b s (b.receive arrived) { s with sent := late }
  /-- The first patch that waits is taken in. -/
  | next {patch : Patch} {c b' : Board} {log : BoardLog} {s' : Store}
      (first : b.nextPatch? = some (patch, c))
      (course : (c.perform (.apply patch)).Course log b') (answering : s.Answering log s') :
      Hears b s b' s'
  | drain {b' : Board} {log : BoardLog} {s' : Store}
      (course : (b.perform .drain).Course log b') (answering : s.Answering log s') :
      Hears b s b' s'

/-- Where a new board and a backend can get together. -/
inductive Together : Board → Store → Prop
  | new (query : Query) {s : Store} (watched : s.watched = []) (sent : s.sent = []) :
      Together (.new query) s
  | hears {b b' : Board} {s s' : Store} (before : Together b s) (hears : b.Hears s b' s') :
      Together b' s'
  | command {b b' : Board} {s s' : Store} {command : Command} {log : BoardLog}
      (before : Together b s) (course : (b.perform (.command command)).Course log b')
      (answering : s.Answering log s') : Together b' s'
  | teardown {b b' : Board} {s s' : Store} {log : BoardLog} (before : Together b s)
      (course : (b.perform .teardown).Course log b') (answering : s.Answering log s') :
      Together b' s'

/-- A board keeps abreast of its backend, which has the same subscriptions. -/
structure InStep (b : Board) (s : Store) : Prop where
  abreast : b.IsAbreast s
  watched : {id | id ∈ s.watched} = b.subscribed

lemma watched_of_course_perform {op : Operation} (course : (b.perform op).Course log b')
    (answering : s.Answering log t) (h : {id | id ∈ s.watched} = b.subscribed) :
    {id | id ∈ t.watched} = b'.subscribed := by
  have hserved : Served b (logOf [⟨op, log⟩]) b' := .history (.next .start course)
  have hlog : logOf [⟨op, log⟩] = log := by simp [logOf]
  rw [hlog] at hserved
  exact hserved _ (h ▸ answering.delivers)

/-- What taking in patches comes to: the first ones that wait are taken in, and runs may be
released. -/
inductive Takes (b : Board) : BoardLog → Board → Prop
  | intro {patches late : List Patch} {ids : List RunId} (inbox : b.live.inbox = patches ++ late) :
      Takes b (releasing ids)
        (patches.foldl Board.patched { b with live := { b.live with inbox := late } })

lemma takes_of_next {patch : Patch} (first : b.nextPatch? = some (patch, c))
    (course : (c.perform (.apply patch)).Course log b') : b.Takes log b' := by
  obtain ⟨waiting, hinbox, rfl⟩ := nextPatch?_eq_some_iff.mp first
  obtain ⟨rfl, rfl⟩ := course_perform_apply_iff.mp course
  have hsplit : b.live.inbox = [patch] ++ waiting := hinbox
  have htakes : ∀ ids, b.Takes (releasing ids)
      (Board.patched { b with live := { b.live with inbox := waiting } } patch) :=
    fun _ => .intro hsplit
  split
  · exact htakes _
  · exact htakes []

lemma takes_of_drain (course : (b.perform .drain).Course log b') : b.Takes log b' := by
  obtain ⟨⟨ids, rfl⟩, rfl⟩ := course_perform_drain course
  exact .intro (List.append_nil _).symm

lemma foldl_patched_inbox (patches : List Patch) (b : Board) :
    (patches.foldl Board.patched b).live.inbox = b.live.inbox := by
  induction patches generalizing b with
  | nil => rfl
  | cons patch patches ih => rw [List.foldl_cons, ih, patched_inbox]

lemma inbox_of_drain (course : (b.perform .drain).Course log b') : b'.live.inbox = [] := by
  obtain ⟨-, rfl⟩ := course_perform_drain course
  rw [foldl_patched_inbox]
  rfl

lemma IsAbreast.takes (h : b.IsAbreast s) (takes : b.Takes log b')
    (answering : s.Answering log t) : b'.IsAbreast t := by
  cases takes with
  | @intro patches late ids inbox =>
    unfold IsAbreast at h ⊢
    rw [inbox, List.append_assoc] at h
    -- the rows depend on the patches alone, so all of them may be taken in before runs change
    have htaken := Abreast.taken (b := { b with live := { b.live with inbox := late } }) h
    have hend := htaken.answering answering (any_isPage_releasing ids)
    rw [arrivals_releasing, List.append_nil] at hend
    rwa [foldl_patched_inbox]

namespace InStep

lemma hears (h : InStep b s) (hears : b.Hears s b' t) : InStep b' t := by
  cases hears with
  | change may => exact ⟨Abreast.change h.abreast may, h.watched⟩
  | receive queue =>
    have hwaiting := h.abreast
    unfold IsAbreast at hwaiting
    rw [queue, ← List.append_assoc] at hwaiting
    exact ⟨⟨hwaiting.distinct, hwaiting.known, hwaiting.heard, hwaiting.covered⟩, h.watched⟩
  | @next patch c _ _ _ first course answering =>
    have hsame : b.subscribed = c.subscribed := by
      obtain ⟨_, -, rfl⟩ := nextPatch?_eq_some_iff.mp first
      rfl
    exact ⟨h.abreast.takes (takes_of_next first course) answering,
      watched_of_course_perform course answering (h.watched.trans hsame)⟩
  | drain course answering =>
    exact ⟨h.abreast.takes (takes_of_drain course) answering,
      watched_of_course_perform course answering h.watched⟩

lemma command {command : Command} (h : InStep b s)
    (course : (b.perform (.command command)).Course log b') (answering : s.Answering log t) :
    InStep b' t := by
  refine ⟨?_, watched_of_course_perform course answering h.watched⟩
  obtain ⟨outcome, hhandle⟩ := course_perform_command_iff.mp course
  obtain ⟨rest, rfl, hhandles⟩ := course_handle hhandle
  obtain ⟨u, hopening, hanswering⟩ := Store.Answering.append_iff.mp answering
  exact (h.abreast.base hopening).handles hhandles hanswering

lemma teardown (h : InStep b s) (course : (b.perform .teardown).Course log b')
    (answering : s.Answering log t) : InStep b' t := by
  refine ⟨?_, watched_of_course_perform course answering h.watched⟩
  obtain ⟨rfl, rfl⟩ := course_perform_teardown_iff.mp course
  exact h.abreast.released answering

end InStep

lemma Together.inStep (h : Together b s) : InStep b s := by
  induction h with
  | new query watched sent =>
    refine ⟨⟨List.nodup_nil, by simp [Board.new], by simp [Board.new, sent, empty],
      by simp [Board.new]⟩, ?_⟩
    ext id
    simp [subscribed, Board.new, watched]
  | hears _ hears ih => exact ih.hears hears
  | command _ course answering ih => exact ih.command course answering
  | teardown _ course answering ih => exact ih.teardown course answering

/-! ### After a page has been loaded -/

/-- What can happen while the user asks for nothing. -/
inductive Later (b : Board) (s : Store) : Board → Store → Prop
  | same : Later b s b s
  | hears {c d : Board} {t u : Store} (before : Later b s c t) (hears : c.Hears t d u) :
      Later b s d u

/-- A page has been loaded with every subscription accepted, which left the backend as `loaded`;
and since then all patches that were sent have arrived and been taken in. -/
inductive CaughtUp : (loaded : Store) → Board → Store → Prop
  | intro {b c d : Board} {s t u : Store} {log : BoardLog} (before : Together b s)
      (course : b.load.Course log (c, true)) (answering : s.Answering log t)
      (accepting : ∀ id, Accepting id log) (later : Later c t d u) (taken : d.live.inbox = [])
      (arrived : u.sent = []) : CaughtUp t d u

lemma Followed.foldl_patched {m : Option (List RunId)} (h : Followed m b.rows b.live) :
    Followed m (patches.foldl Board.patched b).rows (patches.foldl Board.patched b).live := by
  induction patches generalizing b with
  | nil => exact h
  | cons patch patches ih => exact ih (h.patched patch)

lemma Followed.hears {m : Option (List RunId)} (h : Followed m b.rows b.live)
    (hears : b.Hears s b' t) : Followed m b'.rows b'.live := by
  have htakes : ∀ {log}, b.Takes log b' → Followed m b'.rows b'.live := by
    rintro _ ⟨⟩
    exact Followed.foldl_patched (b := { b with live := { b.live with inbox := _ } })
      (h.congr_ids rfl)
  cases hears with
  | change => exact h
  | receive => exact h.congr_ids rfl
  | next first course _ => exact htakes (takes_of_next first course)
  | drain course _ => exact htakes (takes_of_drain course)

/-- Changes of a subscribed run do not go unsent. -/
lemma Hears.unsent_of_watched (h : b.Hears s b' t) (hwatched : id ∈ t.watched)
    (hunsent : id ∈ t.unsent) : id ∈ s.watched ∧ id ∈ s.unsent := by
  have htakes : ∀ {log}, b.Takes log b' → s.Answering log t → id ∈ s.watched ∧ id ∈ s.unsent := by
    rintro _ ⟨⟩ answering
    exact answering.unsent_of_watched hwatched hunsent
  cases h with
  | change may =>
    have changes : s.Answering (releasing []) (s.change _) := .change may (.done _)
    exact changes.unsent_of_watched hwatched hunsent
  | receive => exact ⟨hwatched, hunsent⟩
  | next first course answering => exact htakes (takes_of_next first course) answering
  | drain course answering => exact htakes (takes_of_drain course) answering

namespace Later

lemma inStep (h : Later b s b' t) (inStep : InStep b s) : InStep b' t := by
  induction h with
  | same => exact inStep
  | hears _ hears ih => exact ih.hears hears

lemma keeps {m : Option (List RunId)} (h : Later b s b' t)
    (hfollowed : Followed m b.rows b.live) : Followed m b'.rows b'.live := by
  induction h with
  | same => exact hfollowed
  | hears _ hears ih => exact ih.hears hears

lemma unsent_of_watched (h : Later b s b' t) (hwatched : id ∈ t.watched)
    (hunsent : id ∈ t.unsent) : id ∈ s.unsent := by
  induction h with
  | same => exact hunsent
  | hears _ hears ih =>
    obtain ⟨hbefore, hmissed⟩ := hears.unsent_of_watched hwatched hunsent
    exact ih hbefore hmissed

end Later

/-- Once a page has been loaded with every subscription accepted, exactly the rows in flight are
subscribed. -/
lemma InStep.followed_of_load (h : InStep b s) (course : b.load.Course log (b', true))
    (answering : s.Answering log t) (accepting : ∀ id, Accepting id log) :
    Followed (some []) b'.rows b'.live := by
  have loads := course_load course
  have hdistinct : Distinct b'.rows := (h.abreast.loads loads answering).distinct
  cases loads with
  | shown page arrived follows =>
    have hiff : ∀ id, id ∈ b'.live ↔ wants b'.rows id = true := by
      intro id
      have haccepting : Accepting id ([.asked (.list b.query) ⟨.ok page, arrived⟩] ++ _) :=
        accepting id
      rw [follows.rows_eq]
      exact follows.mem_live_iff haccepting.append.2
    exact ⟨hdistinct, fun id hid => (hiff id).mp hid,
      fun _ _ id hwants => Or.inl ((hiff id).mpr hwants)⟩

/-- **Subscribed rows are current unless a change went unsent.**  Let a page be loaded, with runs
changing at any time in between the calls and every subscription accepted, and then let all patches
be taken in that have been sent.  The rows in flight are exactly those that are subscribed, and no
further change of such a run goes unsent.  If the run has kept to the order of statuses, its row
agrees with the current record unless its last change came after the page was listed and before the
subscription took effect; and so the run is then in flight as it is shown. -/
theorem current_unless_unsent {loaded s : Store} {b : Board} (caughtUp : CaughtUp loaded b s)
    {row : Run} (hrow : row ∈ b.rows) :
    (row.id ∈ b.live ↔ row.isInFlight = true) ∧
    (row.id ∈ b.live → row.id ∈ s.watched ∧ (row.id ∈ s.unsent → row.id ∈ loaded.unsent) ∧
      ∃ current, s.record? row.id = some current ∧
        (row.id ∉ s.strayed →
          (row.Agrees current ↔ row.id ∉ s.unsent) ∧
          (row.id ∉ s.unsent → current.isInFlight = true))) := by
  obtain ⟨before, course, answering, accepting, later, taken, arrived⟩ := caughtUp
  have hload := before.inStep.command (course_refresh course) answering
  have hend := later.inStep hload
  have hfollowed := later.keeps (before.inStep.followed_of_load course answering accepting)
  have hlive : row.id ∈ b.live ↔ row.isInFlight = true := hfollowed.mem_live_iff hrow
  refine ⟨hlive, fun hid => ?_⟩
  have hwatched : row.id ∈ s.watched := by
    have hmem : row.id ∈ b.subscribed := hid
    rwa [← hend.watched] at hmem
  obtain ⟨current, hrecord, -⟩ := hend.abreast.known row hrow
  have hagrees : row.id ∉ s.strayed → row.id ∉ s.unsent → row.Agrees current := by
    intro hstrayed hunsent
    rcases hend.abreast.covered row hrow hid hstrayed hunsent with
      ⟨current', hrecord', hsame⟩ | ⟨p, hp, -⟩
    · obtain rfl := Option.some.inj (hrecord.symm.trans hrecord')
      exact hsame
    · -- no patch waits any more
      rw [taken, arrived] at hp
      exact absurd hp List.not_mem_nil
  refine ⟨hwatched, later.unsent_of_watched hwatched, current, hrecord, fun hstrayed => ?_⟩
  refine ⟨⟨fun hsame => ?_, hagrees hstrayed⟩, fun hunsent => ?_⟩
  · exact (hend.abreast.known row hrow).notMem_unsent hstrayed ⟨current, hrecord, hsame⟩
  · rw [← (hagrees hstrayed hunsent).isInFlight_eq]
    exact hlive.mp hid

/-- What loading a page with one run comes to. -/
def loadOf (r : Run) : BoardLog × Board × Bool :=
  (Board.new (.of none 1 10 false)).load.play (answerWith ⟨[r], 1⟩ "refused")

/-- The board after the patches have arrived that were sent since, and have been taken in. -/
def drainedOf (r : Run) (sent : List Patch) : Deed × Board :=
  ((loadOf r).2.1.receive sent).act .drain (answerWith ⟨[r], 1⟩ "refused")

/-- A run may change after the page has been listed, which leaves the backend as `listed`, and after
its subscription has taken effect, which leaves it as `last`. -/
lemma caughtUp_of_changes {r : Run} {listed last : Store} (hid : r.id ≠ "refused")
    (hshown : (loadOf r).2.2 = true)
    (hlog : (loadOf r).1 = [.asked (.list (.of none 1 10 false)) ⟨.ok ⟨[r], 1⟩, []⟩,
      .asked (.subscribeAll [r.id]) (answerWith ⟨[r], 1⟩ "refused" _)])
    (between : (Store.of r).Answering [] listed) (hsent : listed.sent = [])
    (later : Later (loadOf r).2.1 (listed.watch r.id) (loadOf r).2.1 last)
    (hkept : (drainedOf r last.sent).1.log = []) :
    CaughtUp (listed.watch r.id) (drainedOf r last.sent).2 { last with sent := [] } := by
  have course : (Board.new (.of none 1 10 false)).load.Course (loadOf r).1
      ((loadOf r).2.1, true) := by
    rw [← hshown]
    exact Task.course_play _ _
  have answering : (Store.of r).Answering (loadOf r).1 (listed.watch r.id) := by
    have hlists : (Store.of r).Lists ⟨[r], 1⟩ := by
      refine ⟨List.nodup_singleton _, fun r' hr' => ?_⟩
      obtain rfl := List.mem_singleton.mp hr'
      exact ⟨r', by simp [Store.of], .refl r'⟩
    have hopens : listed.Opens [r.id] (listed.watch r.id) := .watch .start r.id
    rw [hlog]
    refine .moment (.list hlists (List.append_nil []).symm) (Store.Answering.cons_iff.mpr ?_)
    have hsame : { listed.watch r.id with sent := [] } = listed.watch r.id := by
      rw [← hsent]
      rfl
    have hqueue : (listed.watch r.id).sent = [] ++ [] := hsent
    refine ⟨listed, _, between, .subscribeAll hopens (fun id => ?_) hqueue, ?_⟩
    · rw [List.mem_singleton]
      refine (and_iff_left_of_imp ?_).symm
      rintro rfl
      simp [hid, Except.isOk, Except.toBool]
    · rw [hsame]
      exact .done _
  have accepting : ∀ id, Accepting id (loadOf r).1 := by
    intro id ids answer hmem
    simp only [hlog, List.mem_cons, List.not_mem_nil, or_false] at hmem
    rcases hmem with hlist | hbatch
    · cases hlist
    · cases hbatch
      refine ⟨_, rfl, fun hmem => ?_⟩
      obtain rfl := List.mem_singleton.mp hmem
      simp [hid, Except.isOk, Except.toBool]
  have drain : (((loadOf r).2.1.receive last.sent).perform .drain).Course
      (drainedOf r last.sent).1.log (drainedOf r last.sent).2 := course_act _ _ _
  have taken : (drainedOf r last.sent).2.live.inbox = [] := inbox_of_drain drain
  refine .intro (.new _ rfl rfl) course answering accepting
    (.hears (.hears later (.receive (List.append_nil _).symm)) (.drain drain ?_)) taken rfl
  rw [hkept]
  exact .done _

/-- A run of which a pending record is loaded, and which is taken up once it is subscribed. -/
theorem current_unless_unsent_of_sent :
    ∃ row ∈ (drainedOf (.stamped "a" .pending 1) [⟨.update, .stamped "a" .processing 2⟩]).2.rows,
      row.isInFlight = true ∧ row.Agrees (.stamped "a" .processing 2) := by
  have may : ((Store.of (.stamped "a" .pending 1)).watch "a").MayChange
      (.stamped "a" .processing 2) := by
    intro old hold
    obtain rfl := Option.some.inj hold
    rfl
  have caughtUp : CaughtUp _ _ _ :=
    caughtUp_of_changes (r := .stamped "a" .pending 1) (by simp [Run.stamped, Run.bare]) rfl rfl
      (.done _) rfl (.hears .same (.change may)) rfl
  have hrow : Run.stamped "a" .processing 2 ∈
      (drainedOf (.stamped "a" .pending 1) [⟨.update, .stamped "a" .processing 2⟩]).2.rows :=
    List.mem_singleton_self _
  obtain ⟨hlive, hcurrent⟩ := current_unless_unsent caughtUp hrow
  obtain ⟨-, -, current, hrecord, hkept⟩ := hcurrent (hlive.mpr rfl)
  obtain rfl := Option.some.inj hrecord
  exact ⟨_, hrow, rfl, (hkept (by decide)).1.mpr (by decide)⟩

/-- Neither exception can be left out.  A run that ends after the page was listed and before its
subscription takes effect stays on show as pending; and a run that goes from processing back to
pending stays on show as processing, though a patch is sent. -/
theorem stale_after_unsent_change_or_straying :
    (¬ ∀ (loaded s : Store) (b : Board), CaughtUp loaded b s → ∀ row ∈ b.rows, row.id ∈ b.live →
      row.id ∉ s.strayed → ∃ current, s.record? row.id = some current ∧ row.Agrees current) ∧
    ¬ ∀ (loaded s : Store) (b : Board), CaughtUp loaded b s → ∀ row ∈ b.rows, row.id ∈ b.live →
      row.id ∉ s.unsent → ∃ current, s.record? row.id = some current ∧ row.Agrees current := by
  have hid : ∀ status, (Run.stamped "a" status 1).id ≠ "refused" := by
    simp [Run.stamped, Run.bare]
  have may : ∀ {s : Store} {status} (next : Status),
      s.record? "a" = some (.stamped "a" status 1) → s.MayChange (.stamped "a" next 2) := by
    intro s status next hrecord old hold
    obtain rfl := Option.some.inj (hrecord.symm.trans hold)
    rfl
  constructor
  · intro law
    have caughtUp : CaughtUp _ _ _ :=
      caughtUp_of_changes (hid .pending) rfl rfl
        (.change (may .succeeded rfl) (.done _)) rfl .same rfl
    obtain ⟨current, hrecord, hagrees⟩ :=
      law _ _ _ caughtUp (.stamped "a" .pending 1) (List.mem_singleton_self _) (by decide)
        (by decide)
    obtain rfl := Option.some.inj hrecord
    exact absurd hagrees.status_eq (by decide)
  · intro law
    have caughtUp : CaughtUp _ _ _ :=
      caughtUp_of_changes (hid .processing) rfl rfl (.done _) rfl
        (.hears .same (.change (may .pending rfl))) rfl
    obtain ⟨current, hrecord, hagrees⟩ :=
      law _ _ _ caughtUp (.stamped "a" .processing 1) (List.mem_singleton_self _) (by decide)
        (by decide)
    obtain rfl := Option.some.inj hrecord
    exact absurd hagrees.status_eq (by decide)

end RunBoard.Board
