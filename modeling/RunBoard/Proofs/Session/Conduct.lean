import RunBoard.Proofs.Session.Account

/-!
# Every run of a session can be accounted for

`Books` and `Work.Accounted` are the invariant of a run: an account of what is complete, and what
has been asked and told since.  The task at hand leaves open how the entry that has been begun will
end; whichever way, it will be an entry of the account.  The session leaves only after it has been
told to stop, or when nothing waits and nothing can be sent any more.
-/

namespace RunBoard.Session

open Board

variable {b b₀ c : Board} {s s' : Session} {told : Bool} {w : Work} {r : Running}
  {trace : List Happening} {entries : List Entry} {log rest : BoardLog} {begun : List Command}
  {frame : Option Frame}

/-! ### What the tasks of a session come to -/

lemma course_start
    (h : (s.start >>= fun p => pure (p.1, some p.2) : BoardTask (Session × Option Frame)).Course
      log (s', frame)) :
    ∃ replaced, s.board.load.Course log (s'.board, replaced) ∧
      frame = some ⟨.loaded, s'.board⟩ := by
  simp only [start, Task.course_bind_iff, Task.pure_eq_done, Task.course_done_iff,
    Prod.mk.injEq] at h
  obtain ⟨_, _, _, rfl, ⟨⟨d, replaced⟩, first, _, rfl, hload, rfl, rfl⟩, rfl, rfl, rfl⟩ := h
  exact ⟨replaced, by simpa using hload, rfl⟩

lemma course_obey {c : Command} {waiting : List Command}
    (h : (s.obey c waiting >>= fun p => pure (p.1, some p.2) :
      BoardTask (Session × Option Frame)).Course log (s', frame)) :
    ∃ outcome, (s.board.handle c).Course log (s'.board, outcome) ∧
      frame = some ⟨occasionOf c outcome, s'.board⟩ := by
  simp only [obey, Task.course_bind_iff, Task.pure_eq_done, Task.course_done_iff,
    Prod.mk.injEq] at h
  obtain ⟨_, _, _, rfl, ⟨⟨d, outcome⟩, first, _, rfl, hhandle, rfl, rfl⟩, rfl, rfl, rfl⟩ := h
  refine ⟨outcome, by simpa using hhandle, ?_⟩
  cases outcome <;> rfl

lemma course_absorb {p : Patch} (h : (s.absorb p b).Course log (s', frame)) :
    ∃ outcome, (b.applyPatch p).Course log (s'.board, outcome) ∧
      frame = if outcome.changed then some ⟨.patched p.record.id, s'.board⟩ else none := by
  simp only [absorb, Task.course_bind_iff, Task.pure_eq_done, Task.course_done_iff,
    Prod.mk.injEq] at h
  obtain ⟨⟨d, outcome⟩, first, _, rfl, happly, rfl, rfl, rfl⟩ := h
  exact ⟨outcome, by simpa using happly, rfl⟩

lemma course_stop (h : s.stop.Course log b) :
    log = releasing s.board.live.ids ∧ b = s.board.released := by
  simp only [stop, Task.course_bind_iff, Task.pure_eq_done, Task.course_done_iff] at h
  obtain ⟨⟨d, count⟩, first, _, rfl, hdown, rfl, rfl⟩ := h
  obtain ⟨rfl, rfl, -⟩ := course_teardown_iff.mp hdown
  exact ⟨List.append_nil _, rfl⟩

/-! ### The invariant -/

/-- What a trace tells is in the books: what is complete in the entries, what has been asked and
told since in the log, and the command that has been begun. -/
structure Books (trace : List Happening) (s : Session) (told : Bool) (entries : List Entry)
    (log : BoardLog) (begun : List Command) : Prop where
  shown : shown trace = entries.filterMap Entry.frame
  moments : momentsOf trace = entries.flatMap Entry.log ++ log
  delivered : delivered trace = entries.flatMap Entry.arrived ++ arrivals log
  commands : taken trace = entries.filterMap Entry.command? ++ begun ++ s.commands
  told : told = true ↔ .toldToStop ∈ trace

/-- A session may leave: it has been told to, or no command waits and none can be sent. -/
def MayLeave (s : Session) (told : Bool) : Prop :=
  told = true ∨ s.commands = [] ∧ s.isOpen = false

/-- How the work at hand continues the entries that are complete. -/
def Work.Accounted (b₀ : Board) (s : Session) (told : Bool) (entries : List Entry)
    (log : BoardLog) (begun : List Command) : Work → Prop
  | .idle => Account b₀ entries s.board ∧ log = [] ∧ begun = []
  | .chore task => ∃ item : Item, item.command?.toList = begun ∧ item.arrived = [] ∧
      ∀ rest s' frame, task.Course rest (s', frame) →
        Account b₀ (entries ++ [⟨item, log ++ rest, frame⟩]) s'.board
  | .leaving task => MayLeave s told ∧ begun = [] ∧ ∃ c, Account b₀ entries c ∧
      ∀ rest b, task.Course rest b → log ++ rest = releasing c.live.ids ∧ b = c.released
  | .returned b => MayLeave s told ∧ begun = [] ∧ ∃ c, Account b₀ entries c ∧
      log = releasing c.live.ids ∧ b = c.released

namespace Books

/-- Something is asked or told. -/
lemma moment (h : Books trace s told entries log begun)
    (m : Task.Moment Call Call.Answer Event) :
    Books (trace ++ [.moment m]) s told entries (log ++ [m]) begun where
  shown := by simp [h.shown]
  moments := by simp [h.moments]
  delivered := by cases m <;> simp [h.delivered, arrivedAt]
  commands := by simp [h.commands]
  told := by simp [h.told]

/-- The entry that has been begun is complete. -/
lemma finish {item : Item} (h : Books trace s told entries log item.command?.toList)
    (arrived : item.arrived = []) (commands : s'.commands = s.commands) :
    Books (trace ++ frame.toList.map .shown) s' told (entries ++ [⟨item, log, frame⟩]) [] [] where
  shown := by cases frame <;> simp [h.shown]
  moments := by cases frame <;> simp [h.moments]
  delivered := by cases frame <;> simp [h.delivered, Entry.arrived, arrived]
  commands := by
    cases frame <;> cases hitem : item.command? <;>
      simp [h.commands, Entry.command?, hitem, commands]
  told := by cases frame <;> simp [h.told]

end Books

/-- What the surroundings do to a session leaves its work accounted for. -/
lemma Work.Accounted.congr {told' : Bool} (h : w.Accounted b₀ s told entries log begun)
    (board : s'.board = s.board) (mayLeave : MayLeave s told → MayLeave s' told') :
    w.Accounted b₀ s' told' entries log begun := by
  cases w with
  | idle =>
    obtain ⟨haccount, hlog, hbegun⟩ := h
    exact ⟨board ▸ haccount, hlog, hbegun⟩
  | chore task => exact h
  | leaving task => exact ⟨mayLeave h.1, h.2⟩
  | returned b => exact ⟨mayLeave h.1, h.2⟩

/-- One step of a run keeps the books. -/
lemma books_of_step {r' : Running} {happened : List Happening}
    (books : Books trace r.session r.told entries log begun)
    (accounted : r.work.Accounted b₀ r.session r.told entries log begun)
    (step : Step r happened r') :
    ∃ entries' log' begun', Books (trace ++ happened) r'.session r'.told entries' log' begun' ∧
      r'.work.Accounted b₀ r'.session r'.told entries' log' begun' := by
  cases step with
  | own step =>
    cases step with
    | @command s told c rest turn =>
      obtain ⟨haccount, rfl, rfl⟩ := accounted
      obtain ⟨-, hcommands⟩ := turn_eq_command turn
      -- the command no longer waits, but has been begun
      refine ⟨entries, [], [c], ?_, .command c, rfl, rfl, fun rest' s' frame course => ?_⟩
      · rw [List.append_nil]
        exact { books with commands := by simp [books.commands, hcommands] }
      · obtain ⟨outcome, hhandle, rfl⟩ := course_obey course
        exact .obeyed haccount hhandle
    | @patch s told p board turn =>
      obtain ⟨haccount, rfl, rfl⟩ := accounted
      obtain ⟨-, hnext⟩ := turn_eq_patch turn
      refine ⟨entries, [], [], ?_, .patch p, rfl, rfl, fun rest' s' frame course => ?_⟩
      · rwa [List.append_nil]
      · obtain ⟨outcome, happly, rfl⟩ := course_absorb course
        exact .absorbed haccount hnext happly
    | @stop s told turn =>
      obtain ⟨haccount, rfl, rfl⟩ := accounted
      -- what is released from here on belongs to no entry
      refine ⟨entries, [], [], ?_, turn_eq_stop turn, rfl, s.board, haccount,
        fun _ _ course => course_stop course⟩
      rwa [List.append_nil]
    | @tell s told e task =>
      obtain ⟨item, hbegun, harrived, hcourse⟩ := accounted
      refine ⟨entries, log ++ [.told e], begun, books.moment _, item, hbegun, harrived,
        fun rest' s' frame course => ?_⟩
      simpa using hcourse _ s' frame (.tell course)
    | @giveUp s c k result _ arrived =>
      obtain ⟨item, hbegun, harrived, hcourse⟩ := accounted
      refine ⟨entries, log ++ [.asked c ⟨result, arrived⟩], begun, books.moment _, item, hbegun,
        harrived, fun rest' s' frame course => ?_⟩
      simpa using hcourse _ s' frame (.ask _ course)
    | @finish s s' told frame =>
      obtain ⟨item, rfl, harrived, hcourse⟩ := accounted
      refine ⟨_, [], [], books.finish harrived rfl, ?_, rfl, rfl⟩
      simpa using hcourse [] s' frame (.done _)
    | @release s told e task =>
      obtain ⟨hleave, rfl, c, haccount, hcourse⟩ := accounted
      refine ⟨entries, log ++ [.told e], [], books.moment _, hleave, rfl, c, haccount,
        fun rest' b course => ?_⟩
      simpa using hcourse _ b (.tell course)
    | @leave s told board =>
      obtain ⟨hleave, rfl, c, haccount, hcourse⟩ := accounted
      refine ⟨entries, log, [], by rwa [List.append_nil], hleave, rfl, c, haccount, ?_⟩
      simpa using hcourse [] board (.done _)
  | @answer s told c k answer _ _ =>
    obtain ⟨item, hbegun, harrived, hcourse⟩ := accounted
    refine ⟨entries, log ++ [.asked c answer], begun, books.moment _, item, hbegun, harrived,
      fun rest' s' frame course => ?_⟩
    simpa using hcourse _ s' frame (.ask _ course)
  | @send s told w c _ =>
    have hsend := send_eq s c
    refine ⟨entries, log, begun, ⟨?_, ?_, ?_, ?_, ?_⟩, accounted.congr (by rw [hsend]) ?_⟩
    · simp [books.shown]
    · simp [books.moments]
    · simp [books.delivered]
    · rw [taken_snoc, books.commands, hsend]
      cases hsent : (s.send c).2 <;> simp
    · simp [books.told]
    · -- a session that may leave since it is closed takes no more commands
      rintro (htold | ⟨hnil, hclosed⟩)
      · exact Or.inl htold
      · refine Or.inr ⟨?_, ?_⟩
        · rw [hsend, not_sent_of_closed hclosed]
          simpa using hnil
        · rw [hsend]
          exact hclosed
  | @close s told w =>
    refine ⟨entries, log, begun, ⟨?_, ?_, ?_, ?_, ?_⟩, accounted.congr rfl ?_⟩
    · simp [books.shown]
    · simp [books.moments]
    · simp [books.delivered]
    · simp [books.commands, close]
    · simp [books.told]
    · rintro (htold | ⟨hnil, -⟩)
      · exact Or.inl htold
      · exact Or.inr ⟨hnil, rfl⟩
  | @tellToStop s told w =>
    refine ⟨entries, log, begun, ⟨?_, ?_, ?_, ?_, ?_⟩, accounted.congr rfl fun _ => Or.inl rfl⟩
    · simp [books.shown]
    · simp [books.moments]
    · simp [books.delivered]
    · simp [books.commands]
    · simp
  | @receive s told patches =>
    obtain ⟨haccount, rfl, rfl⟩ := accounted
    refine ⟨entries ++ [⟨.arrival patches, [], none⟩], [], [], ⟨?_, ?_, ?_, ?_, ?_⟩,
      haccount.received patches, rfl, rfl⟩
    · simp [books.shown]
    · simp [books.moments]
    · simp [books.delivered, Entry.arrived, Item.arrived]
    · simp [books.commands, Entry.command?, Item.command?, List.filterMap_cons]
    · simp [books.told]

/-- The books are kept through the whole run. -/
lemma books_of_runs (runs : Runs (begin (.new b₀)) trace r) :
    ∃ entries log begun, Books trace r.session r.told entries log begun ∧
      r.work.Accounted b₀ r.session r.told entries log begun := by
  induction runs with
  | start =>
    refine ⟨[], [], [], ⟨rfl, rfl, rfl, rfl, by simp [begin]⟩, .load, rfl, rfl,
      fun rest s' frame course => ?_⟩
    obtain ⟨replaced, hload, rfl⟩ := course_start course
    exact .loaded hload
  | next _ step ih =>
    obtain ⟨entries, log, begun, books, accounted⟩ := ih
    exact books_of_step books accounted step

/-! ### The law -/

/-- **Every run that returns can be accounted for.**  Whatever its surroundings do, a session that
returns has shown the first page first, and only once; then it has answered commands one each, in
the order in which they were sent, and all of them unless it was told to stop; and it has taken in
patches in the order in which they arrived.  What was shown, asked and told is what stands in the
account, followed by the release of everything.  At the end no run is subscribed and no patch waits,
and of each run there were as many releases as it had been subscribed, or been in a batch that was
given up. -/
theorem accounted_for {b₀ b : Board} {trace : List Happening} {r : Running}
    (runs : Runs (begin (.new b₀)) trace r) (returned : r.work = .returned b) :
    ∃ (entries : List Entry) (c : Board) (unhandled : List Command),
      Account b₀ entries c ∧ b = c.released ∧
      shown trace = entries.filterMap Entry.frame ∧
      momentsOf trace = entries.flatMap Entry.log ++ releasing c.live.ids ∧
      (∃ first later, shown trace = ⟨.loaded, first⟩ :: later ∧
        ∀ f ∈ later, f.occasion ≠ .loaded) ∧
      taken trace = entries.filterMap Entry.command? ++ unhandled ∧
      (.toldToStop ∉ trace → unhandled = []) ∧
      List.Forall₂ Answers (entries.filterMap Entry.command?)
        ((shown trace).filter Frame.answers) ∧
      (entries.filterMap Entry.patch?).Sublist (b₀.live.inbox ++ delivered trace) ∧
      b.live = .empty ∧
      ∀ id, (momentsOf trace).countP (isUnsubscribe id) =
        (momentsOf trace).countP (isRegistration id) +
          (momentsOf trace).countP (isAbandonment id) + presence id b₀.live := by
  obtain ⟨entries, log, begun, books, accounted⟩ := books_of_runs runs
  rw [returned] at accounted
  obtain ⟨hleave, rfl, c, haccount, rfl, rfl⟩ := accounted
  have hpatches := (List.sublist_append_left _ _).trans haccount.patches
  obtain ⟨deeds, history, hlog⟩ := haccount.history
  refine ⟨entries, c, r.session.commands, haccount, rfl, books.shown, books.moments, ?_, ?_, ?_,
    ?_, ?_, rfl, fun id => ?_⟩
  · rw [books.shown]
    exact haccount.frames_eq
  · simpa using books.commands
  · intro hnot
    rcases hleave with htold | ⟨hnil, -⟩
    · exact absurd (books.told.mp htold) hnot
    · exact hnil
  · rw [books.shown]
    exact haccount.answered
  · rw [books.delivered]
    simpa using hpatches
  · have hbalanced : Board.Balanced id b₀ (logOf deeds ++ releasing c.live.ids) c.released :=
      (Board.Balanced.history history).trans (Board.Balanced.released c)
    rw [hlog, ← books.moments] at hbalanced
    simpa [Board.Balanced, Board.released] using hbalanced

/-- Two commands are sent, the first for a run that is not on the page; a patch arrives with the
answer to the subscriptions; and the session is told to stop before it gets to the second command.
-/
lemma rejected_patched_and_told_to_stop :
    ∃ trace r b, Runs (begin (.new (.new (.of none 1 10 false)))) trace r ∧ r.work = .returned b ∧
      taken trace = [.openDetail "z", .refresh] ∧
      (shown trace).map Frame.occasion =
        [.loaded, .rejected (.notOnPage "z"), .patched "a"] := by
  have loading : Runs (begin (.new (.new (.of none 1 10 false)))) [] _ := .start
  have listed := loading.next (.answer (c := .list (.of none 1 10 false))
    ⟨.ok ⟨[.bare "a" .pending], 1⟩, []⟩ trivial fun _ => rfl)
  have sent := listed.next (.send (.openDetail "z") (by simp))
  have subscribed := sent.next (.answer (c := .subscribeAll ["a"])
    ⟨some fun _ => .ok true, [⟨.update, .bare "a" .processing⟩]⟩ rfl fun _ => rfl)
  have loaded := subscribed.next (.own .finish)
  have begun := loaded.next (.own (.command (c := .openDetail "z") rfl))
  have rejected := begun.next (.own .finish)
  have patched := (rejected.next (.own (.patch rfl))).next (.own .finish)
  have told := (patched.next (.send .refresh (by simp))).next .tellToStop
  have released := (told.next (.own (.stop rfl))).next (.own .release)
  exact ⟨_, _, _, released.next (.own .leave), rfl, rfl, rfl⟩

theorem accounted_for_rejected_and_patched :
    ∃ trace r b, Runs (begin (.new (.new (.of none 1 10 false)))) trace r ∧ r.work = .returned b ∧
      (shown trace).map Frame.occasion = [.loaded, .rejected (.notOnPage "z"), .patched "a"] ∧
      (∃ (entries : List Entry) (unhandled : List Command),
        taken trace = [.openDetail "z", .refresh] ∧
        taken trace = entries.filterMap Entry.command? ++ unhandled ∧
        List.Forall₂ Answers (entries.filterMap Entry.command?)
          ((shown trace).filter Frame.answers)) ∧
      b.live = .empty ∧
      (momentsOf trace).countP (isUnsubscribe "a") =
        (momentsOf trace).countP (isRegistration "a") +
          (momentsOf trace).countP (isAbandonment "a") + presence "a" .empty := by
  obtain ⟨trace, r, b, runs, returned, htaken, hshown⟩ := rejected_patched_and_told_to_stop
  obtain ⟨entries, -, unhandled, -, -, -, -, -, hcommands, -, hanswers, -, hlive, hcounts⟩ :=
    accounted_for runs returned
  exact ⟨trace, r, b, runs, returned, hshown, ⟨entries, unhandled, htaken, hcommands, hanswers⟩,
    hlive, hcounts "a"⟩

end RunBoard.Session
