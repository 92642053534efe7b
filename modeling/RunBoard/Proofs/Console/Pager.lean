import RunBoard.Console.Input
import RunBoard.Proofs.Board.Paging

/-!
# The pager and the query

Lines are read on one side and the board is shown on the other.  The pager holds the page that was
asked for last and the board the query that it shows a page of, and all that goes from one side to
the other are commands.  Both sides count a page of zero as one, and both go back to the first page
with another workflow; nobody compares the two.

`Pager.Reads` says what a line can do to a pager: it stays, goes to a page, or goes back to the
first one.  In each case the command of the line, if there is one, does the same to the query.  So
the two agree after every line (`page_of_pager_eq_page_of_query`), whatever becomes of the pages
that are asked for, and whatever else happens to the board in the meantime.
-/

namespace RunBoard

open RunBoard.Text RunBoard.Board

/-! ### The queries of a board -/

namespace Command

/-- The query of a board after a command. -/
def target (q : Query) (c : Command) : Query :=
  (Operation.command c).target q

end Command

namespace Board

/-- The command that a deed carries out. -/
def Deed.command? (deed : Deed) : Option Command :=
  match deed.operation with
  | .command c => some c
  | .receive _ | .apply _ | .take | .drain | .teardown => none

/-- Nothing but commands changes the query, and each does so whatever the backend answers. -/
lemma query_of_commands {b b' : Board} {deeds : List Deed} (h : History b deeds b') :
    b'.query = (deeds.filterMap Deed.command?).foldl Command.target b.query := by
  induction h with
  | start => rfl
  | @next deeds c d deed _ course ih =>
    rw [List.filterMap_append, List.foldl_append, ← ih, (query_of_course_perform course).1]
    obtain ⟨operation, log⟩ := deed
    cases operation <;> rfl

end Board

/-! ### What a line does to a pager -/

/-- The command of an input. -/
def Input.command? : Input → Option Command
  | .command c => some c
  | .help | .quit | .empty | .invalid _ => none

namespace Pager

variable {p p' : Pager} {q : Query} {line : String} {input : Input}

/-- Whether a line begins with the word that asks for the next page. -/
def AsksForNext (line : String) : Prop :=
  (words line).head? = some "n" ∨ (words line).head? = some "next"

/-- What can come of a line. -/
inductive Reads (p : Pager) (line : String) : Option (Input × Pager) → Prop
  | stays {input : Input} (h : ∀ c, input.command? = some c → (Operation.command c).turns = false) :
      Reads p line (some (input, p))
  | goes (page perPage : Nat) : Reads p line (some (goTo page perPage))
  | filters (workflow : Option String) :
      Reads p line (some (.command (.setWorkflow workflow), { p with page := 1 }))
  | overflows (next : AsksForNext line) (last : greatest ≤ p.page) : Reads p line none

namespace Reads

/-- A command that turns to no page. -/
lemma command {c : Command} (h : (Operation.command c).turns = false) :
    p.Reads line (some (.command c, p)) :=
  .stays fun _ hc => Option.some.inj hc ▸ h

/-- A line that holds no command. -/
lemma none (h : input.command? = Option.none) : p.Reads line (some (input, p)) :=
  .stays fun c hc => by rw [h] at hc; cases hc

lemma withRun {verb : String} {args : List String} {c : RunId → Command}
    (h : ∀ id, (Operation.command (c id)).turns = false) :
    p.Reads line (some (Pager.withRun verb args c, p)) := by
  unfold Pager.withRun
  split
  · exact command (h _)
  · exact none rfl

/-- The page behind the one that was asked for last. -/
lemma next (h : AsksForNext line) :
    p.Reads line (if p.page < greatest then some (goTo (p.page + 1) p.perPage) else .none) := by
  split
  · exact goes _ _
  · rename_i hlast
    exact overflows h (Nat.le_of_not_lt hlast)

end Reads

lemma reads_read? (p : Pager) (line : String) : p.Reads line (p.read? line) := by
  unfold read?
  split
  · exact .none rfl
  · rename_i verb args hwords
    split
    -- the verbs in the order in which they are tried, each with its short forms
    case h_1 | h_2 | h_3 | h_4 | h_5 | h_6 => exact .none rfl
    case h_7 | h_8 => exact .command rfl
    case h_9 => exact .next (.inl (by rw [hwords]; rfl))
    case h_10 => exact .next (.inr (by rw [hwords]; rfl))
    case h_11 => exact .goes _ _
    case h_12 | h_13 =>
      split
      · exact .goes _ _
      · exact .goes _ _
      · exact .none rfl
    case h_14 | h_15 =>
      split
      · exact .filters _
      · exact .filters _
      · exact .none rfl
    case h_16 | h_17 | h_19 | h_20 | h_21 | h_23 => exact .withRun fun _ => rfl
    case h_18 | h_22 | h_24 => exact .command rfl
    case h_25 =>
      split
      · exact .command rfl
      · exact .none rfl

/-- The only line that cannot be read asks for the page behind the greatest one. -/
lemma read?_eq_none_iff : p.read? line = none ↔ AsksForNext line ∧ greatest ≤ p.page := by
  constructor
  · intro h
    have hreads := p.reads_read? line
    rw [h] at hreads
    cases hreads with
    | overflows next last => exact ⟨next, last⟩
  · rintro ⟨hnext, hlast⟩
    have hfull : ¬ p.page < greatest := Nat.not_lt.mpr hlast
    unfold read?
    rcases hnext with hword | hword
    · obtain ⟨args, hwords⟩ := List.head?_eq_some_iff.mp hword
      simp [hwords, hfull]
    · obtain ⟨args, hwords⟩ := List.head?_eq_some_iff.mp hword
      simp [hwords, hfull]

/-! ### Pager and query side by side -/

/-- Whether a pager stands at the page of a query. -/
structure StandsAt (p : Pager) (q : Query) : Prop where
  page : p.page = q.page
  perPage : p.perPage = q.perPage

/-- Going to a page, with the query of the command that does so on the other side. -/
lemma standsAt_goTo (q : Query) (page perPage : Nat) :
    (goTo page perPage).2.StandsAt
      (((goTo page perPage).1.command?.toList).foldl Command.target q) :=
  ⟨(Nat.max_eq_left (Nat.le_max_right page 1)).symm,
    (Nat.max_eq_left (Nat.le_max_right perPage 1)).symm⟩

/-- After a line the pager stands at the query that the command of the line leads to. -/
lemma StandsAt.read (h : p.StandsAt q) (read : p.read? line = some (input, p')) :
    p'.StandsAt (input.command?.toList.foldl Command.target q) := by
  have hreads := p.reads_read? line
  rw [read] at hreads
  generalize hcome : some (input, p') = come at hreads
  cases hreads with
  | stays hstays =>
    obtain ⟨rfl, rfl⟩ := Prod.mk.inj (Option.some.inj hcome)
    cases hcommand : input.command? with
    | none => exact h
    | some c =>
      have hsame : Command.target q c = q :=
        Operation.target_of_not_turns (by simp [hstays c hcommand])
      simpa [hsame] using h
  | goes page perPage =>
    obtain ⟨rfl, rfl⟩ := Prod.mk.inj (Option.some.inj hcome)
    exact standsAt_goTo q page perPage
  | filters workflow =>
    obtain ⟨rfl, rfl⟩ := Prod.mk.inj (Option.some.inj hcome)
    exact ⟨rfl, h.perPage.trans (Nat.max_eq_left q.perPage_pos).symm⟩
  | overflows => cases hcome

/-- Reads lines one after the other, as long as they can be read. -/
def readAll? (p : Pager) : List String → Option (List Input × Pager)
  | [] => some ([], p)
  | line :: lines => do
    let (input, p) ← p.read? line
    let (inputs, p) ← p.readAll? lines
    return (input :: inputs, p)

lemma StandsAt.readAll {lines : List String} {inputs : List Input} (h : p.StandsAt q)
    (read : p.readAll? lines = some (inputs, p')) :
    p'.StandsAt ((inputs.filterMap Input.command?).foldl Command.target q) := by
  induction lines generalizing p q inputs with
  | nil =>
    obtain ⟨rfl, rfl⟩ := Prod.mk.inj (Option.some.inj read)
    exact h
  | cons line lines ih =>
    simp only [readAll?, Option.bind_eq_bind, Option.bind_eq_some_iff, Option.pure_def,
      Option.some.injEq, Prod.mk.injEq, Prod.exists] at read
    obtain ⟨input, mid, hline, rest, last, hlines, rfl, rfl⟩ := read
    have hrest := ih (h.read hline) hlines
    rw [← List.foldl_append] at hrest
    cases hcommand : input.command? <;> simpa [List.filterMap_cons, hcommand] using hrest

/-- **The pager stands at the page of the query.**  Take a pager that stands at the query of a
board, read any lines, and let the board carry out the commands that they hold, in their order, with
any answers of the backend, while patches arrive and are taken in and subscriptions are released.
Then the pager still stands at the query, on a page and with a size of at least one.  It reads every
further line but one that asks for the page behind the greatest. -/
theorem page_of_pager_eq_page_of_query {b b' : Board} {deeds : List Deed} {lines : List String}
    {inputs : List Input}
    (read : (Pager.mk b.query.page b.query.perPage).readAll? lines = some (inputs, p))
    (history : History b deeds b')
    (handled : deeds.filterMap Deed.command? = inputs.filterMap Input.command?) :
    p.page = b'.query.page ∧ p.perPage = b'.query.perPage ∧ 1 ≤ p.page ∧ 1 ≤ p.perPage ∧
      ∀ line, p.read? line = none ↔ AsksForNext line ∧ greatest ≤ p.page := by
  have hstands : p.StandsAt b'.query := by
    rw [query_of_commands history, handled]
    exact StandsAt.readAll ⟨rfl, rfl⟩ read
  refine ⟨hstands.page, hstands.perPage, ?_, ?_, fun _ => read?_eq_none_iff⟩
  · rw [hstands.page]
    exact b'.query.page_pos
  · rw [hstands.perPage]
    exact b'.query.perPage_pos

/-- Lines that go to pages with a size of zero and before the first, one that is not understood, and
one that changes the workflow. -/
def typedLines : List String :=
  ["page 3 0", "wf a b", "n", " workflow  w ", "page 0 7", "t a", "prev"]

/-- What a board does meanwhile: the second and the last page cannot be loaded, and a patch is taken
in between. -/
def typedDeeds : List Deed × Board :=
  let page : Page := ⟨[.bare "a" .pending, .bare "b" .succeeded], 2⟩
  (Board.new (.of none 1 10 false)).acts [
    (.command (.setPage 3 1), answerWith page "b"), (.command (.setPage 4 1), offline),
    (.command (.setWorkflow (some "w")), answerWith page "b"),
    (.apply ⟨.update, .bare "a" .processing⟩, offline),
    (.command (.setPage 1 7), answerWith page "b"), (.command (.toggle "a"), offline),
    (.command (.setPage 1 7), offline)]

theorem page_of_pager_eq_page_of_query_of_failures :
    ∃ p, ((Pager.mk 1 10).readAll? typedLines).map Prod.snd = some p ∧
      p.page = typedDeeds.2.query.page ∧ p.perPage = typedDeeds.2.query.perPage ∧
      typedDeeds.2.lastError = some "transport error: down" := by
  have read : ∃ inputs, (Pager.mk 1 10).readAll? typedLines = some (inputs, ⟨1, 7⟩) ∧
      inputs.filterMap Input.command? = typedDeeds.1.filterMap Deed.command? := ⟨_, rfl, rfl⟩
  obtain ⟨inputs, hread, hsame⟩ := read
  have history : History (.new (.of none 1 10 false)) typedDeeds.1 typedDeeds.2 :=
    history_of_acts _ _
  obtain ⟨hpage, hperPage, -⟩ := page_of_pager_eq_page_of_query hread history hsame.symm
  exact ⟨_, by rw [hread]; rfl, hpage, hperPage, rfl⟩

end Pager

end RunBoard
