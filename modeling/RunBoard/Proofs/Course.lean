import Mathlib.Tactic.Common
import RunBoard.Task

/-!
# The courses of a task

A task leaves open what its questions are answered with.  `Task.Course` relates it to everything
that can come of it: a course is the list of what is told and of what is asked, with the answers,
and it leads to the value with which the task ends.  Statements about every answer of the
surroundings are statements about every course.

The courses of a composed task are taken apart by `course_bind_iff`; `Task.play` computes the course
for given answers.
-/

namespace RunBoard.Task

variable {Q : Type} {A : Q → Type} {E α β : Type}

/-- One thing that happens while a task is carried out. -/
inductive Moment (Q : Type) (A : Q → Type) (E : Type) where
  | told (event : E)
  | asked (question : Q) (answer : A question)

/-- `t.Course log a`: the task can tell and ask what stands in `log`, in this order, and then end
with `a`. -/
inductive Course : Task Q A E α → List (Moment Q A E) → α → Prop
  | done (a : α) : Course (done a) [] a
  | tell {e : E} {t : Task Q A E α} {log : List (Moment Q A E)} {a : α} :
      Course t log a → Course (tell e t) (.told e :: log) a
  | ask {q : Q} {k : A q → Task Q A E α} {log : List (Moment Q A E)} {a : α} (answer : A q) :
      Course (k answer) log a → Course (ask q k) (.asked q answer :: log) a

variable {log : List (Moment Q A E)}

/-! ### The courses of each kind of task -/

@[simp] lemma course_done_iff {a b : α} :
    (done a : Task Q A E α).Course log b ↔ log = [] ∧ b = a := by
  constructor
  · rintro ⟨⟩
    exact ⟨rfl, rfl⟩
  · rintro ⟨rfl, rfl⟩
    exact .done _

@[simp] lemma course_tell_iff {e : E} {t : Task Q A E α} {a : α} :
    (tell e t).Course log a ↔ ∃ rest, log = .told e :: rest ∧ t.Course rest a := by
  constructor
  · rintro (_ | h)
    exact ⟨_, rfl, h⟩
  · rintro ⟨rest, rfl, h⟩
    exact .tell h

@[simp] lemma course_ask_iff {q : Q} {k : A q → Task Q A E α} {a : α} :
    (ask q k).Course log a ↔
      ∃ answer rest, log = .asked q answer :: rest ∧ (k answer).Course rest a := by
  constructor
  · rintro (_ | _ | ⟨answer, h⟩)
    exact ⟨answer, _, rfl, h⟩
  · rintro ⟨answer, rest, rfl, h⟩
    exact .ask answer h

/-- A course of a composed task is a course of its first part, followed by one of what comes
next. -/
lemma course_bind_iff {t : Task Q A E α} {f : α → Task Q A E β} {b : β} :
    (t >>= f).Course log b ↔
      ∃ a first rest, log = first ++ rest ∧ t.Course first a ∧ (f a).Course rest b := by
  induction t generalizing log with
  | done a => simp
  | tell e t ih =>
    simp only [tell_bind, course_tell_iff, ih]
    constructor
    · rintro ⟨_, rfl, a, first, rest, rfl, ht, hf⟩
      exact ⟨a, .told e :: first, rest, rfl, ⟨first, rfl, ht⟩, hf⟩
    · rintro ⟨a, _, rest, rfl, ⟨first, rfl, ht⟩, hf⟩
      exact ⟨_, rfl, a, first, rest, rfl, ht, hf⟩
  | ask q k ih =>
    simp only [ask_bind, course_ask_iff, ih]
    constructor
    · rintro ⟨answer, _, rfl, a, first, rest, rfl, ht, hf⟩
      exact ⟨a, .asked q answer :: first, rest, rfl, ⟨answer, first, rfl, ht⟩, hf⟩
    · rintro ⟨a, _, rest, rfl, ⟨answer, first, rfl, ht⟩, hf⟩
      exact ⟨answer, _, rfl, a, first, rest, rfl, ht, hf⟩

@[simp] lemma course_emit_iff {e : E} {u : Unit} :
    (emit e : Task Q A E Unit).Course log u ↔ log = [.told e] := by
  simp [emit]

@[simp] lemma course_emitAll_iff {es : List E} {u : Unit} :
    (emitAll es : Task Q A E Unit).Course log u ↔ log = es.map .told := by
  induction es generalizing log with
  | nil => simp [emitAll]
  | cons e es ih =>
    simp only [emitAll, course_tell_iff, ih, List.map_cons]
    constructor
    · rintro ⟨_, rfl, rfl⟩
      rfl
    · rintro rfl
      exact ⟨_, rfl, rfl⟩

@[simp] lemma course_query_iff {q : Q} {answer : A q} :
    (query q : Task Q A E (A q)).Course log answer ↔ log = [.asked q answer] := by
  simp only [query, course_ask_iff, course_done_iff]
  constructor
  · rintro ⟨_, _, rfl, rfl, rfl⟩
    rfl
  · rintro rfl
    exact ⟨answer, [], rfl, rfl, rfl⟩

/-! ### The course for given answers -/

/-- What happens in a task, and with what it ends, if its questions are answered by `answer`. -/
def play (answer : (q : Q) → A q) : Task Q A E α → List (Moment Q A E) × α
  | done a => ([], a)
  | tell e t => (.told e :: (play answer t).1, (play answer t).2)
  | ask q k =>
    (.asked q (answer q) :: (play answer (k (answer q))).1, (play answer (k (answer q))).2)

lemma course_play (answer : (q : Q) → A q) (t : Task Q A E α) :
    t.Course (t.play answer).1 (t.play answer).2 := by
  induction t with
  | done a => exact .done a
  | tell e t ih => exact .tell ih
  | ask q k ih => exact .ask _ (ih _)

/-- What is played is a course in which nothing but the given answers occurs. -/
lemma course_of_play {answer : (q : Q) → A q} {t : Task Q A E α} {a : α}
    (h : t.play answer = (log, a)) :
    t.Course log a ∧ ∀ q b, .asked q b ∈ log → b = answer q := by
  have hasked : ∀ t : Task Q A E α, ∀ q b, .asked q b ∈ (t.play answer).1 → b = answer q := by
    intro t
    induction t with
    | done => exact fun _ _ hmem => absurd hmem List.not_mem_nil
    | tell e t ih =>
      intro q b hmem
      rcases List.mem_cons.mp hmem with heq | hrest
      · exact absurd heq (by simp)
      · exact ih q b hrest
    | ask q' k ih =>
      intro q b hmem
      rcases List.mem_cons.mp hmem with heq | hrest
      · obtain ⟨rfl, heq⟩ := Moment.asked.inj heq
        exact eq_of_heq heq
      · exact ih _ q b hrest
  obtain ⟨rfl, rfl⟩ := Prod.mk.inj h
  exact ⟨course_play answer t, hasked t⟩

/-- The events that are told in a course. -/
def told (log : List (Moment Q A E)) : List E :=
  log.filterMap fun
    | .told e => some e
    | .asked _ _ => none

@[simp] lemma told_append {rest : List (Moment Q A E)} :
    told (log ++ rest) = told log ++ told rest :=
  List.filterMap_append

@[simp] lemma told_map_told (es : List E) : told (es.map .told : List (Moment Q A E)) = es := by
  rw [told, List.filterMap_map]
  exact List.filterMap_some

end RunBoard.Task
