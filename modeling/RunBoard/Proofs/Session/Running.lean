import Mathlib.Tactic.Common
import RunBoard.Proofs.Course
import RunBoard.Session

/-!
# Running a session

A session in time.  It is busy with one thing at a time: the first page, a command, a patch, and at
the end the release of everything.  Meanwhile commands are sent, the backend answers or does not,
patches arrive, and at some point the session may be told to stop.

`Own` has the steps that a session takes by itself, `Step` those and all that its surroundings do.
A call that was pending when the session was told to stop is given up if calls of its kind are; its
answer is not heard any more.  A run is a sequence of steps, of which the trace tells.
-/

namespace RunBoard

namespace Call

/-- What stands for the result of a call that is given up, if such calls are. -/
def abandoned? : (c : Call) → Option c.Result
  | .list _ => some (.error .aborted)
  | .subscribeAll _ => some none
  | .remove _ | .cancel _ _ | .subscribe _ => none

lemma isSome_abandoned? (c : Call) : c.abandoned?.isSome = c.interruptible := by
  cases c <;> rfl

/-- Whether a result can be the backend's: it gives no batch of subscriptions up. -/
def Genuine : (c : Call) → c.Result → Prop
  | .subscribeAll _, result => Option.isSome result = true
  | .list _, _ | .remove _, _ | .cancel _ _, _ | .subscribe _, _ => True

end Call

namespace Session

/-- What a session is busy with. -/
inductive Work where
  | idle
  /-- It loads the first page, carries out a command or takes in a patch. -/
  | chore (task : BoardTask (Session × Option Frame))
  /-- It releases everything. -/
  | leaving (task : BoardTask Board)
  /-- It has returned the board. -/
  | returned (board : Board)

/-- A session at work. -/
structure Running where
  /-- The session as it was when its work began, but with the commands that wait now. -/
  session : Session
  /-- Whether it has been told to stop. -/
  told : Bool
  work : Work

/-- What happens while a session runs. -/
inductive Happening where
  | sent (c : Command) (taken : Bool)
  | closed
  | toldToStop
  /-- Patches arrive while nothing is being done. -/
  | arrived (patches : List Patch)
  | moment (m : Task.Moment Call Call.Answer Event)
  | shown (frame : Frame)

/-- The steps that a session takes by itself. -/
inductive Own : Running → List Happening → Running → Prop
  | command {s : Session} {told : Bool} {c : Command} {rest : List Command}
      (turn : s.turn told = .command c rest) :
      Own ⟨s, told, .idle⟩ []
        ⟨{ s with commands := rest }, told, .chore do
          let (s, frame) ← s.obey c rest
          return (s, some frame)⟩
  | patch {s : Session} {told : Bool} {p : Patch} {board : Board}
      (turn : s.turn told = .patch p board) :
      Own ⟨s, told, .idle⟩ [] ⟨s, told, .chore (s.absorb p board)⟩
  | stop {s : Session} {told : Bool} (turn : s.turn told = .stop) :
      Own ⟨s, told, .idle⟩ [] ⟨s, told, .leaving s.stop⟩
  | tell {s : Session} {told : Bool} {e : Event} {task : BoardTask (Session × Option Frame)} :
      Own ⟨s, told, .chore (.tell e task)⟩ [.moment (.told e)] ⟨s, told, .chore task⟩
  /-- A pending call is given up. -/
  | giveUp {s : Session} {c : Call} {k : Call.Answer c → BoardTask (Session × Option Frame)}
      {result : c.Result} (abandoned : c.abandoned? = some result) (arrived : List Patch) :
      Own ⟨s, true, .chore (.ask c k)⟩ [.moment (.asked c ⟨result, arrived⟩)]
        ⟨s, true, .chore (k ⟨result, arrived⟩)⟩
  /-- What was sent in the meantime still waits. -/
  | finish {s s' : Session} {told : Bool} {frame : Option Frame} :
      Own ⟨s, told, .chore (.done (s', frame))⟩ (frame.toList.map .shown)
        ⟨{ s with board := s'.board }, told, .idle⟩
  | release {s : Session} {told : Bool} {e : Event} {task : BoardTask Board} :
      Own ⟨s, told, .leaving (.tell e task)⟩ [.moment (.told e)] ⟨s, told, .leaving task⟩
  | leave {s : Session} {told : Bool} {board : Board} :
      Own ⟨s, told, .leaving (.done board)⟩ [] ⟨s, told, .returned board⟩

/-- All steps: those of the session, and what its surroundings do. -/
inductive Step : Running → List Happening → Running → Prop
  | own {r r' : Running} {happened : List Happening} (step : Own r happened r') : Step r happened r'
  /-- Once the session has been told to stop, no call that is given up is answered any more. -/
  | answer {s : Session} {told : Bool} {c : Call}
      {k : Call.Answer c → BoardTask (Session × Option Frame)} (answer : Call.Answer c)
      (genuine : c.Genuine answer.result) (heard : c.interruptible = true → told = false) :
      Step ⟨s, told, .chore (.ask c k)⟩ [.moment (.asked c answer)] ⟨s, told, .chore (k answer)⟩
  | send {s : Session} {told : Bool} {w : Work} (c : Command) (here : ∀ b, w ≠ .returned b) :
      Step ⟨s, told, w⟩ [.sent c (s.send c).2] ⟨(s.send c).1, told, w⟩
  | close {s : Session} {told : Bool} {w : Work} : Step ⟨s, told, w⟩ [.closed] ⟨s.close, told, w⟩
  | tellToStop {s : Session} {told : Bool} {w : Work} :
      Step ⟨s, told, w⟩ [.toldToStop] ⟨s, true, w⟩
  | receive {s : Session} {told : Bool} (patches : List Patch) :
      Step ⟨s, told, .idle⟩ [.arrived patches]
        ⟨{ s with board := s.board.receive patches }, told, .idle⟩

/-- Steps one after the other, with all that happens in them. -/
inductive Runs (r : Running) : List Happening → Running → Prop
  | start : Runs r [] r
  | next {trace happened : List Happening} {q q' : Running} (before : Runs r trace q)
      (step : Step q happened q') : Runs r (trace ++ happened) q'

/-- A session that begins to run. -/
def begin (s : Session) : Running :=
  ⟨s, false, .chore do
    let (s, frame) ← s.start
    return (s, some frame)⟩

/-! ### What a trace tells -/

namespace Happening

/-- The frame that was shown. -/
@[simp] def frame? : Happening → Option Frame
  | shown frame => some frame
  | sent _ _ | closed | toldToStop | arrived _ | moment _ => none

/-- The command that was taken from whoever sent it. -/
@[simp] def command? : Happening → Option Command
  | sent c taken => if taken then some c else none
  | closed | toldToStop | arrived _ | moment _ | shown _ => none

/-- What was asked or told. -/
@[simp] def moment? : Happening → Option (Task.Moment Call Call.Answer Event)
  | moment m => some m
  | sent _ _ | closed | toldToStop | arrived _ | shown _ => none

/-- The patches that arrived, whether with an answer or not. -/
@[simp] def patches : Happening → List Patch
  | arrived patches => patches
  | moment (.asked _ answer) => answer.arrived
  | moment (.told _) | sent _ _ | closed | toldToStop | shown _ => []

end Happening

/-- The frames that were shown. -/
def shown (trace : List Happening) : List Frame :=
  trace.filterMap Happening.frame?

/-- The commands that were taken. -/
def taken (trace : List Happening) : List Command :=
  trace.filterMap Happening.command?

/-- All that was asked and told. -/
def momentsOf (trace : List Happening) : List (Task.Moment Call Call.Answer Event) :=
  trace.filterMap Happening.moment?

/-- The patches that arrived. -/
def delivered (trace : List Happening) : List Patch :=
  trace.flatMap Happening.patches

section Snoc

variable (trace : List Happening) (h : Happening)

@[simp] lemma shown_snoc : shown (trace ++ [h]) = shown trace ++ h.frame?.toList := by
  rw [shown, List.filterMap_append, List.filterMap_cons]
  cases h.frame? <;> rfl

@[simp] lemma taken_snoc : taken (trace ++ [h]) = taken trace ++ h.command?.toList := by
  rw [taken, List.filterMap_append, List.filterMap_cons]
  cases h.command? <;> rfl

@[simp] lemma momentsOf_snoc :
    momentsOf (trace ++ [h]) = momentsOf trace ++ h.moment?.toList := by
  rw [momentsOf, List.filterMap_append, List.filterMap_cons]
  cases h.moment? <;> rfl

@[simp] lemma delivered_snoc : delivered (trace ++ [h]) = delivered trace ++ h.patches := by
  simp [delivered]

end Snoc

/-! ### The turns of a session -/

variable {s : Session} {told : Bool} {board : Board}

lemma turn_eq_stop (h : s.turn told = .stop) :
    told = true ∨ s.commands = [] ∧ s.isOpen = false := by
  unfold turn at h
  by_cases hstop : told = true
  · exact Or.inl hstop
  · rw [if_neg hstop] at h
    split at h
    · cases h
    · rename_i hnil
      split at h
      · rename_i hclosed
        exact Or.inr ⟨hnil, by simpa using hclosed⟩
      · split at h <;> cases h

lemma turn_eq_command {c : Command} {rest : List Command} (h : s.turn told = .command c rest) :
    told = false ∧ s.commands = c :: rest := by
  unfold turn at h
  by_cases hstop : told = true
  · rw [if_pos hstop] at h
    cases h
  · rw [if_neg hstop] at h
    refine ⟨Bool.eq_false_iff.mpr hstop, ?_⟩
    split at h
    · rename_i hcommands
      cases h
      exact hcommands
    · split at h
      · cases h
      · split at h <;> cases h

lemma turn_eq_patch {p : Patch} (h : s.turn told = .patch p board) :
    told = false ∧ s.board.nextPatch? = some (p, board) := by
  unfold turn at h
  by_cases hstop : told = true
  · rw [if_pos hstop] at h
    cases h
  · rw [if_neg hstop] at h
    refine ⟨Bool.eq_false_iff.mpr hstop, ?_⟩
    split at h
    · cases h
    · split at h
      · cases h
      · split at h
        · rename_i hnext
          cases h
          exact hnext
        · cases h

/-- Sending touches nothing but the commands that wait. -/
lemma send_eq (s : Session) (c : Command) :
    (s.send c).1 = { s with commands := s.commands ++ if (s.send c).2 then [c] else [] } := by
  unfold send
  split <;> simp

lemma not_sent_of_closed {c : Command} (h : s.isOpen = false) : (s.send c).2 = false := by
  unfold send
  rw [if_neg (by simp [h])]

end Session

end RunBoard
