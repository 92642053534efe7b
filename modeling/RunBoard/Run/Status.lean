import RunBoard.Json.Decoder
import RunBoard.Text.LowerCase

/-!
# The status of a run

A run is first pending, then processing, and ends succeeded, failed or canceled.  A pending run may
end without ever being seen at work; a run that has ended stays as it is.
-/

namespace RunBoard

open RunBoard.Text

/-- Where a run stands. -/
inductive Status where
  | pending
  | processing
  | succeeded
  | failed
  | canceled
  deriving DecidableEq, Repr

namespace Status

/-- Whether the run has not ended yet. -/
def isInFlight : Status → Bool
  | pending | processing => true
  | succeeded | failed | canceled => false

/-- Whether the run has ended. -/
def isTerminal (s : Status) : Bool :=
  !s.isInFlight

/-- Whether a record with one status may be replaced by a record with another. -/
def canBecome : Status → Status → Bool
  | pending, _ => true
  | processing, pending => false
  | processing, _ => true
  | s, t => s == t

/-- The name of a status. -/
def name : Status → String
  | pending => "pending"
  | processing => "processing"
  | succeeded => "succeeded"
  | failed => "failed"
  | canceled => "canceled"

/-- All statuses, in the order in which a run goes through them. -/
def all : List Status :=
  [pending, processing, succeeded, failed, canceled]

/-- The status with a name; `running` is another name for `processing`. -/
def ofName? : String → Option Status
  | "pending" => some pending
  | "processing" | "running" => some processing
  | "succeeded" => some succeeded
  | "failed" => some failed
  | "canceled" => some canceled
  | _ => none

/-- Reads a status in any mixture of capital and small letters.  The fault is the text in small
letters. -/
def read (text : String) : Except String Status :=
  match ofName? (lowerCase text) with
  | some s => .ok s
  | none => .error (lowerCase text)

/-- The names of the statuses in JSON. -/
def names : Json.Decoder.Names Status :=
  ⟨ofName?, ["pending", "processing", "running", "succeeded", "failed", "canceled"]⟩

@[simp] theorem canBecome_self (s : Status) : s.canBecome s = true := by
  cases s <;> rfl

theorem canBecome_trans {r s t : Status} (hrs : r.canBecome s = true) (hst : s.canBecome t = true) :
    r.canBecome t = true := by
  revert hrs hst
  cases r <;> cases s <;> cases t <;> decide

theorem canBecome_of_isTerminal {s t : Status} (hs : s.isTerminal = true)
    (h : s.canBecome t = true) : t = s := by
  revert hs h
  cases s <;> cases t <;> decide

@[simp] theorem ofName?_name (s : Status) : ofName? s.name = some s := by
  cases s <;> rfl

end Status

end RunBoard
