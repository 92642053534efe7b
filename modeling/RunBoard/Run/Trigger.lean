import RunBoard.Json.Decoder
import RunBoard.Text.LowerCase

/-!
# What started a run
-/

namespace RunBoard

open RunBoard.Text

/-- Whether a run was started by its schedule or by hand. -/
inductive Trigger where
  | scheduled
  | manual
  deriving DecidableEq, Repr

namespace Trigger

/-- The name of a trigger. -/
def name : Trigger → String
  | scheduled => "scheduled"
  | manual => "manual"

/-- The trigger with a name; `auto` is another name for `scheduled`. -/
def ofName? : String → Option Trigger
  | "scheduled" | "auto" => some scheduled
  | "manual" => some manual
  | _ => none

/-- Reads a trigger in any mixture of capital and small letters.  The fault is the text in small
letters. -/
def read (text : String) : Except String Trigger :=
  match ofName? (lowerCase text) with
  | some t => .ok t
  | none => .error (lowerCase text)

/-- The names of the triggers in JSON. -/
def names : Json.Decoder.Names Trigger :=
  ⟨ofName?, ["auto", "scheduled", "manual"]⟩

@[simp] theorem ofName?_name (t : Trigger) : ofName? t.name = some t := by
  cases t <;> rfl

end Trigger

end RunBoard
