import RunBoard.Json.Outline
import RunBoard.Text.Quoted

/-!
# Why a JSON text or value was refused

A text may be malformed, of which nothing more is said.  Otherwise it stands for a value of the
wrong shape, and the fault names what was found and what was expected.
-/

namespace RunBoard.Json

open RunBoard.Text

/-- Why a text or a value was refused. -/
inductive Fault where
  /-- The text is no JSON, or none that can be taken in. -/
  | malformed
  /-- A value of another kind was expected. -/
  | wrongKind (found expected : String)
  /-- The value is of the right kind but not among those expected. -/
  | wrongValue (found expected : String)
  /-- A list has the wrong length. -/
  | wrongLength (length : Nat) (expected : String)
  | missingField (name : String)
  | duplicateField (name : String)
  /-- The name is none of the names that are told apart. -/
  | unknownName (name : String) (known : List String)
  /-- The value was refused for a reason of its own. -/
  | refused (reason : String)
  deriving DecidableEq, Repr

/-- The names as alternatives: two joined by "or", more as a list. -/
def alternatives (names : List String) : String :=
  let ticked := names.map fun n => "`" ++ n ++ "`"
  match ticked with
  | [a] => a
  | [a, b] => a ++ " or " ++ b
  | _ => "one of " ++ ", ".intercalate ticked

/-- The text that tells a fault; a malformed text has none. -/
def Fault.message : Fault → String
  | .malformed => ""
  | .wrongKind found expected => "invalid type: " ++ found ++ ", expected " ++ expected
  | .wrongValue found expected => "invalid value: " ++ found ++ ", expected " ++ expected
  | .wrongLength length expected =>
    "invalid length " ++ decimal length ++ ", expected " ++ expected
  | .missingField name => "missing field `" ++ name ++ "`"
  | .duplicateField name => "duplicate field `" ++ name ++ "`"
  | .unknownName name known => "unknown variant `" ++ name ++ "`, expected " ++ alternatives known
  | .refused reason => reason

/-- How a value is named where another was expected.  What stands for no value has no name. -/
def Outline.kind? : Outline → Option String
  | .null => some "null"
  | .bool b => some ("boolean `" ++ (if b then "true" else "false") ++ "`")
  | .number (some (.int n)) => some ("integer `" ++ signedDecimal n ++ "`")
  | .number (some (.float x)) => some ("floating point `" ++ x.text ++ "`")
  | .string (some s) => some ("string " ++ quoted s)
  | .array _ _ => some "sequence"
  | .object _ _ => some "map"
  | .number none | .string none | .broken => none

/-- The fault of a value that is not of the expected kind. -/
def Outline.mismatch (o : Outline) (expected : String) : Fault :=
  match o.kind? with
  | some found => .wrongKind found expected
  | none => .malformed

end RunBoard.Json
