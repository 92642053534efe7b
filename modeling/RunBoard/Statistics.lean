import RunBoard.Json.Decoder

/-!
# Statistics

The totals of certificates and workflows that the backend counts.  A counter that is left out is
zero.
-/

namespace RunBoard

open RunBoard.Json

/-- The totals of certificates and workflows. -/
structure Statistics where
  certificates : Nat
  expiringSoon : Nat
  expired : Nat
  workflows : Nat
  enabled : Nat
  disabled : Nat
  deriving DecidableEq, Repr

namespace Statistics

/-- All counters at zero. -/
def zero : Statistics := ⟨0, 0, 0, 0, 0, 0⟩

/-- The counter of a name. -/
def counter (name : String) : RecordField Nat :=
  .optional name Decoder.nat64 0

/-- The fields of the statistics. -/
def layout : Layout :=
  ⟨"Statistics", ["certificateTotal", "certificateExpireSoon", "certificateExpired",
    "workflowTotal", "workflowEnabled", "workflowDisabled"].map fun name => (counter name).slot⟩

/-- Decodes statistics. -/
def decode : Decoder Statistics := .record layout fun fields => do
  return {
    certificates := ← fields.take (counter "certificateTotal")
    expiringSoon := ← fields.take (counter "certificateExpireSoon")
    expired := ← fields.take (counter "certificateExpired")
    workflows := ← fields.take (counter "workflowTotal")
    enabled := ← fields.take (counter "workflowEnabled")
    disabled := ← fields.take (counter "workflowDisabled") }

/-- The JSON form of statistics. -/
def encode (s : Statistics) : Json :=
  .ofMembers [
    ("certificateTotal", .nat s.certificates),
    ("certificateExpireSoon", .nat s.expiringSoon),
    ("certificateExpired", .nat s.expired),
    ("workflowTotal", .nat s.workflows),
    ("workflowEnabled", .nat s.enabled),
    ("workflowDisabled", .nat s.disabled)]

end Statistics

end RunBoard
