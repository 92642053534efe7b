import RunBoard.Run.Basic
import RunBoard.Time.Reader
import RunBoard.Time.Printer

/-!
# Runs on the wire

The JSON form in which the backend stores and sends runs.  Unset times are empty strings.  Reading
is lenient: everything but the identifier and the status may be left out, and unknown members are
passed over.
-/

namespace RunBoard

open RunBoard.Json RunBoard.Text RunBoard.Time

/-! ### Reading -/

/-- Decodes a time; null and blank strings stand for none. -/
def decodeTime : Decoder (Option Instant) := fun origin o => do
  let raw ← Decoder.option Decoder.string origin o
  match raw.map trim with
  | none | some "" => return none
  | some text =>
    match Instant.read text with
    | .ok t => return some t
    | .error fault => .error (.refused ("invalid datetime '" ++ text ++ "': " ++ fault.message))

/-- What is said of a text that is no trigger; it is given in lower case. -/
def Trigger.complaint (text : String) : String :=
  "invalid workflow trigger: '" ++ text ++ "'"

/-- What is said of a text that is no status; it is given in lower case. -/
def Status.complaint (text : String) : String :=
  "invalid workflow run status: '" ++ text ++ "'"

/-- Decodes a trigger; null and the empty string stand for none. -/
def decodeTrigger : Decoder (Option Trigger) := fun origin o => do
  match ← Decoder.option Decoder.string origin o with
  | none | some "" => return none
  | some text =>
    match Trigger.read text with
    | .ok t => return some t
    | .error text => .error (.refused (Trigger.complaint text))

namespace WorkflowSummary

/-- The field `id`. -/
def idField : RecordField String := .required "id" Decoder.string

/-- The field `name`. -/
def nameField : RecordField String := .optional "name" Decoder.string ""

/-- The fields of a workflow. -/
def layout : Layout := ⟨"WorkflowSummary", [idField.slot, nameField.slot]⟩

/-- Decodes a workflow. -/
def decode : Decoder WorkflowSummary := .record layout fun fields => do
  return { id := ← fields.take idField, name := ← fields.take nameField }

end WorkflowSummary

namespace Expansion

/-- The field `workflowRef`. -/
def workflowField : RecordField (Option WorkflowSummary) :=
  .optional "workflowRef" (.option WorkflowSummary.decode) none

/-- The fields of the related records. -/
def layout : Layout := ⟨"RunExpand", [workflowField.slot]⟩

/-- Decodes related records. -/
def decode : Decoder Expansion := .record layout fun fields => do
  return { workflow := ← fields.take workflowField }

end Expansion

namespace Run

/-- The field `id`. -/
def idField : RecordField String := .required "id" Decoder.string

/-- The field `workflowRef`. -/
def workflowField : RecordField String := .optional "workflowRef" Decoder.string ""

/-- The field `status`. -/
def statusField : RecordField Status := .required "status" (.name Status.names)

/-- The field `trigger`. -/
def triggerField : RecordField (Option Trigger) := .optional "trigger" decodeTrigger none

/-- The field `startedAt`. -/
def startedField : RecordField (Option Instant) := .optional "startedAt" decodeTime none

/-- The field `endedAt`. -/
def endedField : RecordField (Option Instant) := .optional "endedAt" decodeTime none

/-- The field `graph`. -/
def graphField : RecordField Json := .optional "graph" Decoder.json .null

/-- The field `error`. -/
def errorField : RecordField String := .optional "error" Decoder.string ""

/-- The field `created`. -/
def createdField : RecordField (Option Instant) := .optional "created" decodeTime none

/-- The field `updated`. -/
def updatedField : RecordField (Option Instant) := .optional "updated" decodeTime none

/-- The field `expand`. -/
def expandField : RecordField (Option Expansion) :=
  .optional "expand" (.option Expansion.decode) none

/-- The fields of a run. -/
def layout : Layout :=
  ⟨"WorkflowRun", [idField.slot, workflowField.slot, statusField.slot, triggerField.slot,
    startedField.slot, endedField.slot, graphField.slot, errorField.slot, createdField.slot,
    updatedField.slot, expandField.slot]⟩

/-- Decodes a run. -/
def decode : Decoder Run := .record layout fun fields => do
  return {
    id := ⟨← fields.take idField⟩
    workflow := ← fields.take workflowField
    status := ← fields.take statusField
    trigger := ← fields.take triggerField
    startedAt := ← fields.take startedField
    endedAt := ← fields.take endedField
    graph := ← fields.take graphField
    error := ← fields.take errorField
    created := ← fields.take createdField
    updated := ← fields.take updatedField
    expansion := ← fields.take expandField }

end Run

namespace Patch

/-- The field `action`. -/
def actionField : RecordField Action := .required "action" (.name Action.names)

/-- The field `record`. -/
def recordField : RecordField Run := .required "record" Run.decode

/-- The fields of a patch. -/
def layout : Layout := ⟨"RunPatch", [actionField.slot, recordField.slot]⟩

/-- Decodes a patch. -/
def decode : Decoder Patch := .record layout fun fields => do
  return { action := ← fields.take actionField, record := ← fields.take recordField }

end Patch

/-! ### Writing -/

/-- A time in the stored layout, empty when there is none. -/
def encodeTime (t : Option Instant) : Json :=
  .string (t.elim "" Instant.stored)

/-- The JSON form of a workflow. -/
def WorkflowSummary.encode (w : WorkflowSummary) : Json :=
  .ofMembers [("id", .string w.id), ("name", .string w.name)]

/-- The JSON form of related records. -/
def Expansion.encode (e : Expansion) : Json :=
  .ofMembers ((e.workflow.map fun w => ("workflowRef", w.encode)).toList)

/-- The JSON form of a run. -/
def Run.encode (r : Run) : Json :=
  .ofMembers ([
    ("id", .string r.id.text),
    ("workflowRef", .string r.workflow),
    ("status", .string r.status.name),
    ("trigger", .text? (r.trigger.map Trigger.name)),
    ("startedAt", encodeTime r.startedAt),
    ("endedAt", encodeTime r.endedAt),
    ("graph", r.graph),
    ("error", .string r.error),
    ("created", encodeTime r.created),
    ("updated", encodeTime r.updated)] ++
    (r.expansion.map fun e => ("expand", e.encode)).toList)

/-- The JSON form of a patch. -/
def Patch.encode (p : Patch) : Json :=
  .ofMembers [("action", .string p.action.name), ("record", p.record.encode)]

end RunBoard
