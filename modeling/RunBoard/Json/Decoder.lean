import RunBoard.Json.Fault

/-!
# Decoding JSON

A decoder takes the outline of a text or of a value and gives what it stands for, or the first fault
that a reader meets who goes through it from front to back.  Texts and values are treated alike but
for a few faults, which the origin decides: a text that is too long for a record is malformed where
a value has the wrong length, and only a text can nest too deeply.

A record is decoded in two rounds.  The first goes through the members in their order and looks for
faults: a name given twice, a value that its field refuses, an unknown member that is malformed.
The second takes the fields in the order in which they are declared.
-/

namespace RunBoard.Json

open RunBoard.Text

/-- Whether a text is decoded, with the levels of nesting still allowed, or a value. -/
inductive Origin where
  | text (room : Nat)
  | value
  deriving DecidableEq, Repr

/-- The origin one level deeper. -/
def Origin.inside : Origin → Except Fault Origin
  | .text 0 => .error .malformed
  | .text (room + 1) => .ok (.text room)
  | .value => .ok .value

/-- The levels of nesting still allowed, if they are limited. -/
def Origin.room? : Origin → Option Nat
  | .text room => some room
  | .value => none

/-- A way to decode outlines. -/
abbrev Decoder (α : Type) := Origin → Outline → Except Fault α

namespace Decoder

/-- Decodes a string. -/
def string : Decoder String
  | _, .string (some s) => .ok s
  | _, o => .error (o.mismatch "a string")

/-- Decodes null to nothing and everything else with `d`. -/
def option {α : Type} (d : Decoder α) : Decoder (Option α)
  | _, .null => .ok none
  | origin, o => (d origin o).map some

/-- Decodes an integer between `low` and `high`; `name` is what such an integer is called. -/
def integer (low high : Int) (name : String) : Decoder Int
  | _, o@(.number (some (.int n))) =>
    if low ≤ n ∧ n ≤ high then .ok n
    else .error (.wrongValue (o.kind?.getD "") name)
  | _, o => .error (o.mismatch name)

/-- Decodes a natural number of at most `high`. -/
def natural (high : Nat) (name : String) : Decoder Nat :=
  fun origin o => (integer 0 high name origin o).map Int.toNat

/-- Natural numbers of 16 bits. -/
def nat16 : Decoder Nat := natural 0xFFFF "u16"

/-- Natural numbers of 32 bits. -/
def nat32 : Decoder Nat := natural 0xFFFFFFFF "u32"

/-- Natural numbers of 64 bits. -/
def nat64 : Decoder Nat := natural 0xFFFFFFFFFFFFFFFF "u64"

/-- Integers of 64 bits. -/
def int64 : Decoder Int := integer (-0x8000000000000000) 0x7FFFFFFFFFFFFFFF "i64"

/-- Decodes any value. -/
def json : Decoder Json := fun origin o =>
  match o.value? origin.room? with
  | some v => .ok v
  | none => .error .malformed

/-- Decodes null, where nothing else is of use. -/
def nothing : Decoder Unit
  | _, .null => .ok ()
  | _, o => .error (o.mismatch "unit")

/-- Decodes the items of a list one after the other; `closed` tells whether the list ends properly.
-/
def items {α : Type} (d : Decoder α) (origin : Origin) (closed : Bool) :
    List Outline → Except Fault (List α)
  | [] => if closed then .ok [] else .error .malformed
  | o :: os => do return (← d origin o) :: (← items d origin closed os)

/-- Decodes a list. -/
def list {α : Type} (d : Decoder α) : Decoder (List α)
  | origin, .array os closed => do items d (← origin.inside) closed os
  | _, o => .error (o.mismatch "a sequence")

/-- Names that stand for the members of a type.  The second component holds the names that are
listed when none of them was given. -/
structure Names (α : Type) where
  lookup : String → Option α
  known : List String

/-- The member with a name. -/
def Names.find {α : Type} (names : Names α) (name : String) : Except Fault α :=
  match names.lookup name with
  | some a => .ok a
  | none => .error (.unknownName name names.known)

/-- What stands in the place of a name in a text that should give one. -/
def nameFault (o : Outline) : Fault :=
  o.mismatch "variant identifier"

/-- Decodes a name, given as a string or as the only member of an object whose value is null. -/
def name {α : Type} (names : Names α) : Decoder α
  | _, .string (some s) => names.find s
  | .value, .object [(some s, o)] _ => do
    let a ← names.find s
    nothing .value o
    return a
  | .value, .object _ _ => .error (.wrongValue "map" "map with a single key")
  | .value, o => .error (o.mismatch "string or map")
  | origin@(.text _), .object members rest => do
    let origin ← origin.inside
    match members, rest with
    | [], some o => .error (nameFault o)
    | [], none => .error .malformed
    | (none, _) :: _, _ => .error .malformed
    | (some s, o) :: more, rest => do
      let a ← names.find s
      nothing origin o
      if more.isEmpty ∧ rest.isNone then return a else .error .malformed
  | .text _, _ => .error .malformed

end Decoder

/-- A field of a record: its name, how its value is decoded, what it is when an object leaves it
out, and what it is when an array ends before it. -/
structure RecordField (α : Type) where
  name : String
  decode : Decoder α
  absent : Option α
  beyond : Option α

namespace RecordField

/-- A field that must be given. -/
def required {α : Type} (name : String) (d : Decoder α) : RecordField α :=
  ⟨name, d, none, none⟩

/-- A field that has a value of its own when it is left out. -/
def optional {α : Type} (name : String) (d : Decoder α) (default : α) : RecordField α :=
  ⟨name, d, some default, some default⟩

end RecordField

/-- What the first round needs to know of a field. -/
structure Slot where
  name : String
  check : Origin → Outline → Except Fault Unit
  mayEnd : Bool

/-- The slot of a field. -/
def RecordField.slot {α : Type} (f : RecordField α) : Slot :=
  ⟨f.name, fun origin o => (f.decode origin o).map fun _ => (), f.beyond.isSome⟩

/-- A record: what it is called and the slots of its fields in the order of their declaration. -/
structure Layout where
  name : String
  slots : List Slot

/-- The values of the fields of a record, found by name, ready for the second round. -/
structure Fields where
  origin : Origin
  given : List (String × Outline)
  /-- Whether the record was written as an array. -/
  positional : Bool

/-- The fault of a malformed outline that is passed over. -/
def checkSkipped (origin : Origin) (o : Outline) : Except Fault Unit :=
  match origin with
  | .value => .ok ()
  | .text _ => if o.whole then .ok () else .error .malformed

namespace Layout

/-- Goes through the members of an object in their order.  `seen` holds the fields met so far. -/
def scanMembers (layout : Layout) (origin : Origin) (seen : List (String × Outline)) :
    List (Option String × Outline) → Except Fault (List (String × Outline))
  | [] => .ok seen
  | (none, _) :: _ => .error .malformed
  | (some k, o) :: ms =>
    match layout.slots.find? (·.name == k) with
    | none => do
      checkSkipped origin o
      scanMembers layout origin seen ms
    | some slot =>
      if seen.any (·.1 == k) then .error (.duplicateField k)
      else do
        slot.check origin o
        scanMembers layout origin ((k, o) :: seen) ms

/-- The fault of an array that ends before the field at `index`. -/
def shortFault (layout : Layout) (index : Nat) : Fault :=
  .wrongLength index
    ("struct " ++ layout.name ++ " with " ++ decimal layout.slots.length ++
      (if layout.slots.length = 1 then " element" else " elements"))

/-- Goes through the items of an array, one for each field.  `index` counts the fields before, and
`total` all items. -/
def scanItems (layout : Layout) (origin : Origin) (closed : Bool) (total : Nat) :
    Nat → List Slot → List Outline → Except Fault (List (String × Outline))
  | index, slot :: slots, o :: os => do
    slot.check origin o
    return (slot.name, o) :: (← scanItems layout origin closed total (index + 1) slots os)
  | index, slot :: slots, [] =>
    if !closed then .error .malformed
    else if slot.mayEnd then scanItems layout origin closed total (index + 1) slots []
    else .error (layout.shortFault index)
  | _, [], [] => if closed then .ok [] else .error .malformed
  | _, [], _ :: _ =>
    match origin with
    | .text _ => .error .malformed
    | .value => .error (.wrongLength total "fewer elements in array")

/-- The first round: the values of the fields of a record, from an object or an array. -/
def scan (layout : Layout) : Origin → Outline → Except Fault Fields
  | origin, .object members rest => do
    let origin ← origin.inside
    let given ← layout.scanMembers origin [] members
    if rest.isSome then .error .malformed else return ⟨origin, given, false⟩
  | origin, .array os closed => do
    let origin ← origin.inside
    return ⟨origin, ← layout.scanItems origin closed os.length 0 layout.slots os, true⟩
  | _, o => .error (o.mismatch ("struct " ++ layout.name))

end Layout

namespace Fields

/-- The outline given for a field. -/
def find? (fields : Fields) (name : String) : Option Outline :=
  fields.given.lookup name

/-- The second round: the value of one field. -/
def take {α : Type} (fields : Fields) (f : RecordField α) : Except Fault α :=
  match fields.find? f.name with
  | some o => f.decode fields.origin o
  | none =>
    match if fields.positional then f.beyond else f.absent with
    | some a => .ok a
    | none => .error (.missingField f.name)

end Fields

/-- Decodes the value of a record from its layout and a way to take its fields. -/
def Decoder.record {α : Type} (layout : Layout) (build : Fields → Except Fault α) : Decoder α :=
  fun origin o => (layout.scan origin o).bind build

/-- Decodes a text. -/
def decodeText {α : Type} (d : Decoder α) (text : String) : Except Fault α := do
  let (o, ended) := Outline.read text
  let a ← d (.text nestingLimit) o
  if ended then return a else .error .malformed

/-- Decodes a value. -/
def decodeValue {α : Type} (d : Decoder α) (v : Json) : Except Fault α :=
  d .value (.ofValue v)

end RunBoard.Json
