/-!
# TOML documents

A document is a table.  Tables come into being in four ways, and the way decides whether a table may
be opened once more: by a header of its own, on the way to another table in a header, on the way to
a value in a dotted key, or between braces.
-/

namespace RunBoard.Toml

/-- How a table came into being. -/
inductive Origin where
  /-- By a header of its own. -/
  | header
  /-- On the way to another table, in a header. -/
  | path
  /-- On the way to a value, in a dotted key. -/
  | dotted
  deriving DecidableEq, Repr

/-- A value, or a table that is still open. -/
inductive Item where
  | string (s : String)
  | integer (n : Int)
  /-- A truth value, a number with a fraction, a date or a time. -/
  | other
  | array (items : List Item)
  /-- A table between braces, which cannot be opened again. -/
  | inlineTable (entries : List (String × Item))
  /-- A table that can be opened again. -/
  | openTable (origin : Origin) (entries : List (String × Item))
  /-- The tables under headers in double brackets, the last one first. -/
  | tables (last : List (String × Item)) (before : List (List (String × Item)))
  deriving Repr, Inhabited

/-- The entries of a table. -/
abbrev Entries := List (String × Item)

/-- A document. -/
abbrev Document := Entries

namespace Entries

/-- Puts an item in the place of another one, or behind all others. -/
def put (es : Entries) (key : String) (item : Item) : Entries :=
  match es with
  | [] => [(key, item)]
  | (k, v) :: rest => if k = key then (key, item) :: rest else (k, v) :: put rest key item

/-- Changes the table at the end of a path, given how the tables on the way come into being that are
not there yet.  The change also learns whether the table stems from a dotted key.  A dotted key
opens no table that has a header of its own. -/
def alter (new : Origin) (change : Bool → Entries → Option Entries) :
    List String → Bool → Entries → Option Entries
  | [], isDotted, es => change isDotted es
  | key :: path, _, es =>
    match es.lookup key with
    | none => do
      return put es key (.openTable new (← alter new change path (new == .dotted) []))
    | some (.openTable origin inner) =>
      if new = .dotted ∧ origin = .header then none
      else do
        return put es key (.openTable origin (← alter new change path (origin == .dotted) inner))
    | some (.tables last before) => do
      return put es key (.tables (← alter new change path false last) before)
    | some _ => none

/-- Opens the table of a header. -/
def openHeader (path : List String) (key : String) (es : Entries) : Option Entries :=
  alter .path (fun _ parent =>
    match parent.lookup key with
    | none => some (put parent key (.openTable .header []))
    | some (.openTable .path inner) => some (put parent key (.openTable .header inner))
    | some _ => none) path false es

/-- Starts one more table of a header in double brackets. -/
def startTable (path : List String) (key : String) (es : Entries) : Option Entries :=
  alter .path (fun _ parent =>
    match parent.lookup key with
    | none => some (put parent key (.tables [] []))
    | some (.tables last before) => some (put parent key (.tables [] (last :: before)))
    | some _ => none) path false es

/-- Gives a key its value, below a path that was written with dots.  A table that stems from a
header is not added to by a dotted key. -/
def assign (path : List String) (key : String) (value : Item) (es : Entries) : Option Entries :=
  alter .dotted (fun isDotted table =>
    if isDotted ≠ path.isEmpty ∧ (table.lookup key).isNone then some (put table key value)
    else none) path false es

/-- Gives a key its value in the table that was opened last. -/
def assignIn (header : List String) (path : List String) (key : String) (value : Item)
    (es : Entries) : Option Entries :=
  alter .path (fun _ table => assign path key value table) header false es

/-- The table between braces that is made of assignments. -/
def ofAssignments (assignments : List (List String × String × Item)) : Option Entries :=
  assignments.foldlM (fun es (path, key, value) => assign path key value es) []

end Entries

end RunBoard.Toml
