import RunBoard.Json.Value

/-!
# Writing JSON

A value is written either on one line without blanks, or with every item and member on a line of its
own, indented by two spaces for each level.  In a string the quote, the backslash and the control
characters are escaped, and nothing else.
-/

namespace RunBoard.Json

open RunBoard.Text

/-- A character inside a string. -/
def escapeChar (c : Char) : List Char :=
  if c = '"' then ['\\', '"']
  else if c = '\\' then ['\\', '\\']
  else if c = '\n' then ['\\', 'n']
  else if c = '\r' then ['\\', 'r']
  else if c = '\t' then ['\\', 't']
  else if c = '\x08' then ['\\', 'b']
  else if c = '\x0C' then ['\\', 'f']
  else if c.toNat < 0x20 then
    ['\\', 'u', '0', '0', Nat.digitChar (c.toNat / 16), Nat.digitChar (c.toNat % 16)]
  else [c]

/-- A string between quotes. -/
def writeString (s : String) : String :=
  String.ofList ('"' :: (s.toList.flatMap escapeChar ++ ['"']))

/-- The text of a number. -/
def Number.text : Number → String
  | .int n => signedDecimal n
  | .float x => x.text

mutual

/-- A value on one line, without blanks. -/
def compact : Json → String
  | .null => "null"
  | .bool b => if b then "true" else "false"
  | .number n => n.text
  | .string s => writeString s
  | .array items => "[" ++ ",".intercalate (compactItems items) ++ "]"
  | .object members => "\x7b" ++ ",".intercalate (compactMembers members) ++ "\x7d"

/-- Each item on one line. -/
def compactItems : List Json → List String
  | [] => []
  | v :: rest => compact v :: compactItems rest

/-- Each member as a name, a colon and a value. -/
def compactMembers : List (String × Json) → List String
  | [] => []
  | (k, v) :: rest => (writeString k ++ ":" ++ compact v) :: compactMembers rest

end

/-- The start of a line at a level of nesting. -/
def indent (level : Nat) : String :=
  String.ofList (List.replicate (2 * level) ' ')

/-- Lays out the pieces of an array or an object, each on its own line one level deeper. -/
def bracket (level : Nat) (left right : String) (pieces : List String) : String :=
  if pieces.isEmpty then left ++ right
  else
    left ++ "\n" ++ ",\n".intercalate (pieces.map (indent (level + 1) ++ ·)) ++ "\n" ++
      indent level ++ right

mutual

/-- A value laid out over several lines, its first line starting at the given level. -/
def prettyAt (level : Nat) : Json → String
  | .array items => bracket level "[" "]" (prettyItems (level + 1) items)
  | .object members => bracket level "\x7b" "\x7d" (prettyMembers (level + 1) members)
  | .null => "null"
  | .bool b => if b then "true" else "false"
  | .number n => n.text
  | .string s => writeString s

/-- Each item laid out at a level. -/
def prettyItems (level : Nat) : List Json → List String
  | [] => []
  | v :: rest => prettyAt level v :: prettyItems level rest

/-- Each member laid out at a level. -/
def prettyMembers (level : Nat) : List (String × Json) → List String
  | [] => []
  | (k, v) :: rest => (writeString k ++ ": " ++ prettyAt level v) :: prettyMembers level rest

end

/-- A value laid out over several lines. -/
def pretty (v : Json) : String :=
  prettyAt 0 v

end RunBoard.Json
