import RunBoard.Number.Shortest

/-!
# JSON values

A number is an integer of at most 64 bits or a double-precision number.  The members of an object
are held in ascending order of their names, each name once: `Json.ofMembers` brings a list of
members into this form, the last of several members with one name prevailing.
-/

namespace RunBoard

open RunBoard.Number

namespace Json

/-- A number: an integer between `-2 ^ 63` and `2 ^ 64 - 1`, or a double-precision number. -/
inductive Number where
  | int (n : Int)
  | float (x : Binary64)
  deriving DecidableEq, Repr

/-- Two numbers of the same kind and the same value. -/
def Number.same : Number → Number → Bool
  | .int m, .int n => m == n
  | .float x, .float y => x.same y
  | _, _ => false

end Json

/-- A JSON value. -/
inductive Json where
  | null
  | bool (b : Bool)
  | number (n : Json.Number)
  | string (s : String)
  | array (items : List Json)
  | object (members : List (String × Json))
  deriving Repr, Inhabited

namespace Json

/-- Puts a member into an ascending list of members, in place of one with the same name. -/
def insertMember {α : Type} (name : String) (value : α) : List (String × α) → List (String × α)
  | [] => [(name, value)]
  | (k, v) :: rest =>
    if name = k then (name, value) :: rest
    else if name < k then (name, value) :: (k, v) :: rest
    else (k, v) :: insertMember name value rest

/-- The members in ascending order of their names; of several with one name the last is kept. -/
def ascending {α : Type} (members : List (String × α)) : List (String × α) :=
  members.foldl (fun acc (name, value) => insertMember name value acc) []

/-- The object with the given members. -/
def ofMembers (members : List (String × Json)) : Json :=
  .object (ascending members)

/-- An integer as a value. -/
def int (n : Int) : Json :=
  .number (.int n)

/-- A natural number as a value. -/
def nat (n : Nat) : Json :=
  .number (.int n)

/-- A text, or null where there is none. -/
def text? (s : Option String) : Json :=
  s.elim .null .string

/-- The first member of that name; nothing for what is no object. -/
def member? (v : Json) (name : String) : Option Json :=
  match v with
  | .object members => members.lookup name
  | _ => none

mutual

/-- Whether two values are the same: objects member by member, numbers by kind and value. -/
def same : Json → Json → Bool
  | .null, .null => true
  | .bool a, .bool b => a == b
  | .number m, .number n => m.same n
  | .string s, .string t => s == t
  | .array xs, .array ys => sameItems xs ys
  | .object ms, .object ns => sameMembers ms ns
  | _, _ => false

/-- Whether two lists hold the same values. -/
def sameItems : List Json → List Json → Bool
  | [], [] => true
  | x :: xs, y :: ys => same x y && sameItems xs ys
  | _, _ => false

/-- Whether two lists hold the same members. -/
def sameMembers : List (String × Json) → List (String × Json) → Bool
  | [], [] => true
  | (j, x) :: ms, (k, y) :: ns => j == k && same x y && sameMembers ms ns
  | _, _ => false

end

end Json

end RunBoard
