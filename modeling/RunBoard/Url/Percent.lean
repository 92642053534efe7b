import RunBoard.Text.Quoted

/-!
# Percent encoding

Characters that may not stand in a part of a URL are written as the bytes of their UTF-8 form, each
byte as a percent sign and two hexadecimal digits.  Which characters these are depends on the part.
The names and values of parameters have an encoding of their own, in which a blank becomes a plus
sign.
-/

namespace RunBoard.Url

/-- A byte as a percent sign and two hexadecimal digits. -/
def percentByte (b : UInt8) : List Char :=
  ['%', (Nat.digitChar (b.toNat / 16)).toUpper, (Nat.digitChar (b.toNat % 16)).toUpper]

/-- A character as the bytes of its UTF-8 form. -/
def percentChar (c : Char) : List Char :=
  (String.utf8EncodeChar c).flatMap percentByte

/-- A text in which the characters of a class are encoded. -/
def encode (special : Char → Bool) (cs : List Char) : List Char :=
  cs.flatMap fun c => if special c then percentChar c else [c]

/-- The characters that are encoded everywhere: control characters and all beyond ASCII. -/
def isHidden (c : Char) : Bool :=
  c.toNat < 0x20 || 0x7E < c.toNat

/-- The characters that are encoded in a fragment. -/
def isFragmentSpecial (c : Char) : Bool :=
  isHidden c || c ∈ [' ', '"', '<', '>', '`']

/-- The characters that are encoded in a query. -/
def isQuerySpecial (c : Char) : Bool :=
  isHidden c || c ∈ [' ', '"', '#', '<', '>']

/-- The characters that are encoded in a path. -/
def isPathSpecial (c : Char) : Bool :=
  isQuerySpecial c || c ∈ ['?', '`', '\x7b', '\x7d']

/-- The characters that stand for themselves in a parameter. -/
def isPlain (c : Char) : Bool :=
  c.isAlphanum || c ∈ ['*', '-', '.', '_']

/-- The name or the value of a parameter. -/
def encodeParameter (s : String) : String :=
  String.ofList (s.toList.flatMap fun c =>
    if c = ' ' then ['+'] else if isPlain c then [c] else percentChar c)

/-- Parameters as they stand in a query. -/
def encodeParameters (parameters : List (String × String)) : String :=
  "&".intercalate (parameters.map fun (name, value) =>
    encodeParameter name ++ "=" ++ encodeParameter value)

/-- The value of a hexadecimal digit. -/
def hexValue? (c : Char) : Option Nat :=
  let n := c.toNat
  if 0x30 ≤ n ∧ n ≤ 0x39 then some (n - 0x30)
  else if 0x41 ≤ n ∧ n ≤ 0x46 then some (n - 0x41 + 10)
  else if 0x61 ≤ n ∧ n ≤ 0x66 then some (n - 0x61 + 10)
  else none

/-- The bytes of a text in which every percent sign with two digits stands for one byte. -/
def decodeBytes : List Char → List UInt8
  | '%' :: a :: b :: cs =>
    match hexValue? a, hexValue? b with
    | some x, some y => UInt8.ofNat (16 * x + y) :: decodeBytes cs
    | _, _ => 0x25 :: decodeBytes (a :: b :: cs)
  | c :: cs => String.utf8EncodeChar c ++ decodeBytes cs
  | [] => []
termination_by cs => cs.length

/-- The text behind the percent encoding; none if its bytes are not UTF-8. -/
def decode? (cs : List Char) : Option (List Char) :=
  (String.fromUTF8? ⟨(decodeBytes cs).toArray⟩).map String.toList

end RunBoard.Url
