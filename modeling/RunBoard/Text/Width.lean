import RunBoard.Text.Columns
import RunBoard.Text.Extending

/-!
# The width of a text

How many columns a text takes where every character has the same width.  Most characters take one
column, the wide ones of East Asia and pictures take two, and marks that attach themselves to their
neighbour take none.  A picture that is put together from several characters takes two columns as a
whole, and an Arabic lam takes none of its own in front of an alef, with which it is written as one
letter.
-/

namespace RunBoard.Text

/-- The columns of a character by itself.  A few characters have a width of their own: the filler of
Hangul, two long letters of Khmer, and the joiner of Tifinagh. -/
def charWidth (c : Char) : Nat :=
  let n := c.toNat
  if n < 0xA0 then 1
  else if n = 0x115F ∨ n = 0x17A4 then 2
  else if n = 0x17D8 then 3
  else if n = 0x2D7F then 1
  else if ignorableRanges.has c || isExtending c || enclosedRanges.has c then 0
  else if wideRanges.has c then 2
  else 1

/-- The character that joins two pictures. -/
def joiner : Char := '\u200D'

/-- The character that asks for a picture. -/
def asPicture : Char := '\uFE0F'

/-- The character that asks for a plain letter. -/
def asText : Char := '\uFE0E'

/-- A colour of skin. -/
def isSkin (c : Char) : Bool :=
  0x1F3FB ≤ c.toNat && c.toNat ≤ 0x1F3FF

/-- The length of the picture at the front of a text, zero if there is none: a picture of its own,
one with a colour of skin, or a character that is followed by the wish for a picture. -/
def pictureLength : List Char → Nat
  | c :: d :: _ =>
    if isSkin d && figureRanges.has c then 2
    else if d = asPicture && pictureRanges.has c then 2
    else if d ≠ asText && plainPictureRanges.has c then 1
    else 0
  | [c] => if plainPictureRanges.has c then 1 else 0
  | [] => 0

/-- The length of the pictures at the front of a text that are joined to each other, the joiners
included.  The first argument bounds the number of pictures. -/
def joinedLength : Nat → List Char → Nat
  | 0, _ => 0
  | fuel + 1, cs =>
    let n := pictureLength cs
    if n = 0 then 0
    else match cs.drop n with
      | j :: rest =>
        let more := if j = joiner then joinedLength fuel rest else 0
        if more = 0 then n else n + 1 + more
      | [] => n

/-- Whether a text starts with an alef, marks in front of it passed over. -/
def startsAlef (cs : List Char) : Bool :=
  match cs.dropWhile isExtending with
  | c :: _ => alefRanges.has c
  | [] => false

/-- The columns of a text.  The first argument bounds the number of steps. -/
def widthOf : Nat → List Char → Nat
  | 0, _ => 0
  | _ + 1, [] => 0
  | fuel + 1, '\r' :: '\n' :: cs => 1 + widthOf fuel cs
  | fuel + 1, c :: cs =>
    if c.toNat < 0x80 && cs.head? != some asPicture then 1 + widthOf fuel cs
    else
      let n := joinedLength fuel (c :: cs)
      if n = 1 then charWidth c + widthOf fuel cs
      else if 1 < n then 2 + widthOf fuel ((c :: cs).drop n)
      else if lamRanges.has c && startsAlef cs then widthOf fuel cs
      else
        let narrow := cs.head? = some asText ∧ plainPictureRanges.has c ∧
          ¬ (0x1F200 ≤ c.toNat ∧ c.toNat ≤ 0x1F2FF)
        (if narrow then 1 else charWidth c) + widthOf fuel cs

/-- The columns of a text. -/
def width (s : String) : Nat :=
  widthOf (s.length + 1) s.toList

/-- A text with blanks behind it, so that it takes at least the given number of columns. -/
def padTo (columns : Nat) (s : String) : String :=
  s ++ String.ofList (List.replicate (columns - width s) ' ')

end RunBoard.Text
