/-!
# Blank characters

The characters that separate words and that are cut from the ends of a text are those with the
Unicode property White_Space.  Neither the zero-width space nor the byte order mark is one of them,
so both survive trimming.
-/

namespace RunBoard.Text

/-- The characters with the Unicode property White_Space. -/
def isBlank (c : Char) : Bool :=
  let n := c.toNat
  (0x9 ≤ n && n ≤ 0xD) || n == 0x20 || n == 0x85 || n == 0xA0 || n == 0x1680 ||
    (0x2000 ≤ n && n ≤ 0x200A) || n == 0x2028 || n == 0x2029 || n == 0x202F || n == 0x205F ||
    n == 0x3000

/-- Drops the blanks at the front. -/
def skipBlanks (cs : List Char) : List Char :=
  cs.dropWhile isBlank

/-- Drops the blanks at both ends. -/
def trimBlanks (cs : List Char) : List Char :=
  (skipBlanks (skipBlanks cs).reverse).reverse

/-- The text without the blanks at its ends. -/
def trim (s : String) : String :=
  String.ofList (trimBlanks s.toList)

/-- The maximal blank-free pieces of a list of characters, in order.  The first argument holds the
piece that is being read, backwards. -/
def splitBlanks : List Char → List Char → List (List Char)
  | [], [] => []
  | w, [] => [w.reverse]
  | [], c :: cs => if isBlank c then splitBlanks [] cs else splitBlanks [c] cs
  | w@(_ :: _), c :: cs =>
    if isBlank c then w.reverse :: splitBlanks [] cs else splitBlanks (c :: w) cs

/-- The words of a text: its maximal blank-free pieces, in order. -/
def words (s : String) : List String :=
  (splitBlanks [] s.toList).map String.ofList

/-- What Lean calls white space is blank. -/
theorem isBlank_of_isWhitespace {c : Char} (h : c.isWhitespace = true) : isBlank c = true := by
  simp only [Char.isWhitespace, Bool.or_eq_true, decide_eq_true_eq] at h
  rcases h with ((h | h) | h) | h <;> subst h <;> decide

theorem skipBlanks_cons_of_not {c : Char} {cs : List Char} (h : isBlank c = false) :
    skipBlanks (c :: cs) = c :: cs := by
  simp [skipBlanks, h]

end RunBoard.Text
