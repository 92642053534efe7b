import RunBoard.Text.Case

/-!
# Lower case

The lower case of a text.  Two letters need more than the table of small letters: the capital I
with a dot keeps its dot as a character of its own, and the capital sigma takes its final form at
the end of a word, that is when a letter precedes it and none follows, characters without influence
on case passed over.
-/

namespace RunBoard.Text

/-- Whether the first character that is not passed over has a case. -/
def startsCased (cs : List Char) : Bool :=
  match cs.dropWhile isCaseIgnorable with
  | c :: _ => isCased c
  | [] => false

/-- The lower case of `cs` that follows the characters `before`, which are given backwards. -/
def lowerFrom : List Char → List Char → List Char
  | _, [] => []
  | before, c :: cs =>
    let small :=
      if c = 'Σ' then [if startsCased before && !startsCased cs then 'ς' else 'σ']
      else if c = 'İ' then ['i', '\u0307']
      else [smallLetter c]
    small ++ lowerFrom (c :: before) cs

/-- A text in lower case. -/
def lowerCase (s : String) : String :=
  String.ofList (lowerFrom [] s.toList)

end RunBoard.Text
