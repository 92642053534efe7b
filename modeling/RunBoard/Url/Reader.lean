import RunBoard.Url.Basic
import RunBoard.Url.Host

/-!
# Reading URLs

A text is read as a URL that stands by itself.  Blanks around it and line breaks in it are passed
over, steps that lead back are resolved, and what may not stand in a part is encoded.  The
well-known schemes take backslashes for slashes and always have a host, `file` apart, whose host may
be empty.
-/

namespace RunBoard.Url

open RunBoard.Text

/-- The well-known schemes and the numbers that they stand for behind a host. -/
def wellKnownSchemes : List (String × Option Nat) :=
  [("http", some 80), ("https", some 443), ("ws", some 80), ("wss", some 443), ("ftp", some 21),
    ("file", none)]

/-- Whether a scheme is well known. -/
def isWellKnown (scheme : String) : Bool :=
  wellKnownSchemes.any (·.1 == scheme)

/-- The text without the blanks around it and without tabs and line breaks. -/
def cleaned (s : String) : List Char :=
  let isPadding (c : Char) : Bool := c.toNat ≤ 0x20
  let cs := ((s.toList.dropWhile isPadding).reverse.dropWhile isPadding).reverse
  cs.filter fun c => c ∉ ['\t', '\n', '\r']

/-- The scheme at the front of a text, in lower case, and what follows its colon. -/
def scheme? (cs : List Char) : Option (String × List Char) :=
  let isSchemeChar (c : Char) : Bool := c.isAlphanum || c ∈ ['+', '-', '.']
  if cs.head?.any Char.isAlpha then
    match cs.dropWhile isSchemeChar with
    | ':' :: rest => some (String.ofList ((cs.takeWhile isSchemeChar).map Char.toLower), rest)
    | _ => none
  else none

/-- What stands before the first of a character, and what stands behind it if it is there. -/
def cutAt (mark : Char) (cs : List Char) : List Char × Option (List Char) :=
  match cs.dropWhile (· ≠ mark) with
  | [] => (cs, none)
  | _ :: rest => (cs.takeWhile (· ≠ mark), some rest)

/-- What stands behind the last of a character, or everything. -/
def behindLast (mark : Char) (cs : List Char) : List Char :=
  (cs.reverse.takeWhile (· ≠ mark)).reverse

/-- A step without the encoding of its points, in lower case. -/
def plainStep (step : String) : String :=
  ((String.ofList (step.toList.map Char.toLower)).replace "%2e" ".")

/-- The steps of a path, given behind those that were taken, which are listed backwards.  A step of
one point stays, a step of two points leads back, and at the end both leave an empty step. -/
def resolve (taken : List String) : List String → List String
  | [] => taken.reverse
  | [last] =>
    if plainStep last = ".." then ("" :: taken.tail).reverse
    else if plainStep last = "." then ("" :: taken).reverse
    else (last :: taken).reverse
  | step :: steps =>
    if plainStep step = ".." then resolve taken.tail steps
    else if plainStep step = "." then resolve taken steps
    else resolve (step :: taken) steps

/-- Splits a text at the characters of a class. -/
def splitBy (isMark : Char → Bool) : List Char → List (List Char)
  | [] => [[]]
  | c :: cs =>
    match splitBy isMark cs with
    | [] => [[c]]
    | piece :: pieces => if isMark c then [] :: piece :: pieces else (c :: piece) :: pieces

/-- The path that follows a host or the root, with its first slash. -/
def stepsOf (isSlash : Char → Bool) (cs : List Char) : Path :=
  .steps (resolve [] ((splitBy isSlash cs.tail).map fun step =>
    String.ofList (encode isPathSpecial step)))

/-- Reads the number behind a host.  None stands for the number of the scheme, and the outer none
for a text that is no such number. -/
def portNumber? (usual : Option Nat) (cs : List Char) : Option (Option Nat) :=
  if cs.all Char.isDigit ∧ valueFrom 0 cs < 0x10000 then
    some (if cs.isEmpty ∨ some (valueFrom 0 cs) = usual then none else some (valueFrom 0 cs))
  else none

/-- The host and the text of the number behind it, which follows the first colon outside of
brackets. -/
def cutPortNumber : List Char → List Char × List Char
  | '[' :: cs =>
    match cutAt ']' cs with
    | (inner, some (':' :: number)) => ('[' :: inner ++ [']'], number)
    | _ => ('[' :: cs, [])
  | cs => ((cutAt ':' cs).1, (cutAt ':' cs).2.getD [])

/-- Reads the host of a URL and the number behind it; its credentials are dropped. -/
def authority? (scheme : String) (cs : List Char) : Option (String × Option Nat) := do
  let (host, digits) := cutPortNumber (behindLast '@' cs)
  let number ← portNumber? ((wellKnownSchemes.lookup scheme).join) digits
  if host.isEmpty then
    if isWellKnown scheme || number.isSome || cs.contains '@' || cs.contains ':' then none
    else some ("", none)
  else
    let host ← host? (isWellKnown scheme) host
    return (host, number)

/-- Reads the host of a URL, the number behind it, and the path. -/
def place? (scheme : String) (cs : List Char) : Option (Option String × Option Nat × Path) :=
  let isSlash (c : Char) : Bool := c = '/' || (isWellKnown scheme && c = '\\')
  let path (rest : List Char) : Path :=
    if rest.isEmpty && !isWellKnown scheme then .steps [] else stepsOf isSlash rest
  let withHost (cs : List Char) : Option (Option String × Option Nat × Path) := do
    let (host, number) ← authority? scheme (cs.takeWhile fun c => !isSlash c)
    return (some host, number, path (cs.dropWhile fun c => !isSlash c))
  if scheme = "file" then
    let rest := if cs.head?.any isSlash && cs.tail.head?.any isSlash then
        (cs.drop 2).dropWhile fun c => !isSlash c
      else cs
    some (some "", none, stepsOf isSlash (if rest.head?.any isSlash then rest else '/' :: rest))
  else if isWellKnown scheme then withHost (cs.dropWhile isSlash)
  else match cs with
    | '/' :: '/' :: rest => withHost rest
    | '/' :: _ => some (none, none, stepsOf isSlash cs)
    | _ => some (none, none, .plain (String.ofList (encode isHidden cs)))

/-- Reads a URL. -/
def read? (s : String) : Option Url := do
  let (scheme, rest) ← scheme? (cleaned s)
  let (rest, fragment) := cutAt '#' rest
  let (rest, query) := cutAt '?' rest
  let (host, portNumber, path) ← place? scheme rest
  let isQuerySpecial (c : Char) : Bool :=
    Url.isQuerySpecial c || (isWellKnown scheme && c = '\'')
  return {
    scheme, host, portNumber, path
    query := query.map fun cs => String.ofList (encode isQuerySpecial cs)
    fragment := fragment.map fun cs => String.ofList (encode isFragmentSpecial cs) }

end RunBoard.Url
