import RunBoard.Url.Percent
import RunBoard.Text.Digits

/-!
# URLs

A URL in its parts, and how it is written.  The parts hold what is written, so they are encoded
already.  Credentials are no part of a URL here: they travel apart from it.
-/

namespace RunBoard

open RunBoard.Text

/-- What a URL names at its host. -/
inductive Url.Path where
  /-- Steps that start at the root. -/
  | steps (names : List String)
  /-- A text without steps. -/
  | plain (text : String)
  deriving DecidableEq, Repr

/-- A URL in its parts. -/
structure Url where
  scheme : String
  host : Option String
  /-- The number behind the host, unless it is the one that the scheme stands for. -/
  portNumber : Option Nat
  path : Url.Path
  query : Option String
  fragment : Option String
  deriving DecidableEq, Repr

namespace Url

/-- A path as it is written. -/
def Path.text : Path → String
  | steps names => String.join (names.map ("/" ++ ·))
  | plain text => text

/-- A URL as it is written.  Without a host, an empty first step is kept apart from the two slashes
that announce one. -/
def text (u : Url) : String :=
  let authority := match u.host with
    | some host => "//" ++ host ++ (u.portNumber.map fun p => ":" ++ decimal p).getD ""
    | none => match u.path with
      | .steps ("" :: _ :: _) => "/."
      | _ => ""
  u.scheme ++ ":" ++ authority ++ u.path.text ++ (u.query.map ("?" ++ ·)).getD "" ++
    (u.fragment.map ("#" ++ ·)).getD ""

/-- A URL with parameters behind those that it has. -/
def withParameters (u : Url) (parameters : List (String × String)) : Url :=
  if parameters.isEmpty then u
  else
    let added := encodeParameters parameters
    match u.query with
    | none | some "" => { u with query := some added }
    | some query => { u with query := some (query ++ "&" ++ added) }

/-- Whether a URL can be asked for over the web. -/
def isWeb (u : Url) : Bool :=
  u.scheme == "http" || u.scheme == "https"

end Url

end RunBoard
