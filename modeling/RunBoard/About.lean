import RunBoard.Text.Blank
import RunBoard.Text.LowerCase

/-!
# About the program

Its version, and where to find its sources, its releases and its documentation.
-/

namespace RunBoard

open RunBoard.Text

/-- The version of the program and its links. -/
structure About where
  version : String
  sources : String
  releases : String
  documentation : String
  deriving DecidableEq, Repr

namespace About

/-- Where the sources are. -/
def sourcesUrl : String := "https://github.com/certimate-go/certimate"

/-- The version when none is known. -/
def unknownVersion : String := "v0.0.0-dev"

/-- The documentation for a language: one site for Chinese, one for everything else. -/
def documentationUrl (locale : String) : String :=
  if (lowerCase locale).startsWith "zh" then "https://docs.certimate.me"
  else "https://docs.certimate.me/en/"

/-- The version told by the first source that has more than blanks to tell. -/
def firstVersion (sources : List (Option String)) : String :=
  match (sources.filterMap (·.map trim)).find? (· ≠ "") with
  | some v => v
  | none => unknownVersion

/-- What there is to tell, given the version of the environment, the version of the build and the
language. -/
def of (environment build : Option String) (locale : String) : About where
  version := firstVersion [environment, build]
  sources := sourcesUrl
  releases := sourcesUrl ++ "/releases"
  documentation := documentationUrl locale

end About

end RunBoard
