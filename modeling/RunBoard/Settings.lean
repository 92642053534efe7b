/-!
# Settings

Where the backend is, how long it may take, and how runs are shown.
-/

namespace RunBoard

/-- How the backend is reached. -/
structure BackendSettings where
  url : String
  /-- The token that is sent along with every request. -/
  token : Option String
  /-- The longest time a request may take, in seconds. -/
  requestTimeout : Nat
  /-- The longest time to wait for a realtime connection, in seconds. -/
  connectTimeout : Nat
  deriving DecidableEq, Repr

/-- How runs are shown. -/
structure DisplaySettings where
  perPage : Nat
  locale : String
  deriving DecidableEq, Repr

/-- All settings. -/
structure Settings where
  backend : BackendSettings
  display : DisplaySettings
  deriving DecidableEq, Repr

/-- How the backend is reached unless told otherwise. -/
def BackendSettings.default : BackendSettings :=
  ⟨"http://127.0.0.1:8090", none, 30, 10⟩

/-- How runs are shown unless told otherwise. -/
def DisplaySettings.default : DisplaySettings :=
  ⟨10, "en"⟩

/-- The settings when none are given. -/
def Settings.default : Settings :=
  ⟨.default, .default⟩

/-- The settings with another backend or another token, where one is given. -/
def Settings.override (s : Settings) (url token : Option String) : Settings :=
  { s with backend := { s.backend with
    url := url.getD s.backend.url
    token := token.or s.backend.token } }

/-- A path below a directory. -/
def joinPath (dir name : String) : String :=
  if dir.isEmpty ∨ dir.endsWith "/" then dir ++ name else dir ++ "/" ++ name

/-- The directory of the settings: the given one, or one below the home directory, or one below the
current directory. -/
def dataDirectory (given home : Option String) : String :=
  match given, home with
  | some dir, _ => dir
  | none, some dir => joinPath dir ".certdash"
  | none, none => ".certdash"

end RunBoard
