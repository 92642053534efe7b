import RunBoard.Console.Invocation
import RunBoard.Backend.Client
import RunBoard.About
import RunBoard.SettingsFile
import RunBoard.Display.Detail

/-!
# What the program works with

The settings of the program once its file and its command line have been read, and what it tells
about itself.
-/

namespace RunBoard.Console

/-- The settings of the program, the directory that they come from, and what there is to tell about
the program. -/
structure Equipment where
  settings : Settings
  directory : String
  about : About
  deriving DecidableEq, Repr

namespace Equipment

/-- The equipment for a command line, given the file of settings if there is one, its directory, and
the versions of the environment and of the build. -/
def of (i : Invocation) (file : Option ByteArray) (directory : String)
    (environment build : Option String) : Equipment :=
  let settings := (Settings.ofFile file).override i.backend i.token
  ⟨settings, directory, About.of environment build settings.display.locale⟩

/-- The client of the backend. -/
def client (e : Equipment) : Backend.Client :=
  .of e.settings.backend

/-- The lines that tell about the program. -/
def lines (e : Equipment) : List String :=
  ["", "  " ++ programName ++ " " ++ e.about.version, "",
    labelled 12 "Backend" e.client.base,
    labelled 12 "Auth" (if e.settings.backend.token.isSome then "token" else "anonymous"),
    labelled 12 "Data dir" e.directory, "",
    labelled 12 "Source" e.about.sources,
    labelled 12 "Releases" e.about.releases,
    labelled 12 "Docs" e.about.documentation, ""]

/-- What there is to tell about the program, for other programs. -/
def summary (e : Equipment) : Json :=
  .ofMembers [
    ("version", .string e.about.version),
    ("repo_url", .string e.about.sources),
    ("download_url", .string e.about.releases),
    ("document_url", .string e.about.documentation),
    ("backend_url", .string e.client.base),
    ("authenticated", .bool e.settings.backend.token.isSome),
    ("data_dir", .string e.directory)]

end Equipment

end RunBoard.Console
