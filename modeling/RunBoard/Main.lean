import RunBoard.Backend.Service
import RunBoard.Console.Plan
import RunBoard.Realtime.Hub

/-!
# The program

Reads the command line, the environment and the file of settings, and carries out what they ask for.
There is no connection to any network in here: every request ends as if nothing had come back for
it.
-/

namespace RunBoard

open RunBoard.Console RunBoard.Backend

/-- The file of settings in a directory, if it can be read. -/
def readSettings (directory : String) : IO (Option ByteArray) := do
  try
    return some (← IO.FS.readBinFile (joinPath directory settingsFileName))
  catch _ =>
    return none

/-- Writes a line to where it belongs. -/
def write : Line → IO Unit
  | .output text => IO.println text
  | .notice text => IO.eprintln text

/-- Carries out an operation without a network. -/
def perform (e : Equipment) (op : Operation) : IO op.Result :=
  e.client.perform (fun _ _ => pure .nothing) op

/-- The backend without a network. -/
def service (e : Equipment) : Service IO where
  perform := perform e
  subscribe _ :=
    pure (.error (Realtime.Hub.noConnection (e.settings.backend.connectTimeout * 1000)))

/-- Takes a course of watching. -/
def take {α : Type} (e : Equipment) (t : WatchTask α) : IO α :=
  t.run (service e).answer fun
    | .line l => write l
    | .unsubscribe _ => pure ()

/-- A line without the break at its end. -/
def withoutBreak (line : String) : String :=
  String.ofList (match line.toList.reverse with
    | '\n' :: '\r' :: rest => rest.reverse
    | '\n' :: rest => rest.reverse
    | _ => line.toList)

/-- Carries out the lines that are typed until watching ends. -/
partial def followLines (e : Equipment) (w : Watch) : IO Unit := do
  let line ← (← IO.getStdin).getLine
  if line.isEmpty then take e w.stop
  else match ← take e (w.typed (withoutBreak line)) with
    | some w => followLines e w
    | none => take e w.stop

/-- Tells of an error with everything that has led to it. -/
def tellTrouble (t : Trouble) : IO Unit := do
  match t.chain with
  | [] => pure ()
  | outer :: causes =>
    IO.eprintln ("Error: " ++ outer)
    if !causes.isEmpty then
      IO.eprintln "\nCaused by:"
      for cause in causes do
        IO.eprintln ("    " ++ cause)

/-- The code with which the program ends when its command line asks for nothing that can be done. -/
def usageCode : Arguments.UsageError → UInt32
  | .helpWanted | .versionWanted => 0
  | _ => 2

/-- Carries out what a command line asks for.  Gives the code with which the program ends. -/
def carryOut (i : Invocation) : IO UInt32 := do
  let directory := dataDirectory (← IO.getEnv "CERTDASH_DATA_DIR") (← IO.getEnv "HOME")
  let file ← readSettings directory
  let e := Equipment.of i file directory (← IO.getEnv "CERTDASH_APP_VERSION") none
  match Plan.of i e with
  | .once course =>
    match ← course.run (perform e) write with
    | .ok () => return 0
    | .error t =>
      tellTrouble t
      return 1
  | .watch w =>
    followLines e (← take e w.start)
    return 0
  | .completions _ => return 0

end RunBoard

/-- The entry of the program. -/
def main (words : List String) : IO UInt32 := do
  let mut environment : List (String × String) := []
  for name in [RunBoard.backendVariable, RunBoard.tokenVariable] do
    if let some value ← IO.getEnv name then
      environment := (name, value) :: environment
  match RunBoard.Invocation.read environment words with
  | .ok i => RunBoard.carryOut i
  | .error e =>
    IO.eprintln "certdash: the command line asks for nothing that can be done"
    return RunBoard.usageCode e
