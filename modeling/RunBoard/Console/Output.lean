import RunBoard.Backend.Operation
import RunBoard.Board.Call
import RunBoard.Task
import RunBoard.Json.Printer

/-!
# What commands write

A command asks the backend for operations, writes lines on the way, and either ends well or with an
error.  The lines for the user are results or notices, which go to different places.
-/

namespace RunBoard.Console

/-- A line that is written. -/
inductive Line where
  /-- A part of the result. -/
  | output (text : String)
  /-- What the user is told besides the result. -/
  | notice (text : String)
  deriving DecidableEq, Repr

/-- Why a command failed. -/
inductive Trouble where
  /-- A request failed; the text tells what was being attempted. -/
  | request (attempt : String) (error : RequestError)
  | action (error : ActionError)
  /-- The backend answered, but did not do what was asked. -/
  | refused (message : String)
  deriving DecidableEq, Repr

/-- The texts that tell of an error, the outermost first. -/
def Trouble.chain : Trouble → List String
  | request attempt e => [attempt, e.message]
  | action e => [e.message]
  | refused message => [message]

/-- The course of a command: it asks for operations and writes lines. -/
abbrev Course := Task Backend.Operation Backend.Operation.Result Line

/-- Asks for a page of runs. -/
def askPage (q : Query) : Course (Except RequestError Page) :=
  Task.query (.list q : Backend.Operation)

/-- Asks for one run. -/
def askRun (id : RunId) : Course (Except RequestError Run) :=
  Task.query (.fetch id : Backend.Operation)

/-- Asks for the removal of runs. -/
def askRemoval (ids : List RunId) : Course (Except RequestError Bool) :=
  Task.query (.remove ids : Backend.Operation)

/-- Asks for the cancellation of a run. -/
def askCancellation (workflow : String) (id : RunId) : Course (Except RequestError Bool) :=
  Task.query (.cancel workflow id : Backend.Operation)

/-- Asks for the statistics. -/
def askStatistics : Course (Except RequestError Statistics) :=
  Task.query Backend.Operation.statistics

/-- Writes a part of the result. -/
def say (text : String) : Course Unit :=
  Task.emit (.output text)

/-- Writes several lines of the result. -/
def sayAll (texts : List String) : Course Unit :=
  Task.emitAll (texts.map .output)

/-- Writes a value as the result. -/
def sayJson (v : Json) : Course Unit :=
  say v.pretty

/-- The notice of a failed request. -/
def failureNotice (description : String) : Line :=
  .notice ("  ✗ " ++ requestErrorTitle ++ ": " ++ description)

end RunBoard.Console
