import RunBoard.Run.Basic

/-!
# Failures

Why a request to the backend brought no result, and why an action on a run was not taken.
-/

namespace RunBoard

open RunBoard.Text

/-- Why a request brought no result. -/
inductive RequestError where
  /-- Whoever made the request gave it up. -/
  | aborted
  | transport (message : String)
  /-- The backend answered with an error. -/
  | api (status : Nat) (message : String)
  | decode (message : String)
  | realtime (message : String)
  | notFound
  deriving DecidableEq, Repr

namespace RequestError

/-- The text that tells the user of an error. -/
def message : RequestError → String
  | aborted => "request aborted"
  | transport m => "transport error: " ++ m
  | api status m => "backend returned " ++ decimal status ++ ": " ++ m
  | decode m => "failed to decode response: " ++ m
  | realtime m => "realtime error: " ++ m
  | notFound => "entity not found"

/-- Whether the request was given up.  Nobody is told of such an error. -/
def isAbort : RequestError → Bool
  | aborted => true
  | _ => false

theorem isAbort_iff {e : RequestError} : e.isAbort = true ↔ e = aborted := by
  cases e <;> simp [isAbort]

end RequestError

/-- Why an action on a run was not taken. -/
inductive ActionError where
  | notCancellable (id : RunId) (status : Status)
  | notDeletable (id : RunId) (status : Status)
  | notOnPage (id : RunId)
  | nothingToDelete
  | request (error : RequestError)
  deriving DecidableEq, Repr

/-- The text that tells the user of an error. -/
def ActionError.message : ActionError → String
  | notCancellable id status =>
    "run " ++ id.text ++ " is " ++ status.name ++ " and can no longer be canceled"
  | notDeletable id status =>
    "run " ++ id.text ++ " is " ++ status.name ++ " and cannot be deleted until it finishes"
  | notOnPage id => "run " ++ id.text ++ " is not on the current page"
  | nothingToDelete => "no finished runs selected"
  | request e => e.message

end RunBoard
