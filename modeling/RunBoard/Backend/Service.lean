import RunBoard.Backend.Client
import RunBoard.Board.Call

/-!
# The backend in the service of boards

A board's calls, answered by the operations of the backend and by subscriptions.  Nothing arrives
while a call is answered; what arrives later is handed to the board by whoever runs it.
-/

namespace RunBoard.Backend

/-- How a board is served: with operations and with subscriptions. -/
structure Service (m : Type → Type) where
  perform : (op : Operation) → m op.Result
  subscribe : RunId → m (Except RequestError Bool)

namespace Service

/-- The outcomes of subscriptions, asked for one after the other. -/
def subscribeAll {m : Type → Type} [Monad m] (s : Service m) :
    List RunId → m (List (RunId × Except RequestError Bool))
  | [] => pure []
  | id :: ids => do
    let outcome ← s.subscribe id
    let outcomes ← subscribeAll s ids
    return (id, outcome) :: outcomes

/-- Answers a call of a board. -/
def answer {m : Type → Type} [Monad m] (s : Service m) : (c : Call) → m (Call.Answer c)
  | .list q => do return ⟨← s.perform (.list q), []⟩
  | .remove ids => do return ⟨← s.perform (.remove ids), []⟩
  | .cancel workflow id => do return ⟨← s.perform (.cancel workflow id), []⟩
  | .subscribe id => do return ⟨← s.subscribe id, []⟩
  | .subscribeAll ids => do
    let outcomes ← s.subscribeAll ids
    let result (id : RunId) : Except RequestError Bool := (outcomes.lookup id).getD (.ok false)
    return ⟨some result, []⟩

end Service

end RunBoard.Backend
