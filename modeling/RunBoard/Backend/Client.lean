import RunBoard.Backend.Operation
import RunBoard.Settings
import RunBoard.Url.Reader

/-!
# The client of the backend

The client knows the address of the backend and the token that goes with every request.  It refuses
a request that cannot be made: one whose URL cannot be read or does not lead to the web, or one
whose token cannot stand in a header.
-/

namespace RunBoard.Backend

/-- The address of the backend and the token that goes with every request. -/
structure Client where
  base : String
  token : Option String
  deriving DecidableEq, Repr

namespace Client

/-- A text without the slashes at its end. -/
def trimSlashes (s : String) : String :=
  String.ofList (s.toList.reverse.dropWhile (· = '/')).reverse

/-- The client for a backend. -/
def of (s : BackendSettings) : Client :=
  ⟨trimSlashes s.url, s.token⟩

/-- The URL of a path of the backend, as it is put together. -/
def url (c : Client) (path : String) : String :=
  c.base ++ path

/-- Whether a text can stand in a header: it has no control characters but tabs. -/
def isHeaderText (s : String) : Bool :=
  s.toList.all fun c => c = '\t' || (0x20 ≤ c.toNat && c.toNat ≠ 0x7F)

/-- The error of a request that cannot be made. -/
def unmade : RequestError :=
  .transport "builder error"

/-- The error of a request for a URL that does not lead to the web. -/
def unmadeFor (u : Url) : RequestError :=
  .transport ("builder error for url (" ++ u.text ++ ")")

/-- The URL of a request, or why it cannot be made. -/
def address (c : Client) (r : Request) : Except RequestError Url :=
  match Url.read? (c.url r.path) with
  | none => .error unmade
  | some u =>
    if (u.host.getD "").isEmpty then .error (unmadeFor u)
    else if !(c.token.all isHeaderText) then .error unmade
    else
      let u := u.withParameters r.parameters
      if u.isWeb then .ok u else .error (unmadeFor u)

/-- Carries out an operation over the web. -/
def perform {m : Type → Type} [Monad m] (c : Client) (send : Url → Request → m Reply)
    (op : Operation) : m op.Result :=
  match op.request with
  | none => pure op.idle
  | some r =>
    match c.address r with
    | .error e => pure (op.failed e)
    | .ok u => do
      let reply ← send u r
      return op.read u.text reply

end Client

end RunBoard.Backend
