import RunBoard.Backend.Record
import RunBoard.Json.Decoder

/-!
# Replies

What comes back for a request over the web, and which result it stands for.  Only a status from 200
to 299 is a success.  A missing record has an error of its own; every other status is reported with
the message of its body, or else with the usual reason for the status.
-/

namespace RunBoard.Backend

open RunBoard.Json

/-- What comes back for a request. -/
inductive Reply where
  /-- Nothing, since the backend was not reached or closed the connection. -/
  | nothing
  /-- Nothing in time. -/
  | late
  | answer (status : Nat) (body : String)
  deriving DecidableEq, Repr

/-- Whether a status stands for a success. -/
def isSuccess (status : Nat) : Bool :=
  200 ≤ status && status < 300

/-- The usual reason for a status. -/
def reason? : Nat → Option String
  | 100 => some "Continue"
  | 101 => some "Switching Protocols"
  | 102 => some "Processing"
  | 200 => some "OK"
  | 201 => some "Created"
  | 202 => some "Accepted"
  | 203 => some "Non Authoritative Information"
  | 204 => some "No Content"
  | 205 => some "Reset Content"
  | 206 => some "Partial Content"
  | 207 => some "Multi-Status"
  | 208 => some "Already Reported"
  | 226 => some "IM Used"
  | 300 => some "Multiple Choices"
  | 301 => some "Moved Permanently"
  | 302 => some "Found"
  | 303 => some "See Other"
  | 304 => some "Not Modified"
  | 305 => some "Use Proxy"
  | 307 => some "Temporary Redirect"
  | 308 => some "Permanent Redirect"
  | 400 => some "Bad Request"
  | 401 => some "Unauthorized"
  | 402 => some "Payment Required"
  | 403 => some "Forbidden"
  | 404 => some "Not Found"
  | 405 => some "Method Not Allowed"
  | 406 => some "Not Acceptable"
  | 407 => some "Proxy Authentication Required"
  | 408 => some "Request Timeout"
  | 409 => some "Conflict"
  | 410 => some "Gone"
  | 411 => some "Length Required"
  | 412 => some "Precondition Failed"
  | 413 => some "Payload Too Large"
  | 414 => some "URI Too Long"
  | 415 => some "Unsupported Media Type"
  | 416 => some "Range Not Satisfiable"
  | 417 => some "Expectation Failed"
  | 418 => some "I'm a teapot"
  | 421 => some "Misdirected Request"
  | 422 => some "Unprocessable Entity"
  | 423 => some "Locked"
  | 424 => some "Failed Dependency"
  | 425 => some "Too Early"
  | 426 => some "Upgrade Required"
  | 428 => some "Precondition Required"
  | 429 => some "Too Many Requests"
  | 431 => some "Request Header Fields Too Large"
  | 451 => some "Unavailable For Legal Reasons"
  | 500 => some "Internal Server Error"
  | 501 => some "Not Implemented"
  | 502 => some "Bad Gateway"
  | 503 => some "Service Unavailable"
  | 504 => some "Gateway Timeout"
  | 505 => some "HTTP Version Not Supported"
  | 506 => some "Variant Also Negotiates"
  | 507 => some "Insufficient Storage"
  | 508 => some "Loop Detected"
  | 510 => some "Not Extended"
  | 511 => some "Network Authentication Required"
  | _ => none

/-- The error of a status: with a message, or with the reason for the status if that is empty. -/
def statusError (status : Nat) (message : String) : RequestError :=
  .api status (if message.isEmpty then (reason? status).getD "request failed" else message)

/-- The message in the body of an error, empty if there is none. -/
def errorMessage (body : String) : String :=
  ((decodeText decodeErrorMessage body).toOption).getD ""

/-- The body of a reply to a request for a URL, if it stands for a success. -/
def Reply.body (url : String) : Reply → Except RequestError String
  | .nothing => .error (.transport (sendingError url))
  | .late => .error (.transport ("request timed out: " ++ sendingError url))
  | .answer status body =>
    if isSuccess status then .ok body
    else if status = 404 then .error .notFound
    else .error (statusError status (errorMessage body))
where
  /-- What is said of a request for a URL that brought no answer. -/
  sendingError (url : String) : String :=
    "error sending request for url (" ++ url ++ ")"

/-- Decodes the body of a reply. -/
def decodeBody {α : Type} (d : Decoder α) (body : String) : Except RequestError α :=
  match decodeText d body with
  | .ok a => .ok a
  | .error _ => .error (.decode "error decoding response body")

/-- The message of one result of a batch, empty if there is none. -/
def BatchResult.message (r : BatchResult) : String :=
  match r.body.member? "message" with
  | some (.string m) => m
  | _ => ""

/-- A batch is a success unless one of its results is a failure, and then its error is that of the
first failure. -/
def checkBatch (results : List BatchResult) : Except RequestError Unit :=
  match results.find? fun r => !isSuccess r.status with
  | none => .ok ()
  | some r => .error (statusError r.status r.message)

end RunBoard.Backend
