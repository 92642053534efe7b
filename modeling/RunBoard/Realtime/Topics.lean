/-!
# Topics

Who listens to which topic.  A topic is in the table as long as it has listeners, and the table
tells when a topic gains its first listener and when it loses its last, since only then does the
backend have to know.  A topic that was lost and came back is a different entry, which its serial
number tells.
-/

namespace RunBoard.Realtime

/-- One who listens, to any number of topics. -/
structure Listener where
  number : Nat
  deriving DecidableEq, Repr

/-- How far the backend has been told of a topic. -/
inductive Handshake where
  | pending
  | active
  | failed (message : String)
  deriving DecidableEq, Repr

/-- A topic in the table. -/
structure Entry where
  topic : String
  /-- The number of entries made before this one. -/
  serial : Nat
  /-- Those who listen, in the order in which they came. -/
  listeners : List Listener
  handshake : Handshake
  deriving DecidableEq, Repr

/-- The topics that somebody listens to. -/
structure Topics where
  entries : List Entry
  /-- The serial number of the next entry. -/
  next : Nat
  deriving DecidableEq, Repr

/-- What became of a wish to listen. -/
inductive Registration where
  /-- The listener is registered on the topic already. -/
  | redundant
  /-- The topic is new, under a serial number. -/
  | first (serial : Nat)
  /-- The listener has joined an entry. -/
  | joined (entry : Entry)
  deriving DecidableEq, Repr

namespace Topics

/-- No topics. -/
def empty : Topics := ⟨[], 0⟩

/-- The entry of a topic. -/
def find? (t : Topics) (topic : String) : Option Entry :=
  t.entries.find? (·.topic == topic)

/-- The number of topics. -/
def size (t : Topics) : Nat :=
  t.entries.length

/-- Whether nobody listens to anything. -/
def isEmpty (t : Topics) : Bool :=
  t.entries.isEmpty

/-- Those who listen to a topic. -/
def listeners (t : Topics) (topic : String) : List Listener :=
  ((t.find? topic).map Entry.listeners).getD []

/-- Puts a text into an ascending list of texts. -/
def insertName (name : String) : List String → List String
  | [] => [name]
  | other :: rest =>
    if other < name then other :: insertName name rest else name :: other :: rest

/-- The names of the topics in ascending order. -/
def names (t : Topics) : List String :=
  t.entries.foldr (fun e acc => insertName e.topic acc) []

/-- Changes the entry of a topic. -/
def modify (t : Topics) (topic : String) (f : Entry → Entry) : Topics :=
  { t with entries := t.entries.map fun e => if e.topic = topic then f e else e }

/-- Takes a topic out, with all who listen to it. -/
def erase (t : Topics) (topic : String) : Topics :=
  { t with entries := t.entries.filter (·.topic ≠ topic) }

/-- Registers a listener on a topic. -/
def register (t : Topics) (topic : String) (l : Listener) : Topics × Registration :=
  match t.find? topic with
  | none => (⟨t.entries ++ [⟨topic, t.next, [l], .pending⟩], t.next + 1⟩, .first t.next)
  | some e =>
    if l ∈ e.listeners then (t, .redundant)
    else
      let joined := { e with listeners := e.listeners ++ [l] }
      (t.modify topic fun _ => joined, .joined joined)

/-- Takes a listener off a topic.  Gives the entry if it has gone with its last listener. -/
def unregister (t : Topics) (topic : String) (l : Listener) : Topics × Option Entry :=
  match t.find? topic with
  | none => (t, none)
  | some e =>
    if l ∉ e.listeners then (t, none)
    else
      let rest := e.listeners.filter (· ≠ l)
      if rest.isEmpty then (t.erase topic, some e)
      else (t.modify topic fun e => { e with listeners := rest }, none)

end Topics

end RunBoard.Realtime
