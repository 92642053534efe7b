import RunBoard.Realtime.Topics
import RunBoard.Backend.Record

/-!
# The hub

All listeners share one connection to the backend.  The first listener of a topic opens it: the hub
waits for the connection, takes its turn among those who post, and posts the topics that somebody
listens to.  Those who come while a topic is being opened wait for the outcome, and if it fails, all
listeners of the topic are taken off.

Every subscription that has not ended, and every posting in the background, is an errand with a
ticket.  An errand moves only when it is its turn, so that the events of a hub are the points
between which its state can be seen: `Hub.step` says what each of them does.
-/

namespace RunBoard.Realtime

open RunBoard.Text

/-- How far an errand is that posts the topics. -/
inductive Progress where
  /-- It waits for the name that the connection gives to the client. -/
  | connecting
  /-- It waits for its turn to post. -/
  | queued
  /-- It has posted topics under a name and waits for the answer. -/
  | posting (client : String) (topics : List String)
  deriving DecidableEq, Repr

/-- What an errand is about. -/
inductive Errand where
  /-- Opens a topic for its first listener. -/
  | opening (topic : String) (listener : Listener) (progress : Progress)
  /-- Waits for the outcome of an entry.  `latest` is the last state of the handshake that was made
  known, and the entry may have gone since. -/
  | joining (topic : String) (listener : Listener) (serial : Nat) (latest : Handshake) (gone : Bool)
  /-- Posts the topics again after one has gone. -/
  | shrinking (progress : Progress)
  /-- Posts the topics again after a connection has been made, which waits for it. -/
  | restoring (progress : Progress)
  deriving DecidableEq, Repr

/-- The progress of an errand that posts the topics. -/
def Errand.progress? : Errand → Option Progress
  | opening _ _ p | shrinking p | restoring p => some p
  | joining _ _ _ _ _ => none

/-- An errand at another point of its progress. -/
def Errand.at (p : Progress) : Errand → Errand
  | opening topic l _ => opening topic l p
  | shrinking _ => shrinking p
  | restoring _ => restoring p
  | e => e

/-- Whether the connection waits for an errand. -/
def Errand.isRestoring : Errand → Bool
  | restoring _ => true
  | _ => false

/-- What identifies an errand. -/
abbrev Ticket := Nat

/-- What a hub does to its surroundings. -/
inductive Effect where
  /-- A connection is opened. -/
  | connect
  /-- The connection is closed. -/
  | disconnect
  /-- The topics are posted on behalf of an errand. -/
  | post (ticket : Ticket) (client : String) (topics : List String)
  | deliver (listener : Listener) (patch : Patch)
  /-- A subscription has ended. -/
  | finish (ticket : Ticket) (result : Except RequestError Bool)

/-- What happens to a hub. -/
inductive HubEvent where
  /-- A listener wants a topic; the ticket is for the time that this takes. -/
  | subscribe (ticket : Ticket) (topic : String) (listener : Listener)
  | unsubscribe (ticket : Ticket) (topic : String) (listener : Listener)
  /-- Nobody waits for a subscription any more. -/
  | drop (ticket : Ticket)
  /-- An errand looks whether it can go on. -/
  | resume (ticket : Ticket)
  /-- The time to wait for a connection is over. -/
  | expire (ticket : Ticket)
  /-- The answer to a post. -/
  | posted (ticket : Ticket) (result : Except RequestError Unit)
  /-- A message has come; the ticket is for what it may lead to. -/
  | message (ticket : Ticket) (name data : String)
  /-- The connection is lost, and the backend is being called again. -/
  | lost
  /-- The connection is lost for good. -/
  | ended
  deriving Repr

/-- The state of a hub. -/
structure Hub where
  /-- How long to wait for a connection, in milliseconds. -/
  patience : Nat
  topics : Topics
  /-- The name that the connection gives to the client. -/
  client : Option String
  /-- Whether there is a connection, or one is being made. -/
  streaming : Bool
  errands : List (Ticket × Errand)
  /-- The errands that want to post, in the order of their turns. -/
  turns : List Ticket
  deriving Repr

namespace Hub

/-- The message that tells of a new connection. -/
def greeting : String := "PB_CONNECT"

/-- A hub that nobody has used. -/
def new (patience : Nat) : Hub :=
  ⟨patience, .empty, none, false, [], []⟩

/-- Whether the connection has given a name to the client. -/
def isConnected (h : Hub) : Bool :=
  h.client.isSome

/-- The errand of a ticket. -/
def errand? (h : Hub) (ticket : Ticket) : Option Errand :=
  h.errands.lookup ticket

/-- Whether messages are read: there is a connection, and it does not wait for an errand. -/
def reads (h : Hub) : Bool :=
  h.streaming && !h.errands.any (·.2.isRestoring)

/-- Puts an errand in the place of the one with its ticket, or behind all others. -/
def put (h : Hub) (ticket : Ticket) (e : Errand) : Hub :=
  if (h.errand? ticket).isSome then
    { h with errands := h.errands.map fun p => if p.1 = ticket then (ticket, e) else p }
  else { h with errands := h.errands ++ [(ticket, e)] }

/-- Takes an errand out, with its turn. -/
def remove (h : Hub) (ticket : Ticket) : Hub :=
  { h with
    errands := h.errands.filter (·.1 ≠ ticket)
    turns := h.turns.filter (· ≠ ticket) }

/-! ### Outcomes of a handshake -/

/-- Tells all who wait for an entry of its state. -/
def announce (h : Hub) (serial : Nat) (state : Handshake) (gone : Bool) : Hub :=
  { h with errands := h.errands.map fun (ticket, e) =>
      match e with
      | .joining topic l s latest was =>
        if s = serial then (ticket, .joining topic l s state (was || gone))
        else (ticket, .joining topic l s latest was)
      | e => (ticket, e) }

/-- Closes the connection, with the errand that it waits for. -/
def disconnect (h : Hub) : Hub × List Effect :=
  let dropped := (h.errands.filter (·.2.isRestoring)).map (·.1)
  ({ dropped.foldl remove h with client := none, streaming := false },
    if h.streaming then [.disconnect] else [])

/-- Closes the connection if nobody listens to anything. -/
def disconnectIfIdle (h : Hub) : Hub × List Effect :=
  if h.topics.isEmpty then h.disconnect else (h, [])

/-- Takes a topic out with all its listeners, and tells those who wait for it why. -/
def abandon (h : Hub) (topic message : String) : Hub × List Effect :=
  let h := match h.topics.find? topic with
    | none => h
    | some e => { h with topics := h.topics.erase topic }.announce e.serial (.failed message) true
  h.disconnectIfIdle

/-- Marks a topic as known to the backend. -/
def activate (h : Hub) (topic : String) : Hub :=
  match h.topics.find? topic with
  | none => h
  | some e =>
    { h with topics := h.topics.modify topic fun e => { e with handshake := .active } }.announce
      e.serial .active false

/-- Takes a listener off a topic.  Gives whether the topic has gone. -/
def unregister (h : Hub) (topic : String) (l : Listener) : Hub × Bool :=
  match h.topics.unregister topic l with
  | (topics, none) => ({ h with topics }, false)
  | (topics, some e) => ({ h with topics }.announce e.serial e.handshake true, true)

/-! ### Errands -/

/-- Ends an errand that posts the topics.  An opening settles its topic: with its success the topic
is marked as known, and with its failure all listeners are taken off. -/
def conclude (h : Hub) (ticket : Ticket) (e : Errand) (result : Except RequestError Unit) :
    Hub × List Effect :=
  let h := h.remove ticket
  match e, result with
  | .opening topic _ _, .ok () => (h.activate topic, [.finish ticket (.ok true)])
  | .opening topic _ _, .error err =>
    let (h, effects) := h.abandon topic err.message
    (h, effects ++ [.finish ticket (.error err)])
  | _, _ => (h, [])

/-- Lets an errand post if it is its turn, or else wait for it. -/
def post (h : Hub) (ticket : Ticket) (e : Errand) : Hub × List Effect :=
  if h.turns.head? ≠ some ticket then (h.put ticket (e.at .queued), [])
  else match h.client with
    | none => h.conclude ticket e (.error (.realtime "realtime connection lost"))
    | some client =>
      let names := h.topics.names
      (h.put ticket (e.at (.posting client names)), [.post ticket client names])

/-- Puts an errand behind those that want to post. -/
def queue (h : Hub) (ticket : Ticket) (e : Errand) : Hub × List Effect :=
  { h with turns := h.turns ++ [ticket] }.post ticket e

/-- Ends a subscription that has joined a topic, if the outcome is known. -/
def await (h : Hub) (ticket : Ticket) (topic : String) (l : Listener) (latest : Handshake)
    (gone : Bool) : Hub × List Effect :=
  match latest with
  | .active => (h.remove ticket, [.finish ticket (.ok true)])
  | .failed message => (h.remove ticket, [.finish ticket (.error (.realtime message))])
  | .pending =>
    if gone then
      (((h.remove ticket).unregister topic l).1,
        [.finish ticket (.error (.realtime "realtime topic closed during its handshake"))])
    else (h, [])

/-- Lets an errand go on as far as it can. -/
def resume (h : Hub) (ticket : Ticket) : Hub × List Effect :=
  match h.errand? ticket with
  | none => (h, [])
  | some e =>
    match e with
    | .joining topic l _ latest gone => h.await ticket topic l latest gone
    | .opening _ _ progress | .shrinking progress | .restoring progress =>
      match progress with
      | .connecting => if h.isConnected then h.queue ticket e else (h, [])
      | .queued => h.post ticket e
      | .posting _ _ => (h, [])

/-- The error of an errand that has waited too long for a connection. -/
def noConnection (patience : Nat) : RequestError :=
  .realtime ("no realtime connection after " ++ decimal (patience / 1000) ++ "s")

/-- The error of an errand whose post has failed. -/
def notPosted (e : RequestError) : RequestError :=
  .realtime ("subscription update failed: " ++ e.message)

/-! ### What each event does -/

/-- Opens a connection unless there is one. -/
def connect (h : Hub) : Hub × List Effect :=
  if h.streaming then (h, []) else ({ h with streaming := true }, [.connect])

/-- A listener wants a topic. -/
def subscribe (h : Hub) (ticket : Ticket) (topic : String) (l : Listener) : Hub × List Effect :=
  match h.topics.register topic l with
  | (_, .redundant) => (h, [.finish ticket (.ok false)])
  | (topics, .joined e) =>
    ({ h with topics }.put ticket (.joining topic l e.serial e.handshake false)).resume ticket
  | (topics, .first _) =>
    let (h, connected) := { h with topics }.connect
    let (h, effects) := (h.put ticket (.opening topic l .connecting)).resume ticket
    (h, connected ++ effects)

/-- A listener does not want a topic any more. -/
def unsubscribe (h : Hub) (ticket : Ticket) (topic : String) (l : Listener) : Hub × List Effect :=
  match h.unregister topic l with
  | (h, false) => (h, [])
  | (h, true) =>
    if h.topics.isEmpty then h.disconnect else (h.put ticket (.shrinking .connecting), [])

/-- Nobody waits for a subscription any more: a topic that it was to open is given up. -/
def drop (h : Hub) (ticket : Ticket) : Hub × List Effect :=
  match h.errand? ticket with
  | some (.opening topic _ _) =>
    (h.remove ticket).abandon topic "subscription dropped before the realtime handshake finished"
  | some (.joining _ _ _ _ _) => (h.remove ticket, [])
  | _ => (h, [])

/-- Ends an errand that still waits for a connection. -/
def expire (h : Hub) (ticket : Ticket) : Hub × List Effect :=
  match h.errand? ticket with
  | some e =>
    if e.progress? = some .connecting ∧ !h.isConnected then
      h.conclude ticket e (.error (noConnection h.patience))
    else (h, [])
  | none => (h, [])

/-- Takes in the answer to a post. -/
def posted (h : Hub) (ticket : Ticket) (result : Except RequestError Unit) : Hub × List Effect :=
  match h.errand? ticket with
  | some e =>
    match e.progress? with
    | some (.posting _ _) => h.conclude ticket e (result.mapError notPosted)
    | _ => (h, [])
  | none => (h, [])

/-- Takes the name that a new connection gives to the client, and posts the topics under it. -/
def greet (h : Hub) (ticket : Ticket) (data : String) : Hub × List Effect :=
  match Json.decodeText Backend.decodeGreeting data with
  | .error _ => (h, [])
  | .ok client =>
    let h := { h with client := some client }
    if h.topics.isEmpty then (h, []) else h.queue ticket (.restoring .queued)

/-- Hands a message to all who listen to its topic. -/
def deliver (h : Hub) (topic data : String) : List Effect :=
  match h.topics.listeners topic with
  | [] => []
  | listeners =>
    match Json.decodeText Patch.decode data with
    | .error _ => []
    | .ok patch => listeners.map fun l => .deliver l patch

/-- Takes in a message. -/
def message (h : Hub) (ticket : Ticket) (name data : String) : Hub × List Effect :=
  if name = greeting then h.greet ticket data else (h, h.deliver name data)

/-- What an event does.  Nothing is read from a connection that is not there, or that waits for the
topics to be posted. -/
def step (h : Hub) : HubEvent → Hub × List Effect
  | .subscribe ticket topic l => h.subscribe ticket topic l
  | .unsubscribe ticket topic l => h.unsubscribe ticket topic l
  | .drop ticket => h.drop ticket
  | .resume ticket => h.resume ticket
  | .expire ticket => h.expire ticket
  | .posted ticket result => h.posted ticket result
  | .message ticket name data => if h.reads then h.message ticket name data else (h, [])
  | .lost => if h.reads then ({ h with client := none }, []) else (h, [])
  | .ended => if h.reads then ({ h with client := none, streaming := false }, []) else (h, [])

/-- What events do one after the other. -/
def run (h : Hub) : List HubEvent → Hub × List Effect
  | [] => (h, [])
  | event :: events =>
    let (h, effects) := h.step event
    let (h, more) := run h events
    (h, effects ++ more)

end Hub

end RunBoard.Realtime
