import ChatCluster.Bus.Topics
import ChatCluster.Mailbox
import ChatCluster.Remote.Store

/-!
# The Bus in a Server

A bus that lives in another process. Publishing is a command like any other. A subscription has a
connection of its own, on which the server sends whatever is published on the topic; a reader takes
it off there and puts it into a bounded queue. When the queue is full the reader waits, holding one
frame in its hands, and what the server sends piles up in the connection. Nothing is lost.

A reader ends when its connection is closed, after all that was sent on it before, or when it has
a frame to hand on and the receiver is gone, or at something too deeply nested to be read.

## Main definitions

* `RemoteBus.publish`, `RemoteBus.subscribe`: The commands.
* `RemoteSubscription`: A subscription with its reader.
* `RemoteSubscription.advance`: The reader does what it can.
* `RemoteSubscription.push`, `RemoteSubscription.hangUp`: What the server does.
-/

namespace ChatCluster

namespace RemoteBus

/-- A failure of the store as one of the bus. -/
def busError : StoreError → BusError
  | .unavailable reason => .unavailable reason
  | .timeout limit => .timeout limit
  | .codec => .unavailable "unexpected reply"

/-- One command, and its reply if there is one. -/
def ask (limit : Nat) (command : Command) (read : Reply → Option Unit) :
    List Reply → List Command × Except BusError Unit
  | [] => ([command], .error (.timeout limit))
  | r :: _ => ([command], (RemoteStore.readReply read r).mapError busError)

/-- Publishes a frame. How many have received it is of no interest. -/
def publish (limit : Nat) (topic : String) (frame : Bytes) :
    List Reply → List Command × Except BusError Unit :=
  ask limit [Text.utf8 "PUBLISH", Text.utf8 topic, frame] fun r => r.int?.map fun _ => ()

/-- Subscribes to a topic. Any reply but an error will do. -/
def subscribe (limit : Nat) (topic : String) : List Reply → List Command × Except BusError Unit :=
  ask limit (RemoteStore.command ["SUBSCRIBE", topic]) fun _ => some ()

/-- Why a call fails whose connection is lost. Nothing is sent then. -/
def lost : BusError :=
  .unavailable "connection lost"

/-- What people are warned about when something arrives that is no frame. -/
def unreadableText : String := "bus: unreadable payload"

end RemoteBus

/-- A subscription with its reader. -/
structure RemoteSubscription where
  /-- The topic. -/
  topic : String
  /-- The server has taken note of it. -/
  confirmed : Bool
  /-- What has been sent and not been read yet, oldest first. -/
  arrived : List Reply
  /-- The frame that the reader holds while the queue is full. -/
  held : Option Bytes
  /-- The frames that wait for the receiver. -/
  box : Mailbox Bytes
  /-- The server has closed the connection. -/
  hungUp : Bool
  /-- The reader has ended. -/
  ended : Bool

namespace RemoteSubscription

/-- A new subscription. -/
def new (topic : String) (confirmed : Bool) (capacity : Nat) : RemoteSubscription :=
  { topic, confirmed, arrived := [], held := none, box := .new capacity, hungUp := false,
    ended := false }

/-- The subscription when its reader has ended. -/
def finished (s : RemoteSubscription) : RemoteSubscription :=
  { s with arrived := [], held := none, box := s.box.closeSender, ended := true }

/-- What is sent cannot be read. It is sent as part of a list, which counts. -/
def cannotRead (payload : Reply) : Bool :=
  Reply.isTooDeep (.list [payload])

/-- The reader goes through what has arrived as far as it can, and counts what is no frame. An
    error in place of a frame is passed over. -/
def forward (s : RemoteSubscription) : (arrived : List Reply) → (unreadable : Nat) →
    RemoteSubscription × Nat
  -- Only when everything has been read does the end of the connection show.
  | [], unreadable => (if s.hungUp then s.finished else { s with arrived := [] }, unreadable)
  | r :: rest, unreadable =>
    if cannotRead r then (s.finished, unreadable)
    else if r.isError then s.forward rest unreadable
    else
      match r.payload? with
      | none => s.forward rest (unreadable + 1)
      | some frame =>
        match s.box.offer frame with
        | .ok box => forward { s with box } rest unreadable
        | .error .full => ({ s with held := some frame, arrived := rest }, unreadable)
        | .error .closed => (s.finished, unreadable)

/-- The reader does what it can, and counts what is no frame. -/
def advance (s : RemoteSubscription) : RemoteSubscription × Nat :=
  if s.ended then (s, 0)
  else
    match s.held with
    | none => s.forward s.arrived 0
    | some frame =>
      match s.box.offer frame with
      | .ok box => forward { s with box, held := none } s.arrived 0
      | .error .full => (s, 0)
      | .error .closed => (s.finished, 0)

/-- The server sends on the connection what is published on a topic. -/
def listensOn (s : RemoteSubscription) (topic : String) : Bool :=
  s.confirmed && s.topic = topic && !s.hungUp && !s.ended

/-- The kind of pushes that bring frames; others are passed over if they can be read. -/
def frameKind : String := "message"

/-- The server sends something on the connection. -/
def push (s : RemoteSubscription) (kind : String) (payload : Reply) : RemoteSubscription :=
  if kind = frameKind || cannotRead payload then { s with arrived := s.arrived ++ [payload] } else s

/-- The server closes the connection. -/
def hangUp (s : RemoteSubscription) : RemoteSubscription :=
  { s with hungUp := true }

/-- The receiver leaves. -/
def leave (s : RemoteSubscription) : RemoteSubscription :=
  { s with box := s.box.closeReceiver }

end RemoteSubscription

end ChatCluster
