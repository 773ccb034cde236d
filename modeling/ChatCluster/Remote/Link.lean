import ChatCluster.Remote.Bus
import ChatCluster.Table

/-!
# A Link to a Server

A store and a bus in one server, as a test sees them: it says what the server replies and looks at
what the server was sent. One connection serves all calls to the store, one all that is published,
and each subscription has its own. A connection is lost when the server closes it or replies with
something that cannot be read. What needs it fails from then on, but a new subscription connects
anew.

## Main definitions

* `Link`: The store, the bus, and the subscriptions a test holds.
* `Link.connect`: A link is made.
* `Link.storeCall`, `Link.publish`, `Link.subscribe`: Calls.
* `Link.push`, `Link.hangUp`: What the server does.
* `Link.receive`, `Link.untap`: What a receiver does.
-/

namespace ChatCluster

/-- A store and a bus in one server, and the subscriptions a test holds. -/
structure Link where
  /-- For how many milliseconds a reply is waited for. -/
  opTimeout : Nat
  /-- How many frames may wait for a receiver. -/
  queueCapacity : Nat
  /-- The connection for calls to the store is there. -/
  storeConnected : Bool
  /-- The connection for publishing is there. -/
  busConnected : Bool
  /-- All subscriptions, oldest first. -/
  subscriptions : List RemoteSubscription
  /-- The receiving sides that are held, by their place among the subscriptions. -/
  taps : Table String Nat
  /-- How much has arrived that was no frame. -/
  unreadable : Nat

namespace Link

/-- A link is made, if the server answers. -/
def connect (answers : Bool) (opTimeout queueCapacity : Nat) : Except StoreError Link :=
  if answers then
    .ok
      { opTimeout, queueCapacity := max 1 queueCapacity, storeConnected := true,
        busConnected := true, subscriptions := [], taps := .empty, unreadable := 0 }
  else .error RemoteStore.lost

/-- How the store is shown. -/
def storeLabel (link : Link) : String :=
  "RedisStore \x7b op_timeout: " ++ Decimal.durationText link.opTimeout ++ " \x7d"

/-- How the bus is shown. -/
def busLabel (link : Link) : String :=
  "RedisBus \x7b op_timeout: " ++ Decimal.durationText link.opTimeout ++
    ", subscriber_queue_capacity: " ++ Decimal.natText link.queueCapacity ++ " \x7d"

/-- A connection is still there after so many of the replies: all that arrived can be read. -/
def survives (arrived : Nat) (replies : List Reply) : Bool :=
  !(replies.take arrived).any Reply.isTooDeep

/-- A call to the store, given the replies. -/
def storeCall (link : Link) (call : StoreCall) (replies : List Reply) :
    (List Command × Except StoreError call.Result) × Link :=
  if link.storeConnected then
    let (commands, result) := RemoteStore.call link.opTimeout call replies
    ((commands, result), { link with storeConnected := survives commands.length replies })
  else (([], .error RemoteStore.lost), link)

/-- A frame is published, given the replies. -/
def publish (link : Link) (topic : String) (frame : Bytes) (replies : List Reply) :
    (List Command × Except BusError Unit) × Link :=
  if link.busConnected then
    let (commands, result) := RemoteBus.publish link.opTimeout topic frame replies
    ((commands, result), { link with busConnected := survives commands.length replies })
  else (([], .error RemoteBus.lost), link)

/-- All readers do what they can. -/
def advance (link : Link) : Link :=
  let results := link.subscriptions.map RemoteSubscription.advance
  { link with
    subscriptions := results.map Prod.fst
    unreadable := link.unreadable + results.foldl (fun n r => n + r.2) 0 }

/-- Changes the subscription at a place. -/
def update (link : Link) (place : Nat) (f : RemoteSubscription → RemoteSubscription) : Link :=
  advance { link with subscriptions := link.subscriptions.modify place f }

/-- The receiver at a place leaves, if there is a place. -/
def leave (link : Link) : Option Nat → Link
  | none => link
  | some place => link.update place RemoteSubscription.leave

/-- A topic is subscribed to, given the replies and whether the server takes note of it. A
    receiving side that was held under the same name is dropped afterwards. -/
def subscribe (link : Link) (topic tap : String) (confirmed : Bool) (replies : List Reply) :
    (List Command × Except BusError Unit) × Link :=
  let (commands, result) := RemoteBus.subscribe link.opTimeout topic replies
  match result with
  | .error e => ((commands, .error e), link)
  | .ok () =>
    let new := RemoteSubscription.new topic confirmed link.queueCapacity
    let held := link.taps.find? tap
    let link :=
      { link with
        subscriptions := link.subscriptions ++ [new]
        taps := link.taps.insert tap link.subscriptions.length }
    ((commands, .ok ()), link.leave held)

/-- The server sends something to all who listen on a topic; the result is how many they are. -/
def push (link : Link) (topic kind : String) (payload : Reply) : Nat × Link :=
  let listening := link.subscriptions.countP fun s => s.listensOn topic
  let subscriptions :=
    link.subscriptions.map fun s => if s.listensOn topic then s.push kind payload else s
  (listening, advance { link with subscriptions })

/-- The server closes all connections. -/
def hangUp (link : Link) : Link :=
  advance
    { link with
      storeConnected := false
      busConnected := false
      subscriptions := link.subscriptions.map RemoteSubscription.hangUp }

/-- What a receiver gets. -/
inductive Receipt where
  /-- A frame. -/
  | frame (bytes : Bytes)
  /-- Nothing yet. -/
  | nothing
  /-- Nothing any more. -/
  | closed
  /-- There is no such receiver. -/
  | unknown

/-- A receiver takes the frame that has waited longest. -/
def receive (link : Link) (tap : String) : Receipt × Link :=
  match link.taps.find? tap with
  | none => (.unknown, link)
  | some place =>
    match link.subscriptions[place]? with
    | none => (.unknown, link)
    | some s =>
      match s.box.take? with
      | some (frame, box) => (.frame frame, link.update place fun s => { s with box })
      | none => (if s.ended then .closed else .nothing, link)

/-- A receiving side is dropped; the result says whether it was held. -/
def untap (link : Link) (tap : String) : Bool × Link :=
  let held := link.taps.find? tap
  (held.isSome, leave { link with taps := link.taps.erase tap } held)

/-- The warnings since the last time somebody asked. -/
def takeWarnings (link : Link) : List String × Link :=
  (List.replicate link.unreadable RemoteBus.unreadableText, { link with unreadable := 0 })

end Link

end ChatCluster
