import ChatCluster.Instance.Registry
import ChatCluster.Wire.Frame

/-!
# The Router

Where a message goes. Notices go to everybody by way of the broadcast topic. A message for one
user goes to the instance that owns the user: if that is this one, straight into the session's
queue, otherwise as a frame on the owner's topic. A message for a room becomes one message for
each member but the sender.

Routing never fails. What cannot be delivered is dropped, and the outcome says why. A frame that
arrives is treated the same way: whatever cannot be read or delivered is dropped.

## Main definitions

* `DropReason`, `RouteOutcome`: What became of a message.
* `Router`: Who routes, and on which topics.
* `Router.route`: Sends a message on its way.
* `Router.deliver`: Hands a message that has arrived to the sessions it is for.
* `Router.receive`: Takes in one frame.
-/

namespace ChatCluster

open Operation

/-- Why a message went nowhere. -/
inductive DropReason where
  /-- It names neither receiver nor room. -/
  | noTarget
  /-- Its receiver is not attached anywhere. -/
  | unknownReceiver
  /-- The owner or the members could not be read. -/
  | storeUnavailable
  /-- Its receiver is attached here but does not take it. -/
  | localSessionClosed
  /-- The frame could not be published. -/
  | publishFailed
  deriving DecidableEq, Repr

/-- What became of a message. -/
inductive RouteOutcome where
  /-- It is in the queue of its receiver's session here. -/
  | delivered
  /-- It is on the way to the owner of its receiver. -/
  | published (owner : InstanceId)
  /-- It is on the way to everybody. -/
  | broadcast
  /-- So many members of its room are being served. -/
  | room (recipients : Nat)
  /-- It went nowhere. -/
  | dropped (reason : DropReason)
  deriving DecidableEq, Repr

/-- How a reason for dropping is counted. -/
def DropReason.routedAs : DropReason → RoutedAs
  | noTarget => .noTarget
  | unknownReceiver => .unknownReceiver
  | storeUnavailable => .storeUnavailable
  | localSessionClosed => .localSessionClosed
  | publishFailed => .publishFailed

/-- How an outcome is counted. -/
def RouteOutcome.routedAs : RouteOutcome → RoutedAs
  | delivered => .delivered
  | published _ => .published
  | broadcast => .broadcast
  | room _ => .room
  | dropped reason => reason.routedAs

/-- The message has been handed on to its one receiver. -/
def RouteOutcome.reachesReceiver : RouteOutcome → Bool
  | delivered | published _ => true
  | broadcast | room _ | dropped _ => false

/-- Who routes, and on which topics. -/
structure Router where
  /-- The instance. -/
  id : InstanceId
  /-- The topics of its cluster. -/
  topics : Topics
  deriving DecidableEq, Repr

namespace Router

/-- Publishes a message as a frame, and says whether it is on the bus. -/
def publish (self : Router) (topic : String) (m : Message) : Operation Bool := do
  match BusFrame.encode { origin := self.id, message := m } with
  | .error _ =>
    warn .frameNotEncoded
    return false
  | .ok frame =>
    match ← perform (.publish topic frame) with
    | .ok () => return true
    | .error _ =>
      warn .publishFailed
      return false

/-- Offers a message to the receiver's session here, and says whether it was taken. -/
def deliverTo (receiver : UserId) (m : Message) : Operation Bool := do
  match ← perform (.findSession receiver) with
  | none => return false
  | some session =>
    if ← perform (.isOpen session) then
      match ← perform (.offer session (.message m)) with
      | .ok () => return true
      | .error _ => return false
    else return false

/-- Sends a message on its way to one user. -/
def routeDirect (self : Router) (receiver : UserId) (m : Message) : Operation RouteOutcome := do
  match ← Registrar.owner? receiver with
  | .error _ =>
    warn .ownerLookupFailed
    return .dropped .storeUnavailable
  | .ok none =>
    warn .receiverNotConnected
    return .dropped .unknownReceiver
  | .ok (some owner) =>
    if owner = self.id then
      if ← deliverTo receiver m then return .delivered
      else return .dropped .localSessionClosed
    else
      if ← self.publish (self.topics.ofInstance owner) m then return .published owner
      else return .dropped .publishFailed

/-- Sends a copy of a message to each of some members, and counts those served. -/
def routeCopies (self : Router) (m : Message) : List UserId → (served : Nat) → Operation Nat
  | [], served => return served
  | member :: rest, served => do
    let outcome ← self.routeDirect member (m.addressedTo member)
    self.routeCopies m rest (if outcome.reachesReceiver then served + 1 else served)

/-- Sends a copy of a message to each member of a room but its sender. -/
def routeRoom (self : Router) (room : RoomId) (m : Message) : Operation RouteOutcome := do
  match ← Registrar.roomMembers room with
  | .error _ =>
    warn .membershipUnavailable
    return .dropped .storeUnavailable
  | .ok members =>
    let served ← self.routeCopies m (members.filter fun u => u ≠ m.sender) 0
    return .room served

/-- Sends a message to everybody. -/
def routeBroadcast (self : Router) (m : Message) : Operation RouteOutcome := do
  if ← self.publish self.topics.broadcast m then return .broadcast
  else return .dropped .publishFailed

/-- Sends a message where it belongs. -/
def dispatch (self : Router) (m : Message) : Operation RouteOutcome :=
  if m.kind.isBroadcast then self.routeBroadcast m
  else
    -- A receiver goes before a room.
    match m.receiver, m.room with
    | some receiver, _ => self.routeDirect receiver m
    | none, some room => self.routeRoom room m
    | none, none => do
      warn .messageHasNoTarget
      return .dropped .noTarget

/-- Sends a message where it belongs, and counts the outcome. -/
def route (self : Router) (m : Message) : Operation RouteOutcome := do
  let outcome ← self.dispatch m
  count (.routedMessages outcome.routedAs)
  return outcome

/-- Offers a message to each of some sessions, and counts those that took it. -/
def deliverEach (m : Message) : List SessionHandle → (delivered : Nat) → Operation Nat
  | [], delivered => return delivered
  | session :: rest, delivered => do
    if ← perform (.isOpen session) then
      match ← perform (.offer session (.message m)) with
      | .ok () => deliverEach m rest (delivered + 1)
      | .error _ => deliverEach m rest delivered
    else deliverEach m rest delivered

/-- Hands a message that has arrived to the sessions it is for, and counts those that took it. -/
def deliver (m : Message) : Operation Nat := do
  if m.kind.isBroadcast then
    let sessions ← perform .listSessions
    deliverEach m sessions 0
  else
    match m.receiver with
    | none => return 0
    | some receiver => return if ← deliverTo receiver m then 1 else 0

/-- Takes in one frame, and counts the sessions that took its message. -/
def receive (frame : Bytes) : Operation Nat := do
  let spare ← perform .spareId
  match BusFrame.decode spare frame with
  | .ok f => deliver f.message
  | .error _ =>
    warn .frameMalformed
    count .malformedFrames
    return 0

end Router

end ChatCluster
