import ChatCluster.Bus.Topics
import ChatCluster.Mailbox
import ChatCluster.Table

/-!
# The Bus in Memory

A bus that lives in the process. A frame published on a topic goes to every subscription of that
topic that exists at that moment and is lost for those whose queue is full; the loss is counted.
Publishing never waits and does not care whether anybody listens.

A subscription whose receiver has left is struck off at the next publish or subscribe on its
topic. A topic without subscriptions and without losses to its name is forgotten.

Losses are counted up to what 64 bits hold, and no further. Publishes are counted without a bound,
so a counter of 64 bits agrees with the count as long as there are fewer than `2 ^ 64` of them.

## Main definitions

* `Subscription`, `Channel`: A listener, and what is known of a topic.
* `MemoryBus.publish`, `MemoryBus.subscribe`: The two sides.
* `MemoryBus.listeners`: Who listens to a topic.
* `MemoryBus.take?`, `MemoryBus.close`: What a listener does.
* `MemoryBus.publishCount`, `MemoryBus.totalPublishes`, `MemoryBus.droppedCount`: What is counted.
-/

namespace ChatCluster

/-- A listener. -/
structure Subscription where
  /-- Its number. -/
  id : Nat
  /-- The frames that wait for it. -/
  box : Mailbox Bytes

/-- What is known of a topic. -/
structure Channel where
  /-- Its listeners, oldest first. -/
  subscriptions : List Subscription
  /-- How many frames were lost to full queues. -/
  dropped : Nat

/-- Counts of lost frames stop here. -/
def maxCount : Nat := UInt64.size - 1

/-- A bus in memory. -/
structure MemoryBus where
  /-- The topics with listeners or losses. -/
  topics : Table String Channel
  /-- How often something was published on each topic, without a bound. -/
  published : Table String Nat
  /-- How many frames may wait for a listener. -/
  capacity : Nat
  /-- Nothing can be published. -/
  unavailable : Bool
  /-- The number of the next listener. -/
  nextId : Nat

namespace MemoryBus

/-- A bus without topics. -/
def new (capacity : Nat) : MemoryBus :=
  { topics := .empty, published := .empty, capacity := max 1 capacity, unavailable := false,
    nextId := 0 }

/-- Offers a frame to a listener. One that is gone or has no room is left as it is. -/
def Subscription.offered (s : Subscription) (frame : Bytes) : Subscription :=
  match s.box.offer frame with
  | .ok box => { s with box }
  | .error _ => s

/-- The listener would lose a frame, having no room for it. -/
def Subscription.wouldLose (s : Subscription) : Bool :=
  s.box.receiving && !s.box.hasRoom

/-- The listeners whose receiver is there. -/
def Channel.listening (c : Channel) : List Subscription :=
  c.subscriptions.filter fun s => s.box.receiving

/-- A topic after a frame was published on it. -/
def Channel.afterPublish (c : Channel) (frame : Bytes) : Channel where
  subscriptions := (Channel.listening c).map fun s => Subscription.offered s frame
  dropped := min maxCount (c.dropped + (c.subscriptions.filter Subscription.wouldLose).length)

/-- How many frames are lost when one is published on a topic. -/
def losses (bus : MemoryBus) (topic : String) : Nat :=
  match bus.topics.find? topic with
  | none => 0
  | some c => (c.subscriptions.filter Subscription.wouldLose).length

/-- How often something was published on a topic. -/
def publishCount (bus : MemoryBus) (topic : String) : Nat :=
  (bus.published.find? topic).getD 0

/-- How often something was published at all. -/
def totalPublishes (bus : MemoryBus) : Nat :=
  bus.published.values.foldl (· + ·) 0

/-- How many frames a topic has lost to full queues. -/
def droppedCount (bus : MemoryBus) (topic : String) : Nat :=
  ((bus.topics.find? topic).map Channel.dropped).getD 0

/-- The topics after a frame was published on one of them. -/
def topicsAfterPublish (bus : MemoryBus) (topic : String) (frame : Bytes) : Table String Channel :=
  match bus.topics.find? topic with
  | none => bus.topics
  | some c =>
    let c := Channel.afterPublish c frame
    -- Without listeners a topic is remembered only for what it has lost.
    if c.subscriptions.isEmpty && c.dropped == 0 then bus.topics.erase topic
    else bus.topics.insert topic c

/-- Publishes a frame. -/
def publish (bus : MemoryBus) (topic : String) (frame : Bytes) :
    Except BusError Unit × MemoryBus :=
  if bus.unavailable then (.error (.unavailable "in-memory bus marked unavailable"), bus)
  else
    (.ok (),
      { bus with
        published := bus.published.insert topic (bus.publishCount topic + 1)
        topics := bus.topicsAfterPublish topic frame })

/-- Makes a new listener of a topic, and gives its number. -/
def subscribe (bus : MemoryBus) (topic : String) : Nat × MemoryBus :=
  let listener : Subscription := { id := bus.nextId, box := .new bus.capacity }
  -- Listeners that have left are forgotten on this occasion.
  let c : Channel := (bus.topics.find? topic).getD { subscriptions := [], dropped := 0 }
  (bus.nextId,
    { bus with
      topics := bus.topics.insert topic
        { c with subscriptions := Channel.listening c ++ [listener] }
      nextId := bus.nextId + 1 })

/-- The listeners of a topic, oldest first. -/
def listeners (bus : MemoryBus) (topic : String) : List Nat :=
  match bus.topics.find? topic with
  | none => []
  | some c => c.subscriptions.map Subscription.id

/-- The frames that wait for a listener. -/
def waiting (bus : MemoryBus) (id : Nat) : List Bytes :=
  bus.topics.values.flatMap fun c =>
    (c.subscriptions.filter fun s => s.id = id).flatMap fun s => s.box.items

/-- Changes the mailbox of one listener. -/
def updateBox (bus : MemoryBus) (id : Nat) (f : Mailbox Bytes → Mailbox Bytes) : MemoryBus :=
  { bus with
    topics := bus.topics.mapValues fun _ c =>
      { c with
        subscriptions := c.subscriptions.map fun s =>
          if s.id = id then { s with box := f s.box } else s } }

/-- Takes the frame that has waited longest for a listener. -/
def take? (bus : MemoryBus) (id : Nat) : Option (Bytes × MemoryBus) :=
  match bus.waiting id with
  | [] => none
  | frame :: _ =>
    some (frame, bus.updateBox id fun box => { box with items := box.items.tail })

/-- A listener leaves. -/
def close (bus : MemoryBus) (id : Nat) : MemoryBus :=
  bus.updateBox id Mailbox.closeReceiver

end MemoryBus

end ChatCluster
