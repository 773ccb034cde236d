import ChatCluster.Proofs.Bus.Waiting
import ChatCluster.Proofs.Cluster.Steps
import ChatCluster.Simulation.State

/-!
# Networks

A cluster with everything that works in it, and no say in who is next. Each piece of work is a
worker with an operation that it is in the middle of. A move lets one worker take one step, or
lets something happen from outside, and the moves come in any order. This is what separates a
network from a simulation, where woken tasks run in line: whatever order the tasks of a running
cluster take their steps in, it is a list of moves. A worker that is left alone for a while does
what its operation does when it is run alone.

There is a worker for each attached session, for each subscription of a node, and for each round
of a timed loop and each shutdown. A session is greeted, then its items are handled one after
another, and when its client will hand in nothing more it is let go. Any work may be broken off at
any point, as it is when a node shuts down.

Two records are kept for nobody to read: what was taken into outbound queues, and what was taken
by listeners of the bus. Both say which item of which inbox the thing stems from, if any. An item
is the origin of all that is done in handling it, and of all that is done with the frames
published in that.

Sessions and instances go by the place of their first worker. A session's place is also the number
of its outbound queue.

## Main definitions

* `Origin`: An item of an inbox.
* `Worker`, `Duty`: Who works, and at what.
* `Network`: The state.
* `Network.step`, `Network.turn`: One step of a worker, and what it turns to when it is done.
* `Move`, `Network.act`, `Network.run`: What can happen.
* `Network.seat?`, `Network.received`: The sessions, and what they have received.
-/

namespace ChatCluster

/-- An item of an inbox. -/
structure Origin where
  /-- The place of the session. -/
  session : Nat
  /-- How many items were taken from the inbox before. -/
  position : Nat
  deriving DecidableEq, Repr

/-- How far a session has come. -/
inductive Stage where
  /-- It is being greeted. -/
  | arriving
  /-- Its items are handled. -/
  | serving
  /-- It is being let go. -/
  | leaving
  /-- It has gone. -/
  | ended
  deriving DecidableEq, Repr

/-- The work for a session. -/
structure Attendance where
  /-- The session. -/
  session : SessionHandle
  /-- What the client has handed in and is still to be handled. -/
  inbox : Mailbox Inbound
  /-- What has been taken from the inbox, oldest first. -/
  taken : List Inbound
  /-- How far it has come. -/
  stage : Stage

/-- The work for a subscription. -/
structure Watch where
  /-- The topic. -/
  topic : String
  /-- The number of the subscription. -/
  subscription : Nat
  /-- How many frames have been taken in. -/
  taken : Nat

/-- What a worker is there for. -/
inductive Duty where
  | session (a : Attendance)
  | consumer (w : Watch)
  /-- It does one thing and is done. -/
  | errand

/-- Somebody at work. -/
structure Worker where
  /-- The number of the instance. -/
  host : Nat
  /-- What it is there for. -/
  duty : Duty
  /-- What it is doing stems from this. -/
  origin : Option Origin
  /-- What is left of what it is doing. -/
  rest : Operation Unit

/-- The session of a worker, and the number of its instance. -/
def Worker.seat? (worker : Worker) : Option (Nat × SessionHandle) :=
  match worker.duty with
  | .session a => some (worker.host, a.session)
  | .consumer _ | .errand => none

/-- The subscription of a worker. -/
def Worker.watch? (worker : Worker) : Option Watch :=
  match worker.duty with
  | .consumer w => some w
  | .session _ | .errand => none

/-- Everything that the client of a worker's session has handed in, oldest first. -/
def Worker.inbox (worker : Worker) : List Inbound :=
  match worker.duty with
  | .session a => a.taken ++ a.inbox.items
  | .consumer _ | .errand => []

/-- Something that was taken into an outbound queue. -/
structure Offered where
  /-- The queue. -/
  queue : Nat
  /-- What was taken. -/
  item : Outbound
  /-- What it stems from. -/
  origin : Option Origin

/-- A frame that was taken by a listener. -/
structure Posted where
  /-- The subscription. -/
  subscription : Nat
  /-- The frame. -/
  frame : Bytes
  /-- What it stems from. -/
  origin : Option Origin

/-- A cluster with everything that works in it. -/
structure Network where
  /-- What the steps of instances see and change. -/
  cluster : Cluster
  /-- What nodes keep, by number of the instance. -/
  nodes : Table Nat NodeState
  /-- The workers, by place. -/
  workers : List Worker
  /-- What was taken into outbound queues, oldest first. -/
  offered : List Offered
  /-- What was taken by listeners, oldest first. -/
  posted : List Posted

/-- What a step puts into an outbound queue. -/
def offeredBy (origin : Option Origin) : (e : Effect) → e.Reply → List Offered
  | .offer session item, .ok () => [{ queue := session.queue, item, origin }]
  | _, _ => []

/-- What is put into the mailboxes of listeners when a frame is published. -/
def postedOn (bus : MemoryBus) (origin : Option Origin) (topic : String) (frame : Bytes) :
    List Posted :=
  (bus.takers topic).map fun subscription => { subscription, frame, origin }

/-- What a step puts into the mailboxes of listeners. -/
def postedBy (bus : MemoryBus) (origin : Option Origin) : Effect → List Posted
  | .publish topic frame => postedOn bus origin topic frame
  | _ => []

/-- What an instance may be told to do. -/
inductive Chore where
  | firstHeartbeat
  | heartbeat
  | reap
  | shutdown
  deriving DecidableEq, Repr

/-- What doing it is. -/
def Chore.operation (self : Profile) : Chore → Operation Unit
  | firstHeartbeat => self.firstHeartbeat
  | heartbeat => self.timedHeartbeat
  | reap => self.timedReap
  | shutdown => self.leave

/-- The session has gone; nothing more can be handed in. -/
def Attendance.ended (a : Attendance) : Attendance :=
  { a with stage := .ended, inbox := a.inbox.closeReceiver }

namespace Network

/-- A network in which nothing has happened. -/
def new (opTimeout busCapacity : Nat) (wallClock : Int64) : Network :=
  { cluster := .new opTimeout busCapacity wallClock, nodes := .empty, workers := [],
    offered := [], posted := [] }

/-- The worker at a place is another now. -/
def setWorker (n : Network) (place : Nat) (worker : Worker) : Network :=
  { n with workers := n.workers.set place worker }

/-- A new worker. -/
def addWorker (n : Network) (worker : Worker) : Network :=
  { n with workers := n.workers ++ [worker] }

/-- The frames that a subscription has taken, oldest first. -/
def postedTo (n : Network) (subscription : Nat) : List Posted :=
  n.posted.filter fun p => p.subscription = subscription

/-- A worker takes the next step of what it is doing. -/
def step (n : Network) (place : Nat) (worker : Worker) (e : Effect)
    (next : e.Reply → Operation Unit) : Network :=
  let (reply, cluster) := n.cluster.perform worker.host e
  { n with
    cluster
    offered := n.offered ++ offeredBy worker.origin e reply
    posted := n.posted ++ postedBy n.cluster.bus worker.origin e
    workers := n.workers.set place { worker with rest := next reply } }

/-- The next frame is taken in. -/
def turnConsumer (n : Network) (place : Nat) (worker : Worker) (w : Watch) : Network :=
  match n.cluster.bus.take? w.subscription with
  | none => n
  | some (frame, bus) =>
    { n with cluster := { n.cluster with bus } }.setWorker place
      { worker with
        duty := .consumer { w with taken := w.taken + 1 }
        origin := ((n.postedTo w.subscription)[w.taken]?).bind Posted.origin
        rest := Router.receive frame >>= fun _ => pure () }

/-- The next item is handled, or the session is let go. -/
def turnSession (n : Network) (place : Nat) (worker : Worker) (a : Attendance) (self : Profile) :
    Network :=
  match a.stage with
  | .arriving =>
    n.setWorker place
      { worker with duty := .session { a with stage := .serving }, origin := none, rest := pure () }
  | .serving =>
    match a.inbox.take? with
    | some (item, inbox) =>
      n.setWorker place
        { worker with
          duty := .session { a with inbox, taken := a.taken ++ [item] }
          origin := some { session := place, position := a.taken.length }
          rest := self.pipeline.handle a.session item }
    | none =>
      if a.inbox.sending then n
      else
        n.setWorker place
          { worker with
            duty := .session { a with stage := .leaving }
            origin := none
            rest := self.part a.session }
  | .leaving =>
    n.setWorker place { worker with duty := .session a.ended, origin := none, rest := pure () }
  | .ended => n

/-- What a worker turns to when it is done with what it was doing. -/
def turn (n : Network) (place : Nat) (worker : Worker) : Network :=
  match worker.duty with
  | .errand => n
  | .consumer w => n.turnConsumer place worker w
  | .session a =>
    match n.cluster.profile? worker.host with
    | none => n
    | some self => n.turnSession place worker a self

/-- A worker breaks off what it is doing. A subscription ends with that. -/
def cancel (n : Network) (place : Nat) (worker : Worker) : Network :=
  match worker.duty with
  | .errand => n.setWorker place { worker with rest := pure () }
  | .consumer w =>
    let bus := n.cluster.bus.close w.subscription
    { n with cluster := { n.cluster with bus } }.setWorker place
      { worker with duty := .errand, origin := none, rest := pure () }
  | .session a =>
    n.setWorker place { worker with duty := .session a.ended, origin := none, rest := pure () }

end Network

/-- What can happen in a network. -/
inductive Move where
  /-- A node starts, and subscribes to its own topic. -/
  | start (profile : Profile) (clock : Int64) (queueCapacity : Nat)
  /-- A node subscribes to the topic for notices. -/
  | listen (host : Nat)
  /-- A node begins one of the things it does by itself. -/
  | chore (host : Nat) (chore : Chore)
  /-- A client attaches to a node. -/
  | attach (host : Nat) (user : UserId)
  /-- The client of a session hands in an item. -/
  | send (place : Nat) (item : Inbound)
  /-- The client of a session will hand in nothing more. -/
  | endInput (place : Nat)
  /-- The client of a session takes the first thing out of the outbound queue. -/
  | read (place : Nat)
  /-- The client of a session leaves. -/
  | hangUp (place : Nat)
  /-- A worker takes one step, or turns to the next thing. -/
  | proceed (place : Nat)
  /-- A worker breaks off what it is doing. -/
  | cancel (place : Nat)
  /-- Somebody outside publishes a frame. -/
  | publish (topic : String) (frame : Bytes)
  /-- Somebody outside calls the store. -/
  | callStore (call : StoreCall)
  /-- The store can be reached or not, and answers or stalls. -/
  | setStore (unavailable stalled : Bool)
  /-- The bus can be reached or not. -/
  | setBus (unavailable : Bool)
  /-- Time passes for the store. -/
  | wait (ms : Nat)
  /-- The clock of a node shows another time. -/
  | setClock (host : Nat) (time : Int64)
  /-- The time on notices is another. -/
  | setWallClock (time : Int64)

/-- The node that starts in a move. -/
def Move.started? : Move → Option Profile
  | .start profile _ _ => some profile
  | _ => none

namespace Network

/-- A node starts. -/
def start (n : Network) (profile : Profile) (clock : Int64) (queueCapacity : Nat) : Network :=
  let host := n.workers.length
  let topic := profile.topics.ofInstance profile.id
  let (subscription, bus) := n.cluster.bus.subscribe topic
  { n with
    cluster :=
      { n.cluster with bus, hosts := n.cluster.hosts.insert host (.new profile clock) }
    nodes := n.nodes.insert host
      { queueCapacity := max 1 queueCapacity, nextSession := 1, stopping := false } }.addWorker
    { host, duty := .consumer { topic, subscription, taken := 0 }, origin := none, rest := pure () }

/-- A node listens to notices. -/
def listen (n : Network) (host : Nat) : Network :=
  match n.cluster.profile? host with
  | none => n
  | some self =>
    let topic := self.topics.broadcast
    let (subscription, bus) := n.cluster.bus.subscribe topic
    { n with cluster := { n.cluster with bus } }.addWorker
      { host, duty := .consumer { topic, subscription, taken := 0 }, origin := none,
        rest := pure () }

/-- A client attaches to a node. -/
def attach (n : Network) (host : Nat) (user : UserId) : Network :=
  match n.cluster.profile? host, n.nodes.find? host with
  | some self, some node =>
    let place := n.workers.length
    let session : SessionHandle := { queue := place, id := ⟨node.nextSession⟩, user }
    { n with
      nodes := n.nodes.insert host { node with nextSession := node.nextSession + 1 }
      cluster :=
        { n.cluster with queues := n.cluster.queues.insert place (.new node.queueCapacity) }
    }.addWorker
      { host
        duty := .session
          { session, inbox := .new node.queueCapacity, taken := [], stage := .arriving }
        origin := none
        rest := self.greet session }
  | _, _ => n

/-- Changes the work for a session. -/
def updateAttendance (n : Network) (place : Nat) (f : Attendance → Attendance) : Network :=
  match n.workers[place]? with
  | some { host, duty := .session a, origin, rest } =>
    n.setWorker place { host, duty := .session (f a), origin, rest }
  | _ => n

/-- The network after one move. -/
def act (n : Network) : Move → Network
  | .start profile clock queueCapacity => n.start profile clock queueCapacity
  | .listen host => n.listen host
  | .chore host chore =>
    match n.cluster.profile? host with
    | none => n
    | some self =>
      n.addWorker { host, duty := .errand, origin := none, rest := chore.operation self }
  | .attach host user => n.attach host user
  | .send place item =>
    n.updateAttendance place fun a =>
      match a.inbox.offer item with
      | .ok inbox => { a with inbox }
      | .error _ => a
  | .endInput place => n.updateAttendance place fun a => { a with inbox := a.inbox.closeSender }
  | .read place =>
    { n with
      cluster := n.cluster.updateQueue place fun box => { box with items := box.items.tail } }
  | .hangUp place => { n with cluster := n.cluster.updateQueue place Mailbox.closeReceiver }
  | .proceed place =>
    match n.workers[place]? with
    | none => n
    | some worker =>
      match worker.rest with
      | .done _ => n.turn place worker
      | .ask e next => n.step place worker e next
  | .cancel place =>
    match n.workers[place]? with
    | none => n
    | some worker => n.cancel place worker
  | .publish topic frame =>
    { n with
      cluster := (n.cluster.publish topic frame).2
      posted := n.posted ++ postedOn n.cluster.bus none topic frame }
  | .callStore call =>
    { n with
      cluster := { n.cluster with store := (n.cluster.store.call n.cluster.now call).2 } }
  | .setStore unavailable stalled =>
    { n with
      cluster := { n.cluster with store := { n.cluster.store with unavailable, stalled } } }
  | .setBus unavailable =>
    { n with cluster := { n.cluster with bus := { n.cluster.bus with unavailable } } }
  | .wait ms => { n with cluster := { n.cluster with now := n.cluster.now + ms } }
  | .setClock host time =>
    { n with cluster := n.cluster.updateHost host fun h => { h with clock := time } }
  | .setWallClock time => { n with cluster := { n.cluster with wallClock := time } }

/-- The network after some moves, one after another. -/
def run (n : Network) (moves : List Move) : Network :=
  moves.foldl act n

/-- The session at a place, and the number of its instance. -/
def seat? (n : Network) (place : Nat) : Option (Nat × SessionHandle) :=
  (n.workers[place]?).bind Worker.seat?

/-- Everything that a session's client has handed in, oldest first. -/
def inboxOf (n : Network) (place : Nat) : List Inbound :=
  ((n.workers[place]?).map Worker.inbox).getD []

/-- Everything ever put into an outbound queue, oldest first. -/
def received (n : Network) (place : Nat) : List Offered :=
  n.offered.filter fun o => o.queue = place

end Network

end ChatCluster
