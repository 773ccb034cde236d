import ChatCluster.Simulation.Time

/-!
# Actions on a Simulated Cluster

What a test can do to a simulated cluster and what it can ask. An action stands in the foreground:
it has ended when it returns, and if it has to wait, time passes meanwhile. The tasks in the
background are not run by it; `Simulation.act` sees to that between two actions.

## Main definitions

* `Fault`: Why an action came to nothing.
* `Action`: An action, with its effect on the simulation.
* `Simulation.act`: Does something, and lets the background catch up.
* `Action.advance`: Time passes.
* `Action.member`, `Action.node`: New instances.
* `Action.attach`, `Action.send`, `Action.close`, `Action.shutdown`: The life of a node.
-/

namespace ChatCluster

/-- Why an action came to nothing. -/
inductive Fault where
  /-- The store failed. -/
  | store (e : StoreError)
  /-- The bus failed. -/
  | bus (e : BusError)
  /-- A name is not allowed. -/
  | identity (e : IdentityError)
  /-- A session did not take something. -/
  | offer (e : OfferError)
  /-- The named part of the request stands for nothing. -/
  | unknown (field : String)
  deriving DecidableEq, Repr

/-- An action on a simulation. What it did before it came to nothing remains done. -/
abbrev Action := ExceptT Fault (StateM Simulation)

namespace Simulation

/-- Sets every clock forward. -/
def advanceClocks (s : Simulation) (ms : Nat) : Simulation :=
  let amount := Int64.ofNat ms
  { s with
    clock := s.clock + amount
    cluster :=
      { s.cluster with
        hosts := s.cluster.hosts.mapValues fun _ h => { h with clock := h.clock + amount } } }

/-- Time passes for the store and the tasks. -/
def advanceTime (s : Simulation) (ms : Nat) : Simulation :=
  s.passUntil (s.now + ms)

/-- Some task or directory could still put something into a queue. -/
def isHeld (s : Simulation) (queue : Nat) : Bool :=
  s.cluster.hosts.values.any (fun h => h.directory.values.any fun session => session.queue = queue)
    || s.sessions.any fun t => t.session.queue = queue && !t.work.isEnded

/-- The warnings that have not been shown yet, oldest first. -/
def newWarnings (s : Simulation) : List Warning :=
  s.cluster.reports.warnings.reverse.drop s.shown

/-- The clocks of the instances, the counts that are not zero, and the gauge if it is not. -/
def metrics (s : Simulation) : List (String × Nat) :=
  let gauge := s.cluster.reports.sessions
  let counts := s.cluster.reports.counts.entries.filter fun m => m.2 ≠ 0
  counts.map (fun m => (m.1.name, m.2)) ++ if gauge = 0 then [] else [(sessionGaugeName, gauge)]

end Simulation

/-- Does something to a simulation, and then lets the tasks in the background run. -/
def Simulation.act {α : Type} (s : Simulation) (action : Action α) : Except Fault α × Simulation :=
  let (result, s) := StateT.run (ExceptT.run action) s
  (result, s.settle)

namespace Action

/-- Looks something up in the simulation, or fails for the named part of the request. -/
def lookUp {α : Type} (field : String) (f : Simulation → Option α) : Action α := do
  match f (← get) with
  | some a => return a
  | none => throw (.unknown field)

/-- A name that a caller gives. -/
def checked {α : Type} (name : Except IdentityError α) : Action α :=
  match name with
  | .ok a => return a
  | .error e => throw (.identity e)

/-- The number of an instance. -/
def host (name : String) : Action Nat :=
  lookUp "at" fun s => s.names.find? name

/-- How an instance is configured. -/
def profile (host : Nat) : Action Profile :=
  lookUp "at" fun s => s.profile? host

/-- Runs an operation of an instance in the foreground. -/
def perform {α : Type} (host : Nat) (op : Operation α) : Action α := do
  let (a, s) := (← get).complete host op
  set s
  return a

/-- Runs an operation that may fail at the store. -/
def attempt {α : Type} (host : Nat) (op : Operation (Except StoreError α)) : Action α := do
  match ← perform host op with
  | .ok a => return a
  | .error e => throw (.store e)

/-- A number that nothing else has. -/
def freshNumber : Action Nat := do
  let s ← get
  set { s with nextNumber := s.nextNumber + 1 }
  return s.nextNumber

/-- Changes the shared state. -/
def modifyCluster (f : Cluster → Cluster) : Action Unit :=
  modify fun s => { s with cluster := f s.cluster }

/-! ## The store -/

/-- A call to the store from outside. -/
def storeCall (call : StoreCall) : Action call.Result := do
  let s ← get
  let wait := s.cluster.store.delay
  let (reply, store) := s.cluster.store.call s.now call
  set (Simulation.await { s with cluster := { s.cluster with store } } wait)
  match reply with
  | .ok result => return result
  | .error e => throw (.store e)

/-- A change to the store from outside. -/
def edit (e : StoreEdit) : Action Unit :=
  modify fun s => s.edit e

/-- Plans a disturbance. -/
def plan (d : Disturbance) : Action Unit :=
  modify fun s => { s with disturbances := s.disturbances ++ [d] }

/-! ## Time and reports -/

/-- Time passes, on the clocks, for the store, or both. -/
def advance (ms : Nat) (clocks store : Bool) : Action Unit := do
  if clocks then modify fun s => s.advanceClocks ms
  if store then modify fun s => s.advanceTime ms

/-- The warnings since the last time somebody asked. -/
def takeWarnings : Action (List Warning) := do
  let s ← get
  set { s with shown := s.cluster.reports.warnings.length }
  return s.newWarnings

/-! ## Bus and pipes -/

/-- The receiver of a source leaves. -/
def dropSource (source : Option Source) : Action Unit := do
  match source with
  | none => return
  | some source => modify fun s => s.updateSource source Mailbox.closeReceiver

/-- Holds a receiving side under a name. One that was held under it before is dropped. -/
def holdTap (name : String) (source : Source) : Action Unit := do
  let old := (← get).taps.find? name
  modify fun s => { s with taps := s.taps.insert name source }
  dropSource old

/-- A new subscription. -/
def subscribe (topic : String) : Action Source := do
  let s ← get
  let (id, bus) := s.cluster.bus.subscribe topic
  set { s with cluster := { s.cluster with bus } }
  return .subscription id

/-- Subscribes to a topic and holds the subscription. -/
def busSubscribe (topic tap : String) : Action Unit := do
  holdTap tap (← subscribe topic)

/-- Publishes a frame from outside. -/
def busPublish (topic : String) (frame : Bytes) : Action Unit := do
  let s ← get
  let (reply, cluster) := s.cluster.publish topic frame
  set (Simulation.wakeReaders { s with cluster } topic)
  match reply with
  | .ok () => return
  | .error e => throw (.bus e)

/-- What a receiving side has to give. -/
inductive Received (α : Type) where
  | item (a : α)
  | nothing
  | closed

/-- Takes the frame that has waited longest. -/
def tapReceive (tap : String) : Action (Received Bytes) := do
  let source ← lookUp "tap" fun s => s.taps.find? tap
  match (← get).waitingFrames source with
  | ([], more) => return if more then .nothing else .closed
  | (frame :: _, _) =>
    modify fun s => s.updateSource source fun box => { box with items := box.items.tail }
    return .item frame

/-- Takes all frames that wait. Each comes with its length and what it says. -/
def tapDrain (tap : String) : Action (List (Nat × Except Wire.FrameError BusFrame)) := do
  let source ← lookUp "tap" fun s => s.taps.find? tap
  let (frames, _) := (← get).waitingFrames source
  modify fun s => s.updateSource source Mailbox.emptied
  let serial := (← get).cluster.serial
  return frames.map fun frame => (frame.length, BusFrame.decode (.spare serial) frame)

/-- Drops a receiving side, and says whether it was held. -/
def untap (tap : String) : Action Bool := do
  let source := (← get).taps.find? tap
  modify fun s => { s with taps := s.taps.erase tap }
  dropSource source
  return source.isSome

/-- How many frames fit into a plain pipe. -/
def pipeCapacity : Nat := 16

/-- The sending side of a pipe is dropped. -/
def endPipe (id : Nat) : Action Unit :=
  modify fun s =>
    Simulation.wakeReader { s with pipes := s.pipes.update id Mailbox.closeSender } (.pipe id)

/-- Makes a plain pipe and holds both sides. What was held under that name before is dropped. -/
def pipeNew (tap : String) : Action Unit := do
  let id ← freshNumber
  let old := (← get).feeds.find? tap
  modify fun s =>
    { s with pipes := s.pipes.insert id (.new pipeCapacity), feeds := s.feeds.insert tap id }
  holdTap tap (.pipe id)
  old.forM endPipe

/-- Offers a frame to a pipe, and says whether it was taken. -/
def pipeSend (tap : String) (frame : Bytes) : Action Bool := do
  let id ← lookUp "tap" fun s => s.feeds.find? tap
  let box ← lookUp "tap" fun s => s.pipes.find? id
  match box.offer frame with
  | .error _ => return false
  | .ok box =>
    modify fun s => Simulation.wakeReader { s with pipes := s.pipes.insert id box } (.pipe id)
    return true

/-- Drops the sending side of a pipe, and says whether it was held. -/
def pipeClose (tap : String) : Action Bool := do
  match (← get).feeds.find? tap with
  | none => return false
  | some id =>
    modify fun s => { s with feeds := s.feeds.erase tap }
    endPipe id
    return true

/-- Starts a consumer for an instance. -/
def startConsumer (host : Nat) (source : Source) (owned : Bool) : Action Unit :=
  modify fun s =>
    let task : ConsumerTask := { host, source, owned, cancelled := false, ended := false }
    Simulation.wake { s with consumers := s.consumers ++ [task] } (.consumer s.consumers.length)

/-- Hands a receiving side to a new consumer of an instance. -/
def consume (instanceName tap : String) : Action Unit := do
  let host ← host instanceName
  let source ← lookUp "tap" fun s => s.taps.find? tap
  modify fun s =>
    { s with
      taps := s.taps.erase tap
      consumerNames := s.consumerNames.insert tap s.consumers.length }
  startConsumer host source false

/-- Tells a consumer to end. -/
def consumeCancel (tap : String) : Action Unit := do
  let place ← lookUp "tap" fun s => s.consumerNames.find? tap
  modify fun s =>
    let consumers := s.consumers.modify place fun t => { t with cancelled := true }
    Simulation.wake { s with consumers } (.consumer place)

/-- The consumer has ended. -/
def consumeDone (tap : String) : Action Bool := do
  let place ← lookUp "tap" fun s => s.consumerNames.find? tap
  return (((← get).consumers[place]?).map ConsumerTask.ended).getD true

/-! ## Sessions that a test makes -/

/-- A new session with a queue of its own. -/
def newSession (user : UserId) (id : SessionId) (capacity : Nat) : Action SessionHandle := do
  let queue ← freshNumber
  modifyCluster fun c => { c with queues := c.queues.insert queue (.new capacity) }
  return { queue, id, user }

/-- The receiving side of a session's queue is dropped. -/
def closeQueue (queue : Nat) : Action Unit :=
  modifyCluster fun c => c.updateQueue queue Mailbox.closeReceiver

/-- Holds a session under a label. One that was held under it before is dropped. -/
def holdSeat (label : String) (session : SessionHandle) : Action Unit := do
  -- The old one goes only when the new one is there.
  let old := (← get).seats.find? label
  modify fun s => { s with seats := s.seats.insert label { session, reading := true } }
  match old with
  | none => return
  | some seat => closeQueue seat.session.queue

/-- Makes a session and holds it. -/
def sessionNew (label user : String) (id : SessionId) (capacity : Nat) : Action Unit := do
  let user ← checked (UserId.ofText user)
  holdSeat label (← newSession user id capacity)

/-- A session that is held. -/
def seat (label : String) : Action Seat :=
  lookUp "label" fun s => s.seats.find? label

/-- A session that is held, and whether its client is there. -/
def sessionInfo (label : String) : Action (SessionHandle × Bool) := do
  let seat ← seat label
  return (seat.session, (← get).cluster.isOpen seat.session)

/-- Offers something to a session. -/
def sessionSend (label : String) (item : Outbound) : Action Unit := do
  let seat ← seat label
  let s ← get
  let (reply, cluster) := s.cluster.offer seat.session item
  set { s with cluster }
  match reply with
  | .ok () => return
  | .error e => throw (.offer e)

/-- Takes everything out of a queue. -/
def drainQueue (queue : Nat) : Action (List Outbound) := do
  let items := (((← get).cluster.queues.find? queue).map Mailbox.items).getD []
  modifyCluster fun c => c.updateQueue queue Mailbox.emptied
  return items

/-- Takes everything that is queued for a session. -/
def sessionDrain (label : String) : Action (List Outbound) := do
  let seat ← seat label
  if seat.reading then drainQueue seat.session.queue else throw (.unknown "label")

/-- Drops the receiving side of a session, and says whether it was held. -/
def sessionClose (label : String) : Action Bool := do
  let seat ← seat label
  closeQueue seat.session.queue
  modify fun s => { s with seats := s.seats.insert label { seat with reading := false } }
  return seat.reading

/-! ## A directory of its own -/

/-- Puts a held session into the directory; the result is the session it replaced. -/
def directoryInsert (user label : String) : Action (Option SessionHandle) := do
  let user ← checked (UserId.ofText user)
  let seat ← seat label
  let old := (← get).directory.find? user
  modify fun s => { s with directory := s.directory.insert user seat.session }
  return old

/-- The session of a user. -/
def directoryFind (user : String) : Action (Option SessionHandle) := do
  let user ← checked (UserId.ofText user)
  return (← get).directory.find? user

/-- Takes the session of a user out of the directory. -/
def directoryRemove (user : String) : Action (Option SessionHandle) := do
  let user ← checked (UserId.ofText user)
  let old := (← get).directory.find? user
  modify fun s => { s with directory := s.directory.erase user }
  return old

/-- Takes the session of a user out of the directory if it has the given number. -/
def directoryRemoveIf (user : String) (id : SessionId) : Action (Option SessionHandle) := do
  let user ← checked (UserId.ofText user)
  match (← get).directory.find? user with
  | none => return none
  | some session =>
    if session.id = id then
      modify fun s => { s with directory := s.directory.erase user }
      return some session
    else return none

/-! ## Instances -/

/-- A new instance under a name. -/
def newHost (name : String) (profile : Profile) (clock : Option Int64) : Action Nat := do
  let host ← freshNumber
  modify fun s =>
    { s with
      names := s.names.insert name host
      cluster :=
        { s.cluster with
          hosts := s.cluster.hosts.insert host (.new profile (clock.getD s.clock)) } }
  return host

/-- An instance without tasks of its own. -/
def member (name : String) (profile : InstanceId → Profile) (clock : Option Int64) :
    Action Unit := do
  let id ← checked (InstanceId.ofText name)
  let _ ← newHost name (profile id) clock
  return

/-- Starts a timed loop, its first round one period from now. Without a period it breaks down. -/
def startLoop (host : Nat) (kind : LoopKind) (period : Nat) : Action Unit :=
  modify fun s =>
    let loop : LoopTask :=
      { host, kind, period, tick := s.now + period, pending := none, ended := period = 0,
        broken := period = 0 }
    Simulation.wake { s with loops := s.loops ++ [loop] } (.loop s.loops.length)

/-- Starts a node: it subscribes, shows itself for the first time, and starts its loops. The
    result says whether it is ready. -/
def node (name : String) (profile : InstanceId → Profile) (queueCapacity : Nat) :
    Action (InstanceId × Bool) := do
  let id ← checked (InstanceId.ofText name)
  let profile := profile id
  let host ← newHost name profile none
  modify fun s =>
    { s with
      nodes := s.nodes.insert host
        { queueCapacity := max 1 queueCapacity, nextSession := 1, stopping := false } }
  for topic in [profile.topics.ofInstance id, profile.topics.broadcast] do
    startConsumer host (← subscribe topic) true
  perform host profile.firstHeartbeat
  startLoop host .heartbeat profile.liveness.heartbeat
  startLoop host .reap profile.liveness.reap
  return (id, (((← get).cluster.hosts.find? host).map Host.ready).getD false)

/-! ## Registry, limiter, router and monitor of an instance -/

/-- Makes a session, holds it, and registers it with an instance. -/
def register (instanceName user label : String) (id : SessionId) (capacity : Nat) :
    Action Registration := do
  let host ← host instanceName
  let profile ← profile host
  let user ← checked (UserId.ofText user)
  let session ← newSession user id capacity
  let registration ← perform host (profile.registrar.register session)
  holdSeat label session
  return registration

/-- Does something for an instance and a user. -/
def forUser {α : Type} (instanceName user : String)
    (f : Nat → Profile → UserId → Action α) : Action α := do
  let host ← host instanceName
  let profile ← profile host
  let user ← checked (UserId.ofText user)
  f host profile user

/-- Does something for an instance. -/
def forInstance {α : Type} (instanceName : String) (f : Nat → Profile → Action α) : Action α := do
  let host ← host instanceName
  f host (← profile host)

/-- Several attempts of a user, one after another. -/
def checkTimes (limits : LimitSettings Float) (user : UserId) : Nat → Operation (List Admission)
  | 0 => return []
  | n + 1 => do
    let admission ← RateLimiter.check limits user
    return admission :: (← checkTimes limits user n)

/-- The session of a user on an instance, and whether its client is there. -/
def localSession (instanceName user : String) : Action (Option (SessionHandle × Bool)) :=
  forUser instanceName user fun host _ user => do
    let c := (← get).cluster
    return ((c.directory host).find? user).map fun session => (session, c.isOpen session)

/-- Hands an item to the pipeline of an instance on behalf of a held session. -/
def handle (instanceName label : String) (item : Inbound) : Action Unit :=
  forInstance instanceName fun host profile => do
    let seat ← seat label
    perform host (profile.pipeline.handle seat.session item)

/-! ## The life of a node -/

/-- What a node keeps. -/
def nodeState (host : Nat) : Action NodeState :=
  lookUp "at" fun s => s.nodes.find? host

/-- The queue of an attached session. -/
def attachedQueue (label : String) : Action Nat :=
  lookUp "label" fun s => s.attached.find? label

/-- A task is woken. -/
def wake (task : TaskId) : Action Unit :=
  modify fun s => s.wake task

/-- The client of an attached session will hand in nothing more. -/
def endInput (queue : Nat) : Action Unit := do
  modify fun s => s.updateSession queue fun t => { t with inbox := t.inbox.closeSender }
  wake (.session queue)

/-- How many alarms somebody waits through for a task. No task takes that many. -/
def patience : Nat := UInt32.size

/-- Waits as long as something is not done. -/
def waitWhile (waiting : Simulation → Bool) : Action Unit :=
  modify fun s => s.passWhile waiting patience

/-- The handle of an attached session is dropped without waiting. -/
def dropQueue (queue : Nat) : Action Unit := do
  endInput queue
  closeQueue queue

/-- Attaches a session to a node. The result is the session and how many the node has. -/
def attach (instanceName user label : String) : Action (SessionHandle × Nat) := do
  let host ← host instanceName
  let state ← nodeState host
  let profile ← profile host
  let user ← checked (UserId.ofText user)
  modify fun s =>
    { s with nodes := s.nodes.insert host { state with nextSession := state.nextSession + 1 } }
  let session ← newSession user ⟨state.nextSession⟩ state.queueCapacity
  perform host (profile.greet session)
  let old := (← get).attached.find? label
  modify fun s =>
    { s with
      sessions := s.sessions ++
        [{ host, session, inbox := .new state.queueCapacity, work := .idle }]
      attached := s.attached.insert label session.queue }
  wake (.session session.queue)
  match old with
  | none => pure ()
  | some queue => dropQueue queue
  return (session, ((← get).cluster.directory host).size)

/-- Hands an item to an attached session, waiting for room if there is none. -/
def sendItem (queue : Nat) (item : Inbound) : Action Unit := do
  let isFull (s : Simulation) : Bool :=
    (s.session? queue).any fun t => t.inbox.receiving && !t.inbox.hasRoom
  if isFull (← get) then waitWhile isFull
  let task ← lookUp "label" fun s => s.session? queue
  match task.inbox.offer item with
  | .ok inbox =>
    modify fun s => s.updateSession queue fun t => { t with inbox }
    wake (.session queue)
  | .error _ => throw (.offer .closed)

/-- Hands items to an attached session, one after another. -/
def send (label : String) (items : List Inbound) : Action Unit := do
  let queue ← attachedQueue label
  for item in items do
    sendItem queue item

/-- Takes everything that is queued for an attached session. -/
def drain (label : String) : Action (List Outbound) := do
  drainQueue (← attachedQueue label)

/-- How long a receiver waits for something to come. -/
def receiveWait : Nat := 1

/-- Takes the first thing that is queued for an attached session, or waits a moment. -/
def receive (label : String) : Action (Received Outbound) := do
  let queue ← attachedQueue label
  let box ← lookUp "label" fun s => s.cluster.queues.find? queue
  match box.take? with
  | some (item, box) =>
    modifyCluster fun c => { c with queues := c.queues.insert queue box }
    return .item item
  | none =>
    if (← get).isHeld queue then
      modify fun s => s.passUntil (s.now + receiveWait)
      return .nothing
    else return .closed

/-- Closes an attached session and waits until it has gone. -/
def close (label : String) : Action Unit := do
  let queue ← attachedQueue label
  modify fun s => { s with attached := s.attached.erase label }
  endInput queue
  waitWhile fun s => (s.session? queue).any fun t => !t.work.isEnded
  closeQueue queue

/-- Drops the handle of an attached session. -/
def dropAttached (label : String) : Action Unit := do
  let queue ← attachedQueue label
  modify fun s => { s with attached := s.attached.erase label }
  dropQueue queue

/-- Waits for a loop of a node to end, and warns if it broke down. -/
def joinLoop (host : Nat) (kind : LoopKind) : Action Unit := do
  let isIt (loop : LoopTask) : Bool := loop.host = host && loop.kind = kind
  waitWhile fun s => s.loops.any fun loop => isIt loop && !loop.ended
  if (← get).loops.any fun loop => isIt loop && loop.broken then
    modify fun s =>
      { s with
        loops := s.loops.map fun loop => if isIt loop then { loop with broken := false } else loop
        cluster := { s.cluster with reports := s.cluster.reports.warn .taskBroken } }

/-- Shuts a node down and waits for its loops to end. -/
def shutdown (instanceName : String) : Action Unit := do
  let host ← host instanceName
  let state ← nodeState host
  let profile ← profile host
  -- From here on the tasks in the background end as soon as they get to run.
  modify fun s =>
    (s.tasksOf host).foldl Simulation.wake
      { s with
        nodes := s.nodes.insert host { state with stopping := true }
        consumers := s.consumers.map fun t =>
          if t.host = host ∧ t.owned then { t with cancelled := true } else t }
  perform host profile.leave
  joinLoop host .heartbeat
  joinLoop host .reap

end Action

end ChatCluster
