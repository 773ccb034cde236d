import ChatCluster.Cluster.Perform
import ChatCluster.Simulation.Task

/-!
# Simulated Clusters

A cluster in one process, with time that passes only when it is told to. Around the shared state
stand the tasks that run by themselves.

Whoever waits is woken, by input or by an alarm, and woken tasks stand in line: they run in the
order in which they were woken. Alarms for the same instant go off in the order in which they were
set. To be woken without need does no harm, the task only looks and goes on waiting.

## Main definitions

* `NodeState`: What a node keeps beside its host.
* `Simulation`: The cluster with its tasks.
* `Simulation.wake`, `Simulation.setAlarm`, `Simulation.atTime`: How tasks come to run.
* `Simulation.edit`, `Simulation.disturb`: Changes to the store from outside.
-/

namespace ChatCluster

/-- What a node keeps beside its host. -/
structure NodeState where
  /-- How much fits into the queues of a session. -/
  queueCapacity : Nat
  /-- The number of the next session. -/
  nextSession : UInt64
  /-- It is shutting down, or has. -/
  stopping : Bool

/-- A session that a test holds in its hands. -/
structure Seat where
  /-- The session. -/
  session : SessionHandle
  /-- Its receiving side is still held. -/
  reading : Bool

/-- A cluster with its tasks, and what a test holds in its hands. -/
structure Simulation where
  /-- The state that instances share. -/
  cluster : Cluster
  /-- What the clock of a new instance shows. -/
  clock : Int64
  /-- The disturbances to come, oldest first. -/
  disturbances : List Disturbance
  /-- The tasks of attached sessions. -/
  sessions : List SessionTask
  /-- The tasks that take in frames. -/
  consumers : List ConsumerTask
  /-- The timed loops. -/
  loops : List LoopTask
  /-- The tasks that have been woken, in the order in which they were. -/
  ready : List TaskId
  /-- The tasks that will be woken, in the order in which they asked for it. -/
  alarms : List Alarm
  /-- What nodes keep, by number of the instance. -/
  nodes : Table Nat NodeState
  /-- The plain pipes, by number. -/
  pipes : Table Nat (Mailbox Bytes)
  /-- The number of the next instance, queue or pipe. -/
  nextNumber : Nat
  /-- The instances by name. -/
  names : Table String Nat
  /-- The sessions a test made itself. -/
  seats : Table String Seat
  /-- The attached sessions, by their queue. -/
  attached : Table String Nat
  /-- The receiving sides a test holds. -/
  taps : Table String Source
  /-- The sending sides of pipes a test holds. -/
  feeds : Table String Nat
  /-- The consumers a test started, by their place among all. -/
  consumerNames : Table String Nat
  /-- A directory that belongs to no instance. -/
  directory : Table UserId SessionHandle
  /-- How many warnings have been shown. -/
  shown : Nat

namespace Simulation

/-- An empty cluster. -/
def new (opTimeout busCapacity : Nat) (clock wallClock : Int64) : Simulation :=
  { cluster := .new opTimeout busCapacity wallClock
    clock
    disturbances := []
    sessions := []
    consumers := []
    loops := []
    ready := []
    alarms := []
    nodes := .empty
    pipes := .empty
    nextNumber := 0
    names := .empty
    seats := .empty
    attached := .empty
    taps := .empty
    feeds := .empty
    consumerNames := .empty
    directory := .empty
    shown := 0 }

/-- The present instant. -/
def now (s : Simulation) : Nat :=
  s.cluster.now

/-- Wakes a task. -/
def wake (s : Simulation) (task : TaskId) : Simulation :=
  { s with ready := s.ready ++ [task] }

/-- Sets an alarm, unless it is set already. -/
def setAlarm (s : Simulation) (alarm : Alarm) : Simulation :=
  if alarm ∈ s.alarms then s else { s with alarms := s.alarms ++ [alarm] }

/-- The simulation at a later instant, with the alarms gone off that were set for it. -/
def atTime (s : Simulation) (time : Nat) : Simulation :=
  let (due, later) := s.alarms.partition fun alarm => alarm.due ≤ time
  { s with
    cluster := { s.cluster with now := time }
    ready := s.ready ++ due.map Alarm.task
    alarms := later }

/-- The next instant for which an alarm is set. -/
def nextAlarm (s : Simulation) : Option Nat :=
  (s.alarms.map Alarm.due).min?

/-- Wakes whoever takes in the frames of a source. -/
def wakeReader (s : Simulation) (source : Source) : Simulation :=
  match s.consumers.findIdx? fun t => t.source = source && !t.ended with
  | none => s
  | some place => s.wake (.consumer place)

/-- Wakes whoever takes in the frames of a topic. -/
def wakeReaders (s : Simulation) (topic : String) : Simulation :=
  (s.cluster.bus.listeners topic).foldl (fun s id => s.wakeReader (.subscription id)) s

/-- The tasks of an instance. -/
def tasksOf (s : Simulation) (host : Nat) : List TaskId :=
  let places {τ : Type} (tasks : List τ) (isIt : τ → Bool) : List Nat :=
    (tasks.zipIdx.filter fun t => isIt t.1).map Prod.snd
  (places s.consumers fun t => t.host = host).map .consumer
    ++ (places s.loops fun t => t.host = host).map .loop
    ++ (s.sessions.filter fun t => t.host = host).map fun t => .session t.session.queue

/-- How an instance is configured. -/
def profile? (s : Simulation) (host : Nat) : Option Profile :=
  (s.cluster.hosts.find? host).map Host.profile

/-- The node of an instance is shutting down, or has. -/
def isStopping (s : Simulation) (host : Nat) : Bool :=
  ((s.nodes.find? host).map NodeState.stopping).getD false

/-- Changes the task of one session. -/
def updateSession (s : Simulation) (queue : Nat) (f : SessionTask → SessionTask) : Simulation :=
  { s with sessions := s.sessions.map fun t => if t.session.queue = queue then f t else t }

/-- The task of one session. -/
def session? (s : Simulation) (queue : Nat) : Option SessionTask :=
  s.sessions.find? fun t => t.session.queue = queue

/-- Does something to the store from outside. -/
def edit (s : Simulation) (e : StoreEdit) : Simulation :=
  let c := s.cluster
  let store :=
    match e with
    | .call call => (c.store.call c.now call).2
    | .setUnavailable on => { c.store with unavailable := on }
    | .setStalled on => { c.store with stalled := on }
  { s with cluster := { c with store } }

/-- How long a change to the store takes. -/
def editDelay (s : Simulation) : StoreEdit → Nat
  | .call _ => s.cluster.store.delay
  | .setUnavailable _ | .setStalled _ => 0

/-- Takes out the disturbances that are meant for a step; the result is what they change. -/
def disturb (s : Simulation) : Effect → List StoreEdit × Simulation
  | .store call =>
    let striking := s.disturbances.filter fun d => Disturbance.strikes d call
    let waiting := s.disturbances.filter fun d => !Disturbance.strikes d call
    (striking.flatMap Disturbance.edits,
      { s with disturbances := waiting.map fun d => Disturbance.afterCall d call })
  | _ => ([], s)

/-- How long a step has to wait for its reply. -/
def delay (s : Simulation) : Effect → Nat
  | .store _ => s.cluster.store.delay
  | _ => 0

end Simulation

end ChatCluster
