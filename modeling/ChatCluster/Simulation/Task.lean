import ChatCluster.Instance.Pipeline

/-!
# Tasks of a Simulated Cluster

What runs by itself in a simulated cluster: one task for each attached session, one for each
subscription of a node, and two timed loops for each node. A task runs until it waits, either for
input or for a stalled store, and what is left of an operation that waits is kept with the instant
at which it will go on.

A disturbance is a change to the store that strikes just before a chosen call of an instance, so
that a test can put another instance's step exactly between two steps of this one. The call has to
wait for it where the store stalls.

## Main definitions

* `Disturbance`: A change to the store just before a chosen call.
* `Remainder`: What is left of an operation that waits.
* `SessionTask`, `ConsumerTask`, `LoopTask`, `TaskId`: The tasks.
* `Alarm`: When a task is to be woken.
-/

namespace ChatCluster

/-- The kinds of calls that instances make to the store. -/
inductive CallKind where
  | get
  | set
  | delete
  | expire
  | keys
  | addMember
  | removeMember
  | members
  deriving DecidableEq, Repr

/-- The kind of a name. -/
def CallKind.ofName? : String → Option CallKind
  | "get" => some .get
  | "set" => some .set
  | "delete" => some .delete
  | "expire" => some .expire
  | "keys" => some .keys
  | "sadd" => some .addMember
  | "srem" => some .removeMember
  | "smembers" => some .members
  | _ => none

/-- The kind of a call. -/
def StoreCall.kind : StoreCall → CallKind
  | .get _ => .get
  | .set _ _ _ => .set
  | .delete _ => .delete
  | .expire _ _ => .expire
  | .keys _ => .keys
  | .addMember _ _ => .addMember
  | .removeMember _ _ => .removeMember
  | .members _ => .members

/-- The key of a call, or what the keys it asks for begin with. -/
def StoreCall.key : StoreCall → String
  | .get key | .set key _ _ | .delete key | .expire key _ | .keys key | .addMember key _
  | .removeMember key _ | .members key => key

/-- A change to the store from outside. -/
inductive StoreEdit where
  /-- A call, its result ignored. -/
  | call (call : StoreCall)
  /-- Makes the store unavailable or available. -/
  | setUnavailable (on : Bool)
  /-- Makes the store stall or answer. -/
  | setStalled (on : Bool)
  deriving DecidableEq, Repr

/-- A change to the store that strikes once, just before a call of an instance. -/
structure Disturbance where
  /-- The kind of the call. -/
  kind : CallKind
  /-- The key of the call. -/
  key : String
  /-- How many such calls are let pass first. -/
  skip : Nat
  /-- What is done to the store. -/
  edits : List StoreEdit
  deriving DecidableEq, Repr

/-- What is left of an operation that waits. -/
inductive Remainder (α : Type) where
  /-- All from its next step on. -/
  | steps (op : Operation α)
  /-- Changes to the store that strike before its next step, that step, and all behind it. -/
  | struck (edits : List StoreEdit) (e : Effect) (next : e.Reply → Operation α)

/-- An operation that goes on at a given instant. -/
structure Suspended where
  /-- The instant. -/
  due : Nat
  /-- What is left of the operation. -/
  rest : Remainder Unit

/-- What the task of a session is doing. -/
inductive Work where
  /-- It waits for the client. -/
  | idle
  /-- It handles an item. -/
  | busy (work : Suspended)
  /-- It lets the session go. -/
  | leaving (work : Suspended)
  /-- It has ended. -/
  | ended

/-- The task has ended. -/
def Work.isEnded : Work → Bool
  | .ended => true
  | .idle | .busy _ | .leaving _ => false

/-- The task of an attached session. -/
structure SessionTask where
  /-- The number of its instance. -/
  host : Nat
  /-- The session. -/
  session : SessionHandle
  /-- What the client has handed in. -/
  inbox : Mailbox Inbound
  /-- What it is doing. -/
  work : Work

/-- Where frames come from. -/
inductive Source where
  /-- A subscription of the bus, by number. -/
  | subscription (id : Nat)
  /-- A plain pipe, by number. -/
  | pipe (id : Nat)
  deriving DecidableEq, Repr

/-- A task that takes in frames for an instance. -/
structure ConsumerTask where
  /-- The number of its instance. -/
  host : Nat
  /-- Where its frames come from. -/
  source : Source
  /-- It belongs to a node and is told to end when the node shuts down. -/
  owned : Bool
  /-- It has been told to end. -/
  cancelled : Bool
  /-- It has ended. -/
  ended : Bool

/-- What a timed loop does. -/
inductive LoopKind where
  | heartbeat
  | reap
  deriving DecidableEq, Repr

/-- A timed loop of a node. -/
structure LoopTask where
  /-- The number of its instance. -/
  host : Nat
  /-- What it does. -/
  kind : LoopKind
  /-- The time between two rounds. -/
  period : Nat
  /-- When the next round begins. -/
  tick : Nat
  /-- What is left of the present round. -/
  pending : Option Suspended
  /-- It has ended. -/
  ended : Bool
  /-- It ended by breaking down, and nobody has been told yet. -/
  broken : Bool

/-- A task. -/
inductive TaskId where
  /-- A timed loop, by its place among all. -/
  | loop (place : Nat)
  /-- The task of a session, by the session's queue. -/
  | session (queue : Nat)
  /-- A consumer, by its place among all. -/
  | consumer (place : Nat)
  deriving DecidableEq, Repr

/-- A task is to be woken at a given instant. -/
structure Alarm where
  /-- The instant. -/
  due : Nat
  /-- The task. -/
  task : TaskId
  deriving DecidableEq, Repr

/-- The disturbance strikes before the call. -/
def Disturbance.strikes (d : Disturbance) (call : StoreCall) : Bool :=
  d.kind = call.kind && d.key = call.key && d.skip = 0

/-- The disturbance after a call before which it did not strike. -/
def Disturbance.afterCall (d : Disturbance) (call : StoreCall) : Disturbance :=
  if d.kind = call.kind ∧ d.key = call.key then { d with skip := d.skip - 1 } else d

/-- When a loop goes on. -/
def LoopTask.due? (loop : LoopTask) : Option Nat :=
  if loop.ended then none
  else
    match loop.pending with
    | some work => some work.due
    | none => some loop.tick

/-- When the task of a session goes on, if it waits for an instant. -/
def SessionTask.due? (task : SessionTask) : Option Nat :=
  match task.work with
  | .busy work | .leaving work => some work.due
  | .idle | .ended => none

end ChatCluster
