import ChatCluster.Bus.Memory
import ChatCluster.Instance.Node
import ChatCluster.Store.Memory

/-!
# The State of a Cluster

Everything that the steps of instances can see or change: the shared store and bus, the instances
with their directories and clocks, the outbound queues of all sessions, and what has been
reported. Instances are numbered, since two of them may have the same name one after the other.

There are two kinds of time. The store's time only ever goes forward and decides what has expired;
each instance reads a clock of its own, which may show anything.

## Main definitions

* `Host`: An instance at work.
* `Reports`: What has been reported.
* `Cluster`: The state.
-/

namespace ChatCluster

/-- An instance at work. -/
structure Host where
  /-- How it is configured. -/
  profile : Profile
  /-- What its clock shows. -/
  clock : Int64
  /-- Its sessions by user. -/
  directory : Table UserId SessionHandle
  /-- How it sees itself. -/
  lifecycle : Lifecycle
  /-- It is ready for clients. -/
  ready : Bool

/-- An instance that has done nothing yet. -/
def Host.new (profile : Profile) (clock : Int64) : Host :=
  { profile, clock, directory := .empty, lifecycle := .starting, ready := false }

/-- What has been reported. -/
structure Reports where
  /-- The warnings, latest first. -/
  warnings : List Warning
  /-- The counts. -/
  counts : Table Metric Nat
  /-- The number of sessions that was last reported. -/
  sessions : Nat

/-- Nothing has been reported. -/
def Reports.none : Reports :=
  { warnings := [], counts := .empty, sessions := 0 }

/-- A warning is reported. -/
def Reports.warn (r : Reports) (w : Warning) : Reports :=
  { r with warnings := w :: r.warnings }

/-- Something is counted. -/
def Reports.count (r : Reports) (m : Metric) (amount : Nat) : Reports :=
  { r with counts := r.counts.insert m ((r.counts.find? m).getD 0 + amount) }

/-- Everything that the steps of instances can see or change. -/
structure Cluster where
  /-- The store's time, in milliseconds. -/
  now : Nat
  /-- The time on notices, in milliseconds since the Unix epoch. -/
  wallClock : Int64
  /-- The serial number of the next spare name. -/
  serial : Nat
  /-- The shared store. -/
  store : MemoryStore
  /-- The bus. -/
  bus : MemoryBus
  /-- The instances by number. -/
  hosts : Table Nat Host
  /-- The outbound queues by number. -/
  queues : Table Nat (Mailbox Outbound)
  /-- What has been reported. -/
  reports : Reports

namespace Cluster

/-- A cluster without instances. -/
def new (opTimeout busCapacity : Nat) (wallClock : Int64) : Cluster :=
  { now := 0, wallClock, serial := 0, store := .new opTimeout, bus := .new busCapacity,
    hosts := .empty, queues := .empty, reports := .none }

/-- Changes one instance. -/
def updateHost (c : Cluster) (host : Nat) (f : Host → Host) : Cluster :=
  { c with hosts := c.hosts.update host f }

/-- The directory of one instance. -/
def directory (c : Cluster) (host : Nat) : Table UserId SessionHandle :=
  ((c.hosts.find? host).map Host.directory).getD .empty

/-- Changes the directory of one instance. -/
def updateDirectory (c : Cluster) (host : Nat)
    (f : Table UserId SessionHandle → Table UserId SessionHandle) : Cluster :=
  c.updateHost host fun h => { h with directory := f h.directory }

/-- The client of a session is there. -/
def isOpen (c : Cluster) (session : SessionHandle) : Bool :=
  ((c.queues.find? session.queue).map Mailbox.receiving).getD false

/-- Changes one outbound queue. -/
def updateQueue (c : Cluster) (queue : Nat) (f : Mailbox Outbound → Mailbox Outbound) : Cluster :=
  { c with queues := c.queues.update queue f }

end Cluster

end ChatCluster
