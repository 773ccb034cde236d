import ChatCluster.Instance.Liveness
import ChatCluster.Instance.Pipeline

/-!
# A Node

One running instance, as it is configured, and the things it does as a whole: taking in a session,
letting one go, and leaving the cluster.

## Main definitions

* `Profile`: An instance as it is configured.
* `standardQueueCapacity`: The room in the queues of a session.
* `Profile.greet`: A session has come, and everybody is told.
* `Profile.part`: A session has gone, and everybody is told if it was its user's last.
* `Profile.leave`: The instance lets all its sessions go and takes its leave.
-/

namespace ChatCluster

open Operation

/-- How much fits into the queues of a session of a node that is not told otherwise. -/
def standardQueueCapacity : Nat := 256

/-- An instance as it is configured. -/
structure Profile where
  /-- Its name. -/
  id : InstanceId
  /-- The topics of its cluster. -/
  topics : Topics
  /-- The time to live of its registry entries, in milliseconds. -/
  entryTtl : Nat
  /-- How often it shows itself. -/
  liveness : LivenessSettings
  /-- How it limits senders. -/
  limits : LimitSettings Float
  deriving Repr

namespace Profile

/-- An instance that is told nothing but its name. -/
def standard (id : InstanceId) : Profile :=
  { id, topics := .standard, entryTtl := 90000, liveness := .standard, limits := .standard }

/-- The instance as the one that registers. -/
def registrar (self : Profile) : Registrar :=
  { id := self.id, entryTtl := self.entryTtl }

/-- The instance as the one that routes. -/
def router (self : Profile) : Router :=
  { id := self.id, topics := self.topics }

/-- The instance as the one that watches. -/
def monitor (self : Profile) : Monitor :=
  { self.registrar with recordTtl := self.liveness.ttl }

/-- The instance as the one that handles what clients send. -/
def pipeline (self : Profile) : Pipeline Float :=
  { router := self.router, limits := self.limits }

/-- Takes in a session, and tells everybody that its user has come. -/
def greet (self : Profile) (session : SessionHandle) : Operation Unit := do
  let _ ← self.registrar.register session
  let mark ← perform .postmark
  let _ ← self.router.route (.join mark session.user)
  return

/-- Lets a session go. If it was still the session of its user, everybody is told. -/
def part (self : Profile) (session : SessionHandle) : Operation Unit := do
  if ← self.registrar.unregisterIf session.user session.id then
    let mark ← perform .postmark
    let _ ← self.router.route (.leave mark session.user)
    return
  else return

/-- Lets some sessions go, one after another. -/
def partEach (self : Profile) : List SessionHandle → Operation Unit
  | [] => return
  | session :: rest => do
    self.part session
    self.partEach rest

/-- Lets all sessions go and takes the instance out of the cluster. -/
def leave (self : Profile) : Operation Unit := do
  let sessions ← perform .listSessions
  self.partEach sessions
  match ← self.monitor.withdraw with
  | .ok () => return
  | .error _ => warn .recordNotWithdrawn

/-- The first heartbeat of an instance that has just started. -/
def firstHeartbeat (self : Profile) : Operation Unit := do
  match ← self.monitor.heartbeat with
  | .ok () => return
  | .error _ =>
    warn .firstHeartbeatFailed
    count .heartbeatFailures

/-- A heartbeat when its time has come. -/
def timedHeartbeat (self : Profile) : Operation Unit := do
  match ← self.monitor.heartbeat with
  | .ok () => return
  | .error _ =>
    warn .heartbeatFailed
    count .heartbeatFailures

/-- A reap pass when its time has come. -/
def timedReap (self : Profile) : Operation Unit := do
  match ← self.monitor.reap with
  | .ok _ => return
  | .error _ => warn .reapSkipped

end Profile

end ChatCluster
