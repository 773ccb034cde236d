import ChatCluster.Bus.Topics
import ChatCluster.Mailbox
import ChatCluster.Message
import ChatCluster.Program
import ChatCluster.Store.Call

/-!
# What an Instance Can Do

The steps that the work of an instance is made of. Each is atomic: a call to the store, a frame
put on the bus, one operation on the instance's own directory of sessions, one look at a clock.
Between two of them anything else in the cluster may happen, and that is why they are listed here
rather than performed: an `Operation` is a program over these steps.

What has happened is reported, as warnings for people and as counts for machines. Reports have no
bearing on what follows.

## Main definitions

* `SessionHandle`, `Outbound`: Sessions as an instance sees them.
* `Lifecycle`: An instance as it sees itself.
* `Warning`, `Metric`: What is reported.
* `Effect`, `Effect.Reply`: The steps, and what each returns.
* `Operation`: A program over the steps.
-/

namespace ChatCluster

/-- A session of an instance. -/
structure SessionHandle where
  /-- Which outbound queue it feeds. -/
  queue : Nat
  /-- Its number. -/
  id : SessionId
  /-- Its user. -/
  user : UserId
  deriving DecidableEq, Repr

/-- What a session's client receives. -/
inductive Outbound where
  | message (m : Message)
  | rejection (r : Rejection)
  deriving DecidableEq, Repr

/-- The wording of a session's refusal to take something. -/
def OfferError.message : OfferError → String
  | .closed => "session closed"
  | .full => "session outbound queue full"

/-- An instance as it sees itself. Others learn of its end by the expiry of its record. -/
inductive Lifecycle where
  /-- It has not yet been able to tell the others. -/
  | starting
  /-- It takes part. -/
  | alive
  /-- It has withdrawn, for good. -/
  | stopped
  deriving DecidableEq, Repr

/-- How an instance is shown. -/
def Lifecycle.name : Lifecycle → String
  | starting => "starting"
  | alive => "alive"
  | stopped => "stopped"

/-- What people are warned about. -/
inductive Warning where
  | registryWriteFailed
  | registryRefreshFailed
  | registryDeleteFailed
  | entryMalformed
  | messageHasNoTarget
  | receiverNotConnected
  | ownerLookupFailed
  | membershipUnavailable
  | frameNotEncoded
  | publishFailed
  | frameMalformed
  | subscriptionClosed
  | limitStateUnavailable
  | limitStateMalformed
  | limitStateNotSaved
  | clientMessageMalformed
  | clientKindRefused
  | firstHeartbeatFailed
  | heartbeatFailed
  | reapSkipped
  | recordNotWithdrawn
  | taskBroken
  deriving DecidableEq, Repr

/-- The wording of a warning. -/
def Warning.text : Warning → String
  | registryWriteFailed => "registry write failed; session is local-only"
  | registryRefreshFailed => "registry refresh failed"
  | registryDeleteFailed => "registry delete failed; entry will expire"
  | entryMalformed => "malformed registry entry; reaping"
  | messageHasNoTarget => "message has no receiver or room; dropping"
  | receiverNotConnected => "receiver not connected; dropping"
  | ownerLookupFailed => "owner lookup failed; dropping"
  | membershipUnavailable => "room membership unavailable; dropping"
  | frameNotEncoded => "could not encode bus frame; dropping"
  | publishFailed => "bus publish failed; dropping"
  | frameMalformed => "discarding malformed bus frame"
  | subscriptionClosed => "bus subscription closed"
  | limitStateUnavailable => "rate limit state unavailable; admitting"
  | limitStateMalformed => "discarding malformed rate limit state"
  | limitStateNotSaved => "failed to persist rate limit state"
  | clientMessageMalformed => "discarding malformed client message"
  | clientKindRefused => "discarding client message with broadcast-only kind"
  | firstHeartbeatFailed => "initial heartbeat failed; retrying on schedule"
  | heartbeatFailed => "heartbeat failed"
  | reapSkipped => "reap pass skipped"
  | recordNotWithdrawn => "could not withdraw liveness record; it will expire"
  | taskBroken => "background task ended abnormally"

/-- The registry operations whose store failures are counted. -/
inductive RegistryStep where
  | register
  | unregister
  | refresh
  deriving DecidableEq, Repr

/-- What became of a message, as it is counted. -/
inductive RoutedAs where
  | delivered
  | published
  | broadcast
  | room
  | noTarget
  | unknownReceiver
  | storeUnavailable
  | localSessionClosed
  | publishFailed
  deriving DecidableEq, Repr

/-- The name of an outcome in counts and reports. -/
def RoutedAs.name : RoutedAs → String
  | delivered => "local"
  | published => "published"
  | broadcast => "broadcast"
  | room => "room"
  | noTarget => "no_target"
  | unknownReceiver => "unknown_receiver"
  | storeUnavailable => "store_unavailable"
  | localSessionClosed => "local_session_closed"
  | publishFailed => "publish_failed"

/-- What is counted. -/
inductive Metric where
  /-- Store failures of the registry. -/
  | registryStoreErrors (step : RegistryStep)
  /-- Messages that were routed. -/
  | routedMessages (outcome : RoutedAs)
  /-- Frames that could not be read. -/
  | malformedFrames
  /-- Client messages that could not be read or were not allowed. -/
  | malformedClientMessages
  /-- Store failures of the limiter. -/
  | limitStoreErrors
  /-- Attempts admitted. -/
  | limitAllowed
  /-- Attempts refused. -/
  | limitRejected
  /-- Heartbeats that failed. -/
  | heartbeatFailures
  /-- Entries deleted by reap passes. -/
  | reapedEntries
  /-- Frames lost to full subscriber queues. -/
  | busDropped
  deriving DecidableEq, Repr

/-- The name of a count, with its label. -/
def Metric.name : Metric → String
  | registryStoreErrors .register => "chatmesh_registry_store_errors_total\x7bop=register\x7d"
  | registryStoreErrors .unregister => "chatmesh_registry_store_errors_total\x7bop=unregister\x7d"
  | registryStoreErrors .refresh => "chatmesh_registry_store_errors_total\x7bop=refresh\x7d"
  | routedMessages outcome => "chatmesh_routed_messages_total\x7boutcome=" ++ outcome.name ++ "\x7d"
  | malformedFrames => "chatmesh_malformed_messages_total\x7bsource=bus\x7d"
  | malformedClientMessages => "chatmesh_malformed_messages_total\x7bsource=session\x7d"
  | limitStoreErrors => "chatmesh_rate_limit_store_errors_total"
  | limitAllowed => "chatmesh_rate_limit_allowed_total"
  | limitRejected => "chatmesh_rate_limit_rejected_total"
  | heartbeatFailures => "chatmesh_heartbeat_failures_total"
  | reapedEntries => "chatmesh_reaped_entries_total"
  | busDropped => "chatmesh_bus_dropped_total"

/-- The name of the gauge that holds the number of sessions. -/
def sessionGaugeName : String := "chatmesh_local_sessions"

/-- One step of an instance. -/
inductive Effect where
  /-- Calls the shared store. -/
  | store (call : StoreCall)
  /-- Puts a frame on the bus. -/
  | publish (topic : String) (frame : Bytes)
  /-- Reads the instance's clock, in milliseconds since the Unix epoch. -/
  | clock
  /-- Gets a name and a time for a message of the instance's own. -/
  | postmark
  /-- Gets a message name nobody else has. -/
  | spareId
  /-- Puts a session into the directory; the reply is the session it replaced. -/
  | insertSession (session : SessionHandle)
  /-- The session of a user. -/
  | findSession (user : UserId)
  /-- Takes the session of a user out of the directory. -/
  | removeSession (user : UserId)
  /-- Takes the session of a user out of the directory if it has the given number. -/
  | removeSessionIf (user : UserId) (id : SessionId)
  /-- All sessions of the directory. -/
  | listSessions
  /-- How many sessions the directory holds. -/
  | countSessions
  /-- Whether a session's client is still there. -/
  | isOpen (session : SessionHandle)
  /-- Offers something to a session's client, without waiting. -/
  | offer (session : SessionHandle) (item : Outbound)
  /-- How the instance sees itself. -/
  | lifecycle
  /-- Turns a starting instance into a live one; the reply says whether it was starting. -/
  | comeAlive
  /-- Turns the instance into a stopped one. -/
  | stop
  /-- Says whether the instance is ready for clients. -/
  | setReady (ready : Bool)
  /-- Warns. -/
  | warn (warning : Warning)
  /-- Counts. -/
  | count (metric : Metric) (amount : Nat)
  /-- Reports the number of sessions. -/
  | gaugeSessions (n : Nat)

/-- What a step returns. -/
abbrev Effect.Reply : Effect → Type
  | store call => Except StoreError call.Result
  | publish _ _ => Except BusError Unit
  | clock => Int64
  | postmark => Postmark
  | spareId => MessageId
  | insertSession _ => Option SessionHandle
  | findSession _ => Option SessionHandle
  | removeSession _ => Option SessionHandle
  | removeSessionIf _ _ => Option SessionHandle
  | listSessions => List SessionHandle
  | countSessions => Nat
  | isOpen _ => Bool
  | offer _ _ => Except OfferError Unit
  | lifecycle => Lifecycle
  | comeAlive => Bool
  | stop => Unit
  | setReady _ => Unit
  | warn _ => Unit
  | count _ _ => Unit
  | gaugeSessions _ => Unit

/-- A program over the steps of an instance. -/
abbrev Operation := Program Effect Effect.Reply

namespace Operation

/-- One step. -/
def perform (e : Effect) : Operation e.Reply :=
  Program.request e

/-- One call to the store. -/
def store (call : StoreCall) : Operation (Except StoreError call.Result) :=
  perform (.store call)

/-- Warns. -/
def warn (w : Warning) : Operation Unit :=
  perform (.warn w)

/-- Counts one. -/
def count (m : Metric) : Operation Unit :=
  perform (.count m 1)

end Operation

end ChatCluster
