import ChatCluster.Instance.RateLimiter
import ChatCluster.Instance.Router

/-!
# The Pipeline of a Session

What happens to the things a client sends, one after another. A draft is read, stamped with the
session's user, weighed against that user's bucket, and routed.

Notices belong to the server. A draft of the broadcast class is thrown away before anything else
is done with it, and so is one that cannot be read: neither costs a token.

## Main definitions

* `Inbound`: What a client hands in.
* `Pipeline`: Who routes, and how senders are limited.
* `Inbound.admissible`: The draft that a client's item holds, if it is allowed.
* `Pipeline.handle`: Everything that happens to one item.
-/

namespace ChatCluster

open Operation

/-- What a client hands in. -/
inductive Inbound where
  /-- A draft. -/
  | draft (d : Draft)
  /-- A draft as it came over the network. -/
  | raw (bytes : Bytes)
  deriving DecidableEq, Repr

/-- Who routes, and how senders are limited. -/
structure Pipeline (Q : Type) where
  /-- Who routes. -/
  router : Router
  /-- How senders are limited. -/
  limits : LimitSettings Q

/-- Why an item of a client was thrown away. -/
inductive Refusal where
  /-- It cannot be read. -/
  | malformed
  /-- It is of the broadcast class. -/
  | broadcastKind
  deriving DecidableEq, Repr

/-- The draft in a client's item. -/
def Inbound.draft? : Inbound → Option Draft
  | .draft d => some d
  | .raw bytes => Draft.ofJson? bytes

/-- The draft in a client's item, if clients may send it. -/
def Inbound.admissible (item : Inbound) : Except Refusal Draft :=
  match item.draft? with
  | none => .error .malformed
  | some d => if d.isBroadcast then .error .broadcastKind else .ok d

namespace Pipeline

variable {Q : Type} [Amount Q] [BucketText Q]

/-- Weighs a stamped message against its sender's bucket, and routes it or tells the session to
    wait. -/
def submit (self : Pipeline Q) (session : SessionHandle) (m : Message) : Operation Unit := do
  match ← RateLimiter.check self.limits m.sender with
  | .throttled secs =>
    let _ ← perform (.offer session (.rejection (.rateLimited secs)))
    return
  | .allowed =>
    let _ ← self.router.route m
    return

/-- Everything that happens to one item of a session. -/
def handle (self : Pipeline Q) (session : SessionHandle) (item : Inbound) : Operation Unit := do
  match item.admissible with
  | .error .malformed =>
    warn .clientMessageMalformed
    count .malformedClientMessages
  | .error .broadcastKind =>
    warn .clientKindRefused
    count .malformedClientMessages
  | .ok draft =>
    let spare ← perform .spareId
    let now ← perform .clock
    self.submit session (draft.stamp spare session.user now)

end Pipeline

end ChatCluster
