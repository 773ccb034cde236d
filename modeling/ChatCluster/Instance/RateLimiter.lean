import ChatCluster.Instance.Effect
import ChatCluster.TokenBucket

/-!
# The Rate Limiter

Buckets are kept in the store, one text for each user, so that all instances draw from the same
one. Drawing is a read followed by a write with nothing locked in between: two instances that
check one user at the same moment may both find the last token.

The limiter would rather let a message through than lose it. If the bucket cannot be read the
message is admitted and nothing is written, and a text that is no bucket counts as none.

## Main definitions

* `RateLimiter.check`: One attempt of a user.
* `RateLimiter.status`: The bucket of a user, with nothing taken.
* `RateLimiter.reset`: Forgets the bucket of a user.
-/

namespace ChatCluster.RateLimiter

open Operation

variable {Q : Type} [Amount Q] [BucketText Q]

/-- Reads the bucket of a user. -/
def load (user : UserId) : Operation (Except StoreError (Option (Bucket Q))) := do
  match ← store (.get (Key.rateLimit user.text)) with
  | .error e => return .error e
  | .ok none => return .ok none
  | .ok (some text) =>
    match BucketText.read? text with
    | some bucket => return .ok (some bucket)
    | none =>
      warn .limitStateMalformed
      return .ok none

/-- Writes the bucket of a user. -/
def save (s : LimitSettings Q) (user : UserId) (bucket : Bucket Q) :
    Operation (Except StoreError Unit) :=
  store (.set (Key.rateLimit user.text) (BucketText.write bucket) s.idleTtl)

/-- Draws from a bucket that was read at the time `now`, and writes it back. -/
def drawAndSave (s : LimitSettings Q) (user : UserId) (now : Int64) (bucket : Bucket Q) :
    Operation Admission := do
  let (admission, next) := bucket.draw s now
  match ← save s user next with
  | .ok () => pure ()
  | .error _ => warn .limitStateNotSaved
  match admission with
  | .allowed => count .limitAllowed
  | .throttled _ => count .limitRejected
  return admission

/-- One attempt of a user to send a message. -/
def check (s : LimitSettings Q) (user : UserId) : Operation Admission := do
  if s.limits then
    let now ← perform .clock
    match ← load user with
    | .error _ =>
      warn .limitStateUnavailable
      count .limitStoreErrors
      return .allowed
    | .ok stored => drawAndSave s user now (stored.getD (s.fullBucket now))
  else return .allowed

/-- The bucket of a user as it is now. -/
def status (s : LimitSettings Q) (user : UserId) : Operation (Except StoreError (Bucket Q)) := do
  let now ← perform .clock
  match ← load user with
  | .error e => return .error e
  | .ok stored => return .ok ((stored.getD (s.fullBucket now)).report s now)

/-- Forgets the bucket of a user; the next attempt finds a full one. -/
def reset (user : UserId) : Operation (Except StoreError Bool) :=
  store (.delete (Key.rateLimit user.text))

end ChatCluster.RateLimiter
