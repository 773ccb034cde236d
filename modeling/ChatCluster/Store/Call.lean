import ChatCluster.Decimal.Duration

/-!
# Calls to the Shared Store

All instances of a cluster talk to one store: texts that expire, and sets of texts. A call names a
key and either has its result or fails. Nothing is locked, so between two calls of one instance
any other may have changed what the first one saw.

Keys are laid out by what they are about. The part in front of the first name fixes the meaning of
the rest, whatever characters the rest holds.

## Main definitions

* `StoreCall`, `StoreCall.Result`: What can be asked, and the result of each.
* `StoreError`: Why a call failed, and its wording.
* `Key.registry`, `Key.liveness`, `Key.rateLimit`, `Key.roomMembers`: The layout of keys.
-/

namespace ChatCluster

/-- What can be asked of the store. Times to live are in milliseconds. -/
inductive StoreCall where
  /-- The text at a key. -/
  | get (key : String)
  /-- Writes a text that expires, in place of whatever the key held. -/
  | set (key value : String) (ttl : Nat)
  /-- Removes a key. -/
  | delete (key : String)
  /-- Sets the time to live of a key that is there. -/
  | expire (key : String) (ttl : Nat)
  /-- The keys that begin with a text. -/
  | keys (start : String)
  /-- Adds to a set. -/
  | addMember (key member : String)
  /-- Removes from a set. -/
  | removeMember (key member : String)
  /-- The members of a set. -/
  | members (key : String)
  deriving DecidableEq, Repr

/-- The result of a call that succeeds. -/
abbrev StoreCall.Result : StoreCall → Type
  | .get _ => Option String
  | .set _ _ _ => Unit
  | .delete _ => Bool
  | .expire _ _ => Bool
  | .keys _ => List String
  | .addMember _ _ => Unit
  | .removeMember _ _ => Unit
  | .members _ => List String

/-- Why a call failed, or why its result was of no use. -/
inductive StoreError where
  /-- The store cannot be reached. -/
  | unavailable (reason : String)
  /-- The store did not answer within so many milliseconds. -/
  | timeout (limit : Nat)
  /-- A stored text could not be read. -/
  | codec
  deriving DecidableEq, Repr

/-- The wording of a failure. -/
def StoreError.message : StoreError → String
  | .unavailable reason => "shared store unavailable: " ++ reason
  | .timeout limit => "shared store call timed out after " ++ Decimal.durationText limit
  | .codec => "stored value could not be decoded"

/-- The key of the set of a room's members. -/
def Key.roomMembers (room : String) : String := "room:members:" ++ room

/-- What the keys of registry entries begin with. -/
def Key.registryStart : String := "registry:"

/-- What the keys of liveness records begin with. -/
def Key.livenessStart : String := "liveness:"

/-- What the keys of token buckets begin with. -/
def Key.rateLimitStart : String := "ratelimit:"

/-- The key of the entry that says which instance owns a user. -/
def Key.registry (user : String) : String := registryStart ++ user

/-- The key of an instance's sign of life. -/
def Key.liveness (id : String) : String := livenessStart ++ id

/-- The key of a user's token bucket. -/
def Key.rateLimit (user : String) : String := rateLimitStart ++ user

end ChatCluster
