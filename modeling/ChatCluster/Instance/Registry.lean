import ChatCluster.Instance.Effect
import ChatCluster.Json.Codec

/-!
# The Registry

Which instance holds a user's session. Each instance keeps its own sessions in its directory and
writes an entry for their users to the store, where the others look it up.

The last write wins: a user who attaches to a second instance takes the entry along, and the first
instance no longer gets messages for that user. Taking an entry back is more careful than writing
it. An instance deletes the entry of a user it lets go only if the entry still names itself, so it
never takes away what another has written. Entries expire; the owner extends them for as long as
the session is open.

A store that fails does not stop local delivery. It leaves the entry as it was, and the next
refresh that succeeds mends it.

## Main definitions

* `Registrar`: Who registers, and for how long.
* `Registrar.register`: A session has come.
* `Registrar.owner?`: Who owns a user.
* `Registrar.unregister`, `Registrar.unregisterIf`: A session has gone.
* `Registrar.refresh`, `Registrar.refreshAll`: Extending entries.
* `Registrar.roomMembers`: Who is in a room.
-/

namespace ChatCluster

open Operation

/-- Who registers sessions, and how long an entry lives without being extended. -/
structure Registrar where
  /-- The instance. -/
  id : InstanceId
  /-- The time to live of its entries, in milliseconds. -/
  entryTtl : Nat
  deriving DecidableEq, Repr

/-- What became of a registration. -/
structure Registration where
  /-- The session it replaced. -/
  superseded : Option SessionHandle
  /-- The entry was written. If not, the user can only be reached on this instance, until a
      refresh succeeds. -/
  shared : Bool
  deriving DecidableEq, Repr

namespace Registrar

/-- Writes the entry that names this instance the owner of a user. -/
def writeEntry (self : Registrar) (user : UserId) : Operation (Except StoreError Unit) := do
  let now ← perform .clock
  let entry : RegistryEntry := { user, owner := self.id, establishedAt := now }
  store (.set (Key.registry user.text) entry.toJson self.entryTtl)

/-- Reads the entry of a user. -/
def readEntry (user : UserId) : Operation (Except StoreError (Option RegistryEntry)) := do
  match ← store (.get (Key.registry user.text)) with
  | .error e => return .error e
  | .ok none => return .ok none
  | .ok (some text) =>
    match RegistryEntry.ofJson? text with
    | none => return .error .codec
    | some entry => return .ok (some entry)

/-- Reports how many sessions there are. -/
def gauge : Operation Unit := do
  let n ← perform .countSessions
  perform (.gaugeSessions n)

/-- Takes in a session, and makes this instance the owner of its user. -/
def register (self : Registrar) (session : SessionHandle) : Operation Registration := do
  let superseded ← perform (.insertSession session)
  gauge
  match ← self.writeEntry session.user with
  | .ok () => return { superseded, shared := true }
  | .error _ =>
    warn .registryWriteFailed
    count (.registryStoreErrors .register)
    return { superseded, shared := false }

/-- The instance that owns a user. -/
def owner? (user : UserId) : Operation (Except StoreError (Option InstanceId)) := do
  match ← readEntry user with
  | .error e => return .error e
  | .ok entry => return .ok (entry.map RegistryEntry.owner)

/-- The user is attached somewhere. -/
def isOnline (user : UserId) : Operation (Except StoreError Bool) := do
  match ← owner? user with
  | .error e => return .error e
  | .ok owner => return .ok owner.isSome

/-- Deletes the entry of a user unless it names another instance. One that cannot be read names
    nobody. -/
def deleteOwnEntry (self : Registrar) (user : UserId) : Operation (Except StoreError Bool) := do
  match ← readEntry user with
  | .ok none => return .ok false
  | .ok (some entry) =>
    -- Another instance has taken the user over; what it has written is not ours to delete.
    if entry.owner ≠ self.id then return .ok false
    else store (.delete (Key.registry user.text))
  | .error .codec => store (.delete (Key.registry user.text))
  | .error e => return .error e

/-- Gives up the entry of a user. -/
def release (self : Registrar) (user : UserId) : Operation Unit := do
  match ← self.deleteOwnEntry user with
  | .ok _ => return
  | .error _ =>
    warn .registryDeleteFailed
    count (.registryStoreErrors .unregister)

/-- Lets a user go. -/
def unregister (self : Registrar) (user : UserId) : Operation Unit := do
  let removed ← perform (.removeSession user)
  if removed.isSome then gauge
  self.release user

/-- Lets a user go if the session is still the one with the given number. -/
def unregisterIf (self : Registrar) (user : UserId) (id : SessionId) : Operation Bool := do
  match ← perform (.removeSessionIf user id) with
  | none => return false
  | some _ =>
    gauge
    self.release user
    return true

/-- Extends the entry of a user whose session is open, and writes it anew where it is missing.
    The result says whether there was such a session. -/
def refresh (self : Registrar) (user : UserId) : Operation (Except StoreError Bool) := do
  match ← perform (.findSession user) with
  | none => return .ok false
  | some session =>
    if ← perform (.isOpen session) then
      match ← store (.expire (Key.registry user.text) self.entryTtl) with
      | .error e => return .error e
      | .ok true => return .ok true
      -- The entry has expired, was reaped, or was never written.
      | .ok false =>
        match ← self.writeEntry user with
        | .error e => return .error e
        | .ok () => return .ok true
    else return .ok false

/-- Refreshes the users of some sessions one after another, and counts those refreshed. -/
def refreshEach (self : Registrar) : List SessionHandle → (refreshed : Nat) → Operation Nat
  | [], refreshed => return refreshed
  | session :: rest, refreshed => do
    match ← self.refresh session.user with
    | .ok true => self.refreshEach rest (refreshed + 1)
    | .ok false => self.refreshEach rest refreshed
    | .error _ =>
      warn .registryRefreshFailed
      count (.registryStoreErrors .refresh)
      self.refreshEach rest refreshed

/-- Refreshes every local user, and counts those refreshed. -/
def refreshAll (self : Registrar) : Operation Nat := do
  let sessions ← perform .listSessions
  self.refreshEach sessions 0

/-- Who is in a room. The set is kept by others, and blank names in it are passed over. -/
def roomMembers (room : RoomId) : Operation (Except StoreError (List UserId)) := do
  match ← store (.members (Key.roomMembers room.text)) with
  | .error e => return .error e
  | .ok names => return .ok (names.filterMap UserId.ofText?)

end Registrar

end ChatCluster
