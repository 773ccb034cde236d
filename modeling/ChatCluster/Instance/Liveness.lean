import ChatCluster.Instance.Registry
import ChatCluster.Text.Start

/-!
# Liveness

An instance that is alive says so: at every heartbeat it writes a record that expires soon. One
whose record has expired is dead to the others, and its registry entries are left behind. Any
instance may clear them away in a reap pass.

A pass reads the set of live instances once and then looks at one entry after another, while the
others go on. Two looks keep it from taking away what has come to life meanwhile: the owner's
record is read again before an entry is condemned, and the entry is read again and has to be
unchanged before it is deleted.

## Main definitions

* `LivenessSettings`: How often an instance shows itself and looks at the others.
* `Monitor`: Who watches.
* `Monitor.heartbeat`: Shows itself.
* `Monitor.liveInstances`: Who has shown itself.
* `Monitor.reap`: Clears away the entries of dead instances.
* `Monitor.withdraw`: Takes its leave.

## Theorems

* `Monitor.ofLivenessKey?_eq_some_iff`: Keys of records name whoever they belong to.
-/

namespace ChatCluster

open Operation

/-- How often an instance shows itself and looks at the others, in milliseconds. -/
structure LivenessSettings where
  /-- The time from one heartbeat to the next. -/
  heartbeat : Nat
  /-- The time to live of a liveness record. -/
  ttl : Nat
  /-- The time from one reap pass to the next. -/
  reap : Nat
  deriving DecidableEq, Repr

/-- The intervals of an instance that is not told otherwise. -/
def LivenessSettings.standard : LivenessSettings :=
  { heartbeat := 30000, ttl := 60000, reap := 60000 }

/-- Who watches: an instance, and how long its sign of life lasts. -/
structure Monitor extends Registrar where
  /-- The time to live of its record, in milliseconds. -/
  recordTtl : Nat
  deriving DecidableEq, Repr

/-- What a reap pass did. -/
structure ReapReport where
  /-- How many entries it looked at. -/
  scanned : Nat
  /-- How many it deleted. -/
  removed : Nat
  deriving DecidableEq, Repr

namespace Monitor

/-- Writes a sign of life, and extends the entries of the instance's open sessions. An instance
    that has stopped does neither. -/
def heartbeat (self : Monitor) : Operation (Except StoreError Unit) := do
  if (← perform .lifecycle) = .stopped then return .ok ()
  let now ← perform .clock
  let sign : LivenessRecord := { instanceId := self.id, lastSeen := now }
  match ← store (.set (Key.liveness self.id.text) sign.toJson self.recordTtl) with
  | .error e => return .error e
  | .ok () =>
    if ← perform .comeAlive then perform (.setReady true)
    let _ ← self.refreshAll
    return .ok ()

/-- The instance named by the key of a liveness record. -/
def ofLivenessKey? (key : String) : Option InstanceId :=
  (Text.afterStart? Key.livenessStart key).bind InstanceId.ofText?

theorem ofLivenessKey?_eq_some_iff {key : String} {id : InstanceId} :
    ofLivenessKey? key = some id ↔ key = Key.liveness id.text ∧ Text.isBlank id.text = false := by
  simp only [ofLivenessKey?, Option.bind_eq_some_iff, Text.afterStart?_eq_some_iff,
    InstanceId.ofText?_eq_some_iff]
  constructor
  · rintro ⟨name, rfl, rfl, hblank⟩
    exact ⟨rfl, hblank⟩
  · rintro ⟨rfl, hblank⟩
    exact ⟨id.text, rfl, rfl, hblank⟩

/-- The instances with a record that has not expired. -/
def liveInstances : Operation (Except StoreError (List InstanceId)) := do
  match ← store (.keys Key.livenessStart) with
  | .error e => return .error e
  | .ok keys => return .ok (keys.filterMap ofLivenessKey?)

/-- What is to become of an entry. -/
inductive Verdict where
  /-- Its owner is alive. -/
  | keep
  /-- Its owner has come to life since the pass began. -/
  | revived (owner : InstanceId)
  /-- Its owner is dead, or it names none. -/
  | condemn
  deriving DecidableEq, Repr

/-- Judges an entry by its text. -/
def judge (live : List InstanceId) (text : String) : Operation (Except StoreError Verdict) := do
  match RegistryEntry.ofJson? text with
  | none =>
    warn .entryMalformed
    return .ok .condemn
  | some entry =>
    if entry.owner ∈ live then return .ok .keep
    -- The owner may have come to life after the set was read.
    match ← store (.get (Key.liveness entry.owner.text)) with
    | .error e => return .error e
    | .ok none => return .ok .condemn
    | .ok (some _) => return .ok (.revived entry.owner)

/-- Deletes a condemned entry if it still reads as it did, and says whether it was there. -/
def deleteUnchanged (key text : String) : Operation (Except StoreError Bool) := do
  match ← store (.get key) with
  | .error e => return .error e
  | .ok current =>
    -- What reads differently now was written by somebody who is alive.
    if current = some text then store (.delete key) else return .ok false

/-- Goes through the entries at some keys, and counts those it deletes. -/
def reapEach : List String → (live : List InstanceId) → (removed : Nat) →
    Operation (Except StoreError Nat)
  | [], _, removed => return .ok removed
  | key :: rest, live, removed => do
    match ← store (.get key) with
    | .error e => return .error e
    | .ok none => reapEach rest live removed
    | .ok (some text) =>
      match ← judge live text with
      | .error e => return .error e
      | .ok .keep => reapEach rest live removed
      | .ok (.revived owner) => reapEach rest (owner :: live) removed
      | .ok .condemn =>
        match ← deleteUnchanged key text with
        | .error e => return .error e
        | .ok true => reapEach rest live (removed + 1)
        | .ok false => reapEach rest live removed

/-- One reap pass. The instance itself counts as alive whatever its record says. -/
def reap (self : Monitor) : Operation (Except StoreError ReapReport) := do
  match ← liveInstances with
  | .error e => return .error e
  | .ok live =>
    match ← store (.keys Key.registryStart) with
    | .error e => return .error e
    | .ok keys =>
      match ← reapEach keys (self.id :: live) 0 with
      | .error e => return .error e
      | .ok removed =>
        perform (.count .reapedEntries removed)
        return .ok { scanned := keys.length, removed }

/-- Stops the instance and takes its record away, so that the others need not wait for it to
    expire. -/
def withdraw (self : Monitor) : Operation (Except StoreError Unit) := do
  perform .stop
  perform (.setReady false)
  match ← store (.delete (Key.liveness self.id.text)) with
  | .error e => return .error e
  | .ok _ => return .ok ()

end Monitor

end ChatCluster
