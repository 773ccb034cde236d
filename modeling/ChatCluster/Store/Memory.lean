import ChatCluster.Store.Call
import ChatCluster.Table
import ChatCluster.Text.Start

/-!
# The Store in Memory

A store that lives in the process. A key holds a text or a set, and from a certain instant on it
is as good as gone. Nobody waits for that instant: an expired key is swept out by the next call
that touches it, so the table may hold keys that no call can see.

Instants are whole milliseconds without a bound. The clock of a machine has a last instant, some
`2 ^ 63` seconds off, and a process panics in a call that has a key expire after it. This is left
out: such a call is answered like any other, with an instant that no clock will reach.

For tests of what happens when a store fails, the whole store can be made unavailable or can be
made to stall. Unavailable outweighs stalled.

## Main definitions

* `Held`, `Slot`, `Slots`: What the store holds.
* `Slots.sweep`: Drops one key if it has expired.
* `Slots.call`: A call at a given instant.
* `MemoryStore`: The store, with its switches.
* `MemoryStore.call`: A call that may fail.
-/

namespace ChatCluster

/-- What a key holds. -/
inductive Held where
  /-- A text. -/
  | text (value : String)
  /-- A set, its members in the order in which they came. -/
  | members (names : List String)
  deriving DecidableEq, Repr

/-- What a key holds, and until when. -/
structure Slot where
  /-- What it holds. -/
  held : Held
  /-- The instant from which on it is gone; a set made by adding to it has none. -/
  expiresAt : Option Nat
  deriving DecidableEq, Repr

/-- The slot can be seen at the given instant. -/
def Slot.isLive (s : Slot) (now : Nat) : Bool :=
  s.expiresAt.all fun deadline => now < deadline

/-- The text in a slot. -/
def Slot.text? (s : Slot) : Option String :=
  match s.held with
  | .text value => some value
  | .members _ => none

/-- The members in a slot; a text has none. -/
def Slot.members (s : Slot) : List String :=
  match s.held with
  | .text _ => []
  | .members names => names

/-- Texts in the order of their bytes, which is that of their code points. -/
def sortTexts (texts : List String) : List String :=
  texts.mergeSort fun a b => decide (a ≤ b)

/-- Everything a store holds. -/
abbrev Slots := Table String Slot

namespace Slots

/-- Drops a key if it has expired. -/
def sweep (slots : Slots) (now : Nat) (key : String) : Slots :=
  slots.filter fun k slot => k ≠ key || slot.isLive now

/-- Drops every key that has expired. -/
def sweepAll (slots : Slots) (now : Nat) : Slots :=
  slots.filter fun _ slot => slot.isLive now

/-- Adds a member to a slot. A text gives way to a set; when the slot expires does not change. -/
def Slot.withMember (slot : Slot) (member : String) : Slot :=
  if member ∈ slot.members then { slot with held := .members slot.members }
  else { slot with held := .members (slot.members ++ [member]) }

/-- A call at a given instant. -/
def call (slots : Slots) (now : Nat) : (call : StoreCall) → call.Result × Slots
  | .get key =>
    let slots := slots.sweep now key
    ((slots.find? key).bind Slot.text?, slots)
  | .set key value ttl =>
    ((), slots.insert key { held := .text value, expiresAt := some (now + ttl) })
  | .delete key =>
    let slots := slots.sweep now key
    (slots.contains key, slots.erase key)
  | .expire key ttl =>
    let slots := slots.sweep now key
    (slots.contains key, slots.update key fun slot => { slot with expiresAt := some (now + ttl) })
  | .keys start =>
    let slots := slots.sweepAll now
    (sortTexts (slots.keys.filter (Text.startsWith start)), slots)
  | .addMember key member =>
    let slots := slots.sweep now key
    match slots.find? key with
    | none => ((), slots.insert key { held := .members [member], expiresAt := none })
    | some slot => ((), slots.insert key (Slot.withMember slot member))
  | .removeMember key member =>
    let slots := slots.sweep now key
    match slots.find? key with
    | some { held := .members names, expiresAt } =>
      let names := names.filter (· ≠ member)
      if names = [] then ((), slots.erase key)
      else ((), slots.insert key { held := .members names, expiresAt })
    | _ => ((), slots)
  | .members key =>
    let slots := slots.sweep now key
    (sortTexts (((slots.find? key).map Slot.members).getD []), slots)

end Slots

/-- A store in memory, with the switches that make it fail. -/
structure MemoryStore where
  /-- What it holds. -/
  slots : Slots
  /-- Every call fails. -/
  unavailable : Bool
  /-- No call is answered. -/
  stalled : Bool
  /-- For how many milliseconds a call waits for an answer. -/
  opTimeout : Nat

namespace MemoryStore

/-- An empty store. -/
def new (opTimeout : Nat) : MemoryStore :=
  { slots := .empty, unavailable := false, stalled := false, opTimeout }

/-- Why no call can succeed now, if none can. -/
def fault (store : MemoryStore) : Option StoreError :=
  if store.unavailable then some (.unavailable "in-memory store marked unavailable")
  else if store.stalled then some (.timeout store.opTimeout)
  else none

/-- How long a call waits before it fails, or zero if the answer comes at once. -/
def delay (store : MemoryStore) : Nat :=
  if !store.unavailable && store.stalled then store.opTimeout else 0

/-- A call at a given instant. One that fails changes nothing. -/
def call (store : MemoryStore) (now : Nat) (call : StoreCall) :
    Except StoreError call.Result × MemoryStore :=
  match store.fault with
  | some e => (.error e, store)
  | none =>
    let (result, slots) := store.slots.call now call
    (.ok result, { store with slots })

end MemoryStore

end ChatCluster
