import ChatCluster.Proofs.Cluster.Steps
import ChatCluster.Proofs.Store.Slots

/-!
# Operations Left Alone

How an operation runs when nothing comes between its steps. `Cluster.runAlone` follows the
structure of programs: what comes second starts where what comes first has ended. With that, what
an operation does is put together from what its parts do, and none of them is unfolded twice.

On a store that answers, a call does to the slots what `Slots.call` says. A key that has not
expired is not swept, so a call that only looks leaves the slots alone.

## Main definitions

* `Cluster.withSlots`: The cluster with other things in its store.

## Theorems

* `Cluster.runAlone_bind`: One operation after another.
* `Cluster.runAlone_store`: A call to a store that answers.
* `Cluster.runAlone_get`: A look at what has not expired.
* `Cluster.profile?_runAlone`: Operations do not change how instances are configured.
* `Cluster.now_runAlone`, `Cluster.fault_runAlone`: They take no time and do not mend the store.
-/

namespace ChatCluster

namespace Cluster

/-- The cluster with other things in its store. -/
def withSlots (c : Cluster) (slots : Slots) : Cluster :=
  { c with store := { c.store with slots } }

@[simp] theorem withSlots_slots (c : Cluster) (slots : Slots) :
    (c.withSlots slots).store.slots = slots := rfl

@[simp] theorem withSlots_self (c : Cluster) : c.withSlots c.store.slots = c := rfl

variable {α β : Type} (host : Nat)

@[simp] theorem runAlone_pure (a : α) (c : Cluster) :
    runAlone host (pure a : Operation α) c = (a, c) := rfl

theorem runAlone_perform (e : Effect) (c : Cluster) :
    runAlone host (Operation.perform e) c = c.perform host e := rfl

/-- What comes second starts where what comes first has ended. -/
theorem runAlone_bind (p : Operation α) (f : α → Operation β) (c : Cluster) :
    runAlone host (p >>= f) c =
      runAlone host (f (runAlone host p c).1) (runAlone host p c).2 := by
  induction p generalizing c with
  | done a => rfl
  | ask e next ih => exact ih _ _

/-- A store that answers does what is asked of its slots. -/
theorem runAlone_store (call : StoreCall) {c : Cluster} (h : c.store.fault = none) :
    runAlone host (Operation.store call) c =
      (.ok (c.store.slots.call c.now call).1, c.withSlots (c.store.slots.call c.now call).2) := by
  rw [Operation.store, runAlone_perform]
  simp only [perform, MemoryStore.call, h]
  rfl

/-- A store that does not answer fails every call and does nothing. -/
theorem runAlone_store_of_fault (call : StoreCall) {c : Cluster} {e : StoreError}
    (h : c.store.fault = some e) : runAlone host (Operation.store call) c = (.error e, c) := by
  rw [Operation.store, runAlone_perform]
  simp only [perform, MemoryStore.call, h]

/-- Looking at a key that is visible or absent changes nothing. -/
theorem runAlone_get {key : String} {c : Cluster} (h : c.store.fault = none)
    (hlive : ∀ slot, c.store.slots.find? key = some slot → slot.isLive c.now = true) :
    runAlone host (Operation.store (.get key)) c =
      (.ok ((c.store.slots.find? key).bind Slot.text?), c) := by
  rw [runAlone_store host _ h]
  simp only [Slots.call, Slots.sweep_eq_self hlive, withSlots_self]

theorem profile?_runAlone (op : Operation α) (c : Cluster) (other : Nat) :
    (runAlone host op c).2.profile? other = c.profile? other := by
  induction op generalizing c with
  | done a => rfl
  | ask e next ih => exact (ih _ _).trans (profile?_perform c host other e)

theorem now_runAlone (op : Operation α) (c : Cluster) : (runAlone host op c).2.now = c.now := by
  induction op generalizing c with
  | done a => rfl
  | ask e next ih => exact (ih _ _).trans (now_perform c host e)

theorem fault_runAlone (op : Operation α) (c : Cluster) :
    (runAlone host op c).2.store.fault = c.store.fault := by
  induction op generalizing c with
  | done a => rfl
  | ask e next ih => exact (ih _ _).trans (fault_perform c host e)

end Cluster

end ChatCluster
