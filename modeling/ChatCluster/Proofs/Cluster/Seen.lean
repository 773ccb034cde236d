import ChatCluster.Proofs.Cluster.Alone
import ChatCluster.Proofs.Store.Visible

/-!
# What Instances See of the Store

The store of a cluster as the instances see it at the present time, expired keys left out. What an
operation does to it, left alone on a store that answers, is put together from what its calls do.

Kinds of keys never get into each other's way, whatever the names in them are: they differ before
the name begins.

## Main definitions

* `Cluster.seen`: What is visible now.

## Theorems

* `Key.registry_ne_liveness`, `Key.registry_ne_rateLimit`, `Key.liveness_ne_rateLimit`: Keys of
  different kinds.
* `Cluster.seen_wait`: What is seen after a while.
* `Cluster.runAlone_get_seen`, `Cluster.seen_set`, `Cluster.seen_delete`, `Cluster.seen_expire`:
  Single calls.
-/

namespace ChatCluster

/-! ## Keys -/

/-- A text that begins with one text does not begin with another that differs from it. -/
theorem Text.append_ne_append {start other : String} (h : ∀ rest, Text.afterStart? other
    (start ++ rest) = none) (a b : String) : start ++ a ≠ other ++ b := by
  intro heq
  have hafter := h a
  rw [heq, Text.afterStart?_append] at hafter
  exact absurd hafter (by simp only [reduceCtorEq, not_false_eq_true])

theorem Key.registry_ne_liveness (user id : String) : Key.registry user ≠ Key.liveness id := by
  refine Text.append_ne_append (fun rest => ?_) user id
  simp [Text.afterStart?, Key.registryStart, Key.livenessStart, Text.charsAfter?]

theorem Key.registry_ne_rateLimit (user other : String) :
    Key.registry user ≠ Key.rateLimit other := by
  refine Text.append_ne_append (fun rest => ?_) user other
  simp [Text.afterStart?, Key.registryStart, Key.rateLimitStart, Text.charsAfter?]

theorem Key.liveness_ne_rateLimit (id user : String) : Key.liveness id ≠ Key.rateLimit user := by
  refine Text.append_ne_append (fun rest => ?_) id user
  simp [Text.afterStart?, Key.livenessStart, Key.rateLimitStart, Text.charsAfter?]

namespace Cluster

/-- What calls to the store see now. -/
def seen (c : Cluster) : String → Option Slot :=
  c.store.slots.visible c.now

@[simp] theorem seen_withSlots (c : Cluster) (slots : Slots) :
    (c.withSlots slots).seen = slots.visible c.now := rfl

/-- After a while, what has not expired is seen as it was. -/
theorem seen_wait (c : Cluster) (ms : Nat) (key : String) :
    ({ c with now := c.now + ms } : Cluster).seen key =
      (c.seen key).filter fun slot => slot.isLive (c.now + ms) :=
  Slots.visible_later _ _ (Nat.le_add_right _ _) key

/-! ## Single calls -/

variable (host : Nat) {c : Cluster}

theorem runAlone_get_seen (key : String) (h : c.store.fault = none) :
    (runAlone host (Operation.store (.get key)) c).1 = .ok ((c.seen key).bind Slot.text?) ∧
      (runAlone host (Operation.store (.get key)) c).2.seen = c.seen := by
  rw [runAlone_store host _ h]
  exact ⟨congrArg Except.ok (Slots.call_get _ _ key), Slots.visible_get _ _ key⟩

theorem seen_set (key text : String) (ttl : Nat) (h : c.store.fault = none) :
    (runAlone host (Operation.store (.set key text ttl)) c).2.seen =
      Function.update c.seen key
        (Slot.renewed { held := .text text, expiresAt := none } c.now ttl) := by
  rw [runAlone_store host _ h]
  exact Slots.visible_set _ _ key text ttl

theorem seen_delete (key : String) (h : c.store.fault = none) :
    (runAlone host (Operation.store (.delete key)) c).2.seen =
      Function.update c.seen key none := by
  rw [runAlone_store host _ h]
  exact Slots.visible_delete _ _ key

theorem seen_expire (key : String) (ttl : Nat) (h : c.store.fault = none) :
    (runAlone host (Operation.store (.expire key ttl)) c).2.seen =
      Function.update c.seen key ((c.seen key).bind fun slot => slot.renewed c.now ttl) := by
  rw [runAlone_store host _ h]
  exact Slots.visible_expire _ _ key ttl

end Cluster

end ChatCluster
