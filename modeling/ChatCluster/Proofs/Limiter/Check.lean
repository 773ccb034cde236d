import ChatCluster.Instance.RateLimiter
import ChatCluster.Proofs.Cluster.Seen

/-!
# An Attempt Left Alone

What an attempt does when nothing comes between its steps and the store answers. The bucket that
is visible under the user's key is drawn from, or a full one if there is none that can be read, and
what is left of it is what is visible there afterwards. Everything else the store holds stays.

This holds over any numbers, and whatever text buckets are written in.

## Main definitions

* `bucketIn`: The bucket in a slot.
* `LimitSettings.slotOf`: What a bucket that is written now is kept as.
* `LimitSettings.written`: The slot of it, if it can be seen.
* `Cluster.clockOf`: What the clock of an instance shows.
* `Cluster.bucketFor`: The bucket that an attempt finds.

## Theorems

* `Cluster.runAlone_check`: What an attempt answers and leaves behind.
* `Cluster.find?_check`: What is stored then, seen or not.
* `Cluster.runAlone_status`: What is reported.
* `bucketIn_written`: A bucket is found as it was written.
-/

namespace ChatCluster

variable {Q : Type} [BucketText Q]

/-- The bucket in a slot, if it can be read. -/
def bucketIn (slot : Option Slot) : Option (Bucket Q) :=
  (slot.bind Slot.text?).bind BucketText.read?

/-- What a bucket that is written now is kept as. -/
def LimitSettings.slotOf (s : LimitSettings Q) (b : Bucket Q) (now : Nat) : Slot :=
  { held := .text (BucketText.write b), expiresAt := some (now + s.idleTtl) }

/-- The slot of a bucket that is written now, if it can be seen. -/
def LimitSettings.written (s : LimitSettings Q) (b : Bucket Q) (now : Nat) : Option Slot :=
  Slot.renewed { held := .text (BucketText.write b), expiresAt := none } now s.idleTtl

/-- Every bucket is read back from its text as it was written. -/
def BucketText.Faithful (Q : Type) [BucketText Q] : Prop :=
  ∀ b : Bucket Q, read? (write b) = some b

theorem LimitSettings.written_eq (s : LimitSettings Q) (b : Bucket Q) (now : Nat) :
    s.written b now = if 0 < s.idleTtl then some (s.slotOf b now) else none := rfl

theorem bucketIn_none : (bucketIn none : Option (Bucket Q)) = none := rfl

theorem bucketIn_slotOf (hread : BucketText.Faithful Q) (s : LimitSettings Q) (b : Bucket Q)
    (now : Nat) : bucketIn (some (s.slotOf b now)) = some b :=
  hread b

/-- A bucket is found as it was written. -/
theorem bucketIn_written (hread : BucketText.Faithful Q) {s : LimitSettings Q} {b : Bucket Q}
    {now : Nat} {slot : Slot} (h : s.written b now = some slot) :
    bucketIn (some slot) = some b := by
  rw [eq_of_renewed h]
  exact hread b

namespace Cluster

/-- What the clock of an instance shows. -/
def clockOf (c : Cluster) (host : Nat) : Int64 :=
  ((c.hosts.find? host).map Host.clock).getD 0

theorem clockOf_updateHost {c : Cluster} {host : Nat} (h : (c.profile? host).isSome)
    (time : Int64) :
    (c.updateHost host fun state => { state with clock := time }).clockOf host = time := by
  rw [profile?, Option.isSome_map] at h
  rcases Option.isSome_iff_exists.1 h with ⟨state, hstate⟩
  simp only [clockOf, updateHost, Table.find?_update, if_true, hstate, Option.map_some,
    Option.getD_some]

/-- The bucket that an attempt of a user finds. -/
def bucketFor [Amount Q] (c : Cluster) (host : Nat) (s : LimitSettings Q) (user : UserId) :
    Bucket Q :=
  (bucketIn (c.seen (Key.rateLimit user.text))).getD (s.fullBucket (c.clockOf host))

variable (host : Nat) (user : UserId) {c : Cluster}

theorem seen_warn (w : Warning) : (runAlone host (Operation.warn w) c).2.seen = c.seen := rfl

/-- Reading the bucket of a user changes nothing that is visible, nor the time. -/
theorem runAlone_load (h : c.store.fault = none) :
    (runAlone host (RateLimiter.load (Q := Q) user) c).1 =
        .ok (bucketIn (c.seen (Key.rateLimit user.text))) ∧
      (runAlone host (RateLimiter.load (Q := Q) user) c).2.seen = c.seen := by
  rcases runAlone_get_seen host (Key.rateLimit user.text) h with ⟨hreply, hseen⟩
  rw [RateLimiter.load, runAlone_bind, hreply, bucketIn]
  cases (c.seen (Key.rateLimit user.text)).bind Slot.text? with
  | none => exact ⟨rfl, hseen⟩
  | some text =>
    rw [Option.bind_some]
    cases hbucket : (BucketText.read? text : Option (Bucket Q)) with
    | some bucket =>
      simp only [hbucket, runAlone_pure]
      exact ⟨trivial, hseen⟩
    | none =>
      simp only [hbucket, runAlone_bind, seen_warn, runAlone_pure]
      exact ⟨trivial, hseen⟩

variable [Amount Q] (s : LimitSettings Q)

theorem runAlone_drawAndSave (now : Int64) (b : Bucket Q) (h : c.store.fault = none) :
    (runAlone host (RateLimiter.drawAndSave s user now b) c).1 = (b.draw s now).1 ∧
      (runAlone host (RateLimiter.drawAndSave s user now b) c).2.seen =
        Function.update c.seen (Key.rateLimit user.text) (s.written (b.draw s now).2 c.now) := by
  have hsave : (runAlone host (RateLimiter.save s user (b.draw s now).2) c).1 = .ok () ∧
      (runAlone host (RateLimiter.save s user (b.draw s now).2) c).2.seen =
        Function.update c.seen (Key.rateLimit user.text) (s.written (b.draw s now).2 c.now) := by
    rw [RateLimiter.save, runAlone_store host _ h]
    exact ⟨rfl, Slots.visible_set _ _ _ _ _⟩
  rw [RateLimiter.drawAndSave, runAlone_bind, hsave.1]
  -- What is left is counted, and counts are not seen in the store.
  cases (b.draw s now).1 <;> exact ⟨rfl, hsave.2⟩

/-- An attempt draws from the bucket that it finds, and leaves the rest of it behind. -/
theorem runAlone_check (hlimits : s.limits = true) (h : c.store.fault = none) :
    (runAlone host (RateLimiter.check s user) c).1 =
        ((c.bucketFor host s user).draw s (c.clockOf host)).1 ∧
      (runAlone host (RateLimiter.check s user) c).2.seen =
        Function.update c.seen (Key.rateLimit user.text)
          (s.written ((c.bucketFor host s user).draw s (c.clockOf host)).2 c.now) := by
  rcases runAlone_load (Q := Q) host user h with ⟨hload, hseen⟩
  have hfault : (runAlone host (RateLimiter.load (Q := Q) user) c).2.store.fault = none := by
    rw [fault_runAlone, h]
  have hdraw := runAlone_drawAndSave host user s (c.clockOf host) (c.bucketFor host s user) hfault
  rw [hseen, now_runAlone] at hdraw
  have hclock : runAlone host (Operation.perform .clock) c = (c.clockOf host, c) := rfl
  rw [RateLimiter.check, if_pos hlimits, runAlone_bind, hclock, runAlone_bind, hload]
  exact hdraw

/-- What is left of a bucket is stored, even if it is not kept for any time. -/
theorem find?_drawAndSave (now : Int64) (b : Bucket Q) (h : c.store.fault = none) :
    (runAlone host (RateLimiter.drawAndSave s user now b) c).2.store.slots.find?
        (Key.rateLimit user.text) = some (s.slotOf (b.draw s now).2 c.now) := by
  have hsave : (runAlone host (RateLimiter.save s user (b.draw s now).2) c).1 = .ok () ∧
      (runAlone host (RateLimiter.save s user (b.draw s now).2) c).2.store.slots.find?
        (Key.rateLimit user.text) = some (s.slotOf (b.draw s now).2 c.now) := by
    rw [RateLimiter.save, runAlone_store host _ h]
    exact ⟨rfl, (Table.find?_insert _ _ _ _).trans (if_pos rfl)⟩
  rw [RateLimiter.drawAndSave, runAlone_bind, hsave.1]
  cases (b.draw s now).1 <;> exact hsave.2

theorem find?_check (hlimits : s.limits = true) (h : c.store.fault = none) :
    (runAlone host (RateLimiter.check s user) c).2.store.slots.find? (Key.rateLimit user.text) =
      some (s.slotOf ((c.bucketFor host s user).draw s (c.clockOf host)).2 c.now) := by
  have hfault : (runAlone host (RateLimiter.load (Q := Q) user) c).2.store.fault = none := by
    rw [fault_runAlone, h]
  have hdraw := find?_drawAndSave host user s (c.clockOf host) (c.bucketFor host s user) hfault
  rw [now_runAlone] at hdraw
  have hclock : runAlone host (Operation.perform .clock) c = (c.clockOf host, c) := rfl
  rw [RateLimiter.check, if_pos hlimits, runAlone_bind, hclock, runAlone_bind,
    (runAlone_load host user h).1]
  exact hdraw

/-- The bucket that an attempt would find is reported. -/
theorem runAlone_status (h : c.store.fault = none) :
    (runAlone host (RateLimiter.status s user) c).1 =
      .ok ((c.bucketFor host s user).report s (c.clockOf host)) := by
  have hclock : runAlone host (Operation.perform .clock) c = (c.clockOf host, c) := rfl
  rw [RateLimiter.status, runAlone_bind, hclock, runAlone_bind, (runAlone_load host user h).1]
  rfl

/-- Reporting changes nothing that is visible. -/
theorem seen_status (h : c.store.fault = none) :
    (runAlone host (RateLimiter.status s user) c).2.seen = c.seen := by
  have hclock : runAlone host (Operation.perform .clock) c = (c.clockOf host, c) := rfl
  rcases runAlone_load (Q := Q) host user h with ⟨hload, hseen⟩
  rw [RateLimiter.status, runAlone_bind, hclock, runAlone_bind, hload]
  exact hseen

end Cluster

end ChatCluster
