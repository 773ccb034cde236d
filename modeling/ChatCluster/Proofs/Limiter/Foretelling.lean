import ChatCluster.Proofs.Limiter.Admission
import ChatCluster.Proofs.Limiter.Isolation

/-!
# What Is Reported Comes True

The bucket of a user can be asked for. What is reported is its level now, with nothing taken and
nothing written, and the next attempt at the same reading of the clock is answered by that level:
it is admitted exactly if a token was reported. What is reported after the attempt is one token
less, or the same if the attempt was refused, for as long as buckets are kept at all. Buckets that
are kept for no time are gone as soon as they are written, and a full one is reported again.

Reporting changes nothing that anybody can see. However often it is asked for in a run, and
wherever, everything else is answered as if it had not been.

## Main definitions

* `Request.isStatus`: A bucket is asked for, with nothing taken.

## Theorems

* `Alike.status`: Reporting makes no difference.
* `Cluster.status_foretells_check`: What is reported comes true.
-/

namespace ChatCluster

/-- A bucket is asked for, with nothing taken. -/
def Request.isStatus {Q : Type} : Request Q → Bool
  | status _ _ => true
  | _ => false

section Reporting

variable {Q : Type} [Amount Q] [BucketText Q] {scope : Scope} {c d : Cluster}

/-- Reporting makes no difference. -/
theorem Alike.status (h : Alike scope c d) (host : Nat) (s : LimitSettings Q) (user : UserId) :
    Alike scope (c.runAlone host (RateLimiter.status s user)).2 d := by
  have hconfined : Confined (.only (· = Key.rateLimit user.text)) (RateLimiter.status s user) :=
    confined_status s rfl
  have hrest := hconfined.alike_of_apart host (Scope.only_apart_allBut _)
    (Alike.refl _ h.healthy)
  exact
    { healthy := hrest.healthy
      healthy' := h.healthy'
      now := hrest.now.trans h.now
      clocks := hrest.clocks.trans h.clocks
      seen := fun key hkey => by rw [Cluster.seen_status host user s h.healthy, h.seen key hkey]
      sessions := fun hscope =>
        ⟨(hrest.sessions trivial).1.trans (h.sessions hscope).1,
          (hrest.sessions trivial).2.trans (h.sessions hscope).2⟩ }

/-- Reports may be left out of a run, and everything else is answered as before. -/
theorem Cluster.answered_filter_status (h : c.store.fault = none) (run : List (Occurrence Q)) :
    (c.answered run).filter (fun t => !t.request.isStatus) =
      c.answered (run.filter (Occurrence.isKept fun request => !request.isStatus)) := by
  have hself : Alike (.allBut fun _ => False) c c := Alike.refl _ h
  refine answered_filter_of_alike (fun request => !request.isStatus)
    (fun request _ => Request.confined_allBut (fun _ hkey => hkey.elim) fun _ _ hkey => hkey) ?_ run
    hself
  intro request hrequest host c d halike
  cases request with
  | status s user => exact halike.status host s user
  | check | reset | register | unregister | unregisterIf | refresh | refreshAll | owner | isOnline
  | heartbeat | liveInstances | reap | withdraw | enterRoom | leaveRoom | roomNames
  | roomMembers => cases hrequest

end Reporting

namespace Cluster

variable {c : Cluster} {s : LimitSettings ℚ}

theorem clockOf_runAlone {α : Type} (host : Nat) (op : Operation α) :
    (c.runAlone host op).2.clockOf host = c.clockOf host :=
  congrArg (Option.getD · 0) (congrFun (clock?_runAlone c host op) host)

variable [BucketText ℚ]

/-- A bucket is reported by its level now. -/
theorem tokens_status (hhealthy : c.store.fault = none) (host : Nat) (user : UserId) :
    (c.runAlone host (RateLimiter.status s user)).1.map Bucket.tokens =
      .ok ((c.bucketFor host s user).level s (c.clockOf host)) := by
  rw [runAlone_status host user s hhealthy]
  rfl

/-- After an attempt, what it has left is reported, unless buckets are kept for no time. -/
theorem tokens_status_checked (hread : BucketText.Faithful ℚ) (hs : s.InForce)
    (hhealthy : c.store.fault = none) (host : Nat) (user : UserId) :
    let checked := c.runAlone host (RateLimiter.check s user)
    (checked.2.runAlone host (RateLimiter.status s user)).1.map Bucket.tokens =
      .ok (if 0 < s.idleTtl then
        (c.bucketFor host s user).level s (c.clockOf host) -
          if checked.1.isAllowed then 1 else 0
        else s.full) := by
  intro checked
  rcases runAlone_check host user s hs.limits hhealthy with ⟨hanswer, hseen⟩
  have hfound := congrFun hseen (Key.rateLimit user.text)
  rw [Function.update_self, LimitSettings.written_eq] at hfound
  rw [tokens_status ((fault_runAlone host _ c).trans hhealthy), bucketFor, hfound, clockOf_runAlone]
  split
  · rw [bucketIn_slotOf hread, Option.getD_some, Bucket.level_draw, ← hanswer]
  · rw [bucketIn_none, Option.getD_none, Bucket.level_fullBucket]

/-- What is reported of a bucket changes nothing, and the next attempt at that reading is admitted
    exactly if a token was reported. What is reported then is one token less, or the same after a
    refusal, unless buckets are kept for no time. And reports may be left out of any run. -/
theorem status_foretells_check (hread : BucketText.Faithful ℚ) (hs : s.InForce)
    (hhealthy : c.store.fault = none) (host : Nat) (user : UserId) :
    let told := c.runAlone host (RateLimiter.status s user)
    let checked := told.2.runAlone host (RateLimiter.check s user)
    let again := checked.2.runAlone host (RateLimiter.status s user)
    told.2.seen = c.seen ∧
      (∃ level : ℚ, told.1.map Bucket.tokens = .ok level ∧
        (checked.1 = .allowed ↔ 1 ≤ level) ∧
        (0 < s.idleTtl → again.1.map Bucket.tokens =
          .ok (if checked.1 = .allowed then level - 1 else level)) ∧
        (s.idleTtl = 0 → again.1.map Bucket.tokens = .ok (s.capacity.toNat : ℚ))) ∧
      ∀ run : List (Occurrence ℚ),
        (c.answered run).filter (fun t => !t.request.isStatus) =
          c.answered (run.filter (Occurrence.isKept fun request => !request.isStatus)) := by
  intro told checked again
  have htold : told.2.store.fault = none := (fault_runAlone host _ c).trans hhealthy
  have hseen : told.2.seen = c.seen := seen_status host user s hhealthy
  have hclock : told.2.clockOf host = c.clockOf host := clockOf_runAlone host _
  have hfound : told.2.bucketFor host s user = c.bucketFor host s user := by
    rw [bucketFor, bucketFor, hseen, hclock]
  have hanswer : checked.1 = ((c.bucketFor host s user).draw s (c.clockOf host)).1 := by
    rw [← hfound, ← hclock]
    exact (runAlone_check host user s hs.limits htold).1
  have hagain : again.1.map Bucket.tokens = .ok (if 0 < s.idleTtl then
      (c.bucketFor host s user).level s (c.clockOf host) - if checked.1.isAllowed then 1 else 0
      else s.full) := by
    rw [← hfound, ← hclock]
    exact tokens_status_checked hread hs htold host user
  have hallowed : checked.1 = .allowed ↔ checked.1.isAllowed = true := by
    cases checked.1 <;> simp only [Admission.isAllowed, reduceCtorEq]
  refine ⟨hseen, ⟨_, tokens_status hhealthy host user, ?_, fun hidle => ?_, fun hidle => ?_⟩,
    answered_filter_status hhealthy⟩
  · rw [hallowed, hanswer, Bucket.isAllowed_draw, decide_eq_true_eq]
  · rw [hagain, if_pos hidle]
    simp only [hallowed]
    split
    · rfl
    · rw [sub_zero]
  · rw [hagain, if_neg (by omega)]
    rfl

end Cluster

/-- A user who has two tokens is told of them, sends, and is told of the other one. -/
theorem status_foretells_check_fresh :
    let s : LimitSettings ℚ := .perMinute 2 60
    let told := twoInstances.runAlone 0 (RateLimiter.status s ⟨"u"⟩)
    let checked := told.2.runAlone 0 (RateLimiter.check s ⟨"u"⟩)
    told.1.map Bucket.tokens = .ok 2 ∧ checked.1 = .allowed ∧
      (checked.2.runAlone 0 (RateLimiter.status s ⟨"u"⟩)).1.map Bucket.tokens = .ok 1 := by
  intro s told checked
  have hrate : s.rate = 1 := LimitSettings.rate_perMinute_sixty 2
  obtain ⟨_, ⟨level, hlevel, hallowed, hagain, _⟩, _⟩ :=
    Cluster.status_foretells_check faithful_exact (c := twoInstances) (s := s)
      ⟨rfl, by decide, by rw [hrate]; norm_num⟩ rfl 0 ⟨"u"⟩
  have htold : told.1.map Bucket.tokens = .ok 2 := by decide +kernel
  obtain rfl : 2 = level := Except.ok.inj (htold.symm.trans hlevel)
  have hone : checked.1 = .allowed := hallowed.2 (by norm_num)
  refine ⟨htold, hone, ?_⟩
  rw [hagain (by decide), if_pos hone]
  norm_num

/-- If buckets are kept for no time, the token that was taken is reported again. -/
theorem status_after_check_fleeting :
    let s : LimitSettings ℚ := { LimitSettings.perMinute 2 60 with idleTtl := 0 }
    let told := twoInstances.runAlone 0 (RateLimiter.status s ⟨"u"⟩)
    let checked := told.2.runAlone 0 (RateLimiter.check s ⟨"u"⟩)
    s.InForce ∧ told.1.map Bucket.tokens = .ok 2 ∧ checked.1 = .allowed ∧
      (checked.2.runAlone 0 (RateLimiter.status s ⟨"u"⟩)).1.map Bucket.tokens ≠ .ok (2 - 1) := by
  have hrate := LimitSettings.rate_perMinute_sixty 2
  refine ⟨⟨rfl, by decide, ?_⟩, by decide +kernel, by decide +kernel, by decide +kernel⟩
  change 0 < (LimitSettings.perMinute 2 60 : LimitSettings ℚ).rate
  rw [hrate]
  norm_num

end ChatCluster
