import ChatCluster.Proofs.Limiter.Admission

/-!
# Whatever Is Stored

Under the key of a user there may be any text. It may be no bucket at all, it may have been written
under another capacity or another rate, and its numbers may be negative, too large, or from a clock
that is ahead. The next attempt makes sense of it and puts it in order.

A text that is no bucket counts as a full one. Of a bucket only the tokens, the backlog and the time
of its last admission count; the tokens are put between zero and the capacity before anything else
happens, and a time that lies ahead counts as now. What is left of it is in order, whether the
attempt is admitted or refused.

## Main definitions

* `Bucket.Tidy`: A bucket that is in order.

## Theorems

* `Bucket.level_eq_of_fits`: The level, spelled out.
* `Bucket.tidy_draw`: What an attempt leaves is in order.
* `Cluster.check_tidies`: All that an attempt makes of a stored text.
-/

namespace ChatCluster

/-- A bucket whose numbers lie within their bounds, and that is written under the present
    settings. -/
structure Bucket.Tidy (s : LimitSettings ℚ) (b : Bucket ℚ) : Prop where
  zero_le_tokens : 0 ≤ b.tokens
  tokens_le : b.tokens ≤ s.capacity.toNat
  backlog_le : b.backlog ≤ s.capacity
  capacity : b.capacity = s.capacity
  rate : b.rate = s.rate

namespace Bucket

variable (s : LimitSettings ℚ) (b : Bucket ℚ) (now : Int64)

/-- What is noted, and what has come in since by the reading of the clock, up to the capacity. -/
theorem level_eq_of_fits (hlow : -2 ^ 63 ≤ now.toInt - b.lastRefill.toInt)
    (hhigh : now.toInt - b.lastRefill.toInt < 2 ^ 63) :
    b.level s now =
      min (max 0 (min b.tokens s.capacity.toNat) +
        s.rate * ((max 0 (now.toInt - b.lastRefill.toInt) : Int) : ℚ) / 1000)
        s.capacity.toNat := by
  rw [level_eq, secondsBetween_mul_eq_max s.rate hlow hhigh]
  rfl

theorem tidy_taken {level : ℚ} (hone : 1 ≤ level) (hle : level ≤ s.full) :
    (taken s level now).Tidy s := by
  have htokens : (taken s level now).tokens = level - 1 :=
    congrArg (level - ·) Nat.cast_one
  refine ⟨?_, ?_, UInt32.zero_le, rfl, rfl⟩
  · rw [htokens]
    linarith
  · rw [htokens, ← full_eq]
    linarith

theorem tokens_refused : (b.refused s).tokens = b.noted s :=
  clamp_eq (full_nonneg s)

theorem tidy_refused : (b.refused s).Tidy s := by
  refine ⟨?_, ?_, UInt32.le_iff_toNat_le.2 ?_, rfl, rfl⟩
  · rw [tokens_refused]
    exact b.noted_nonneg s
  · rw [tokens_refused]
    exact b.noted_le_full s
  · rw [toNat_backlog_refused]
    exact min_le_right _ _

/-- Whatever a bucket is like, what an attempt leaves of it is in order. -/
theorem tidy_draw : (b.draw s now).2.Tidy s := by
  rcases b.draw_cases s now with ⟨hone, hdraw⟩ | ⟨_, hdraw⟩
  · rw [hdraw]
    exact tidy_taken s now hone (b.level_le s now)
  · rw [hdraw]
    exact tidy_refused s b

end Bucket

/-- An attempt makes of any stored text a bucket that is in order. It is admitted exactly if the
    level is at least one, and then one token less is noted, for now; otherwise the time of the last
    admission stays, and what was noted is put between its bounds. -/
theorem Cluster.check_tidies [BucketText ℚ] (hread : BucketText.Faithful ℚ) {c : Cluster}
    {s : LimitSettings ℚ} (hs : s.InForce) (hhealthy : c.store.fault = none) (host : Nat)
    (user : UserId) {text : String}
    (hstored : (c.seen (Key.rateLimit user.text)).bind Slot.text? = some text)
    (hfits : ∀ b : Bucket ℚ, BucketText.read? text = some b →
      -2 ^ 63 ≤ (c.clockOf host).toInt - b.lastRefill.toInt ∧
        (c.clockOf host).toInt - b.lastRefill.toInt < 2 ^ 63) :
    let now := c.clockOf host
    let old : Bucket ℚ := (BucketText.read? text).getD (s.fullBucket now)
    let noted : ℚ := max 0 (min old.tokens s.capacity.toNat)
    let level : ℚ :=
      min (noted + s.rate * ((max 0 (now.toInt - old.lastRefill.toInt) : Int) : ℚ) / 1000)
        s.capacity.toNat
    let checked := c.runAlone host (RateLimiter.check s user)
    ∃ (left : String) (next : Bucket ℚ),
      checked.2.store.slots.find? (Key.rateLimit user.text) =
        some { held := .text left, expiresAt := some (c.now + s.idleTtl) } ∧
      (0 < s.idleTtl →
        (checked.2.seen (Key.rateLimit user.text)).bind Slot.text? = some left) ∧
      BucketText.read? left = some next ∧
      next.Tidy s ∧
      (checked.1 = .allowed ↔ 1 ≤ level) ∧
      (1 ≤ level → next.lastRefill = now ∧ next.backlog = 0 ∧ next.tokens = level - 1) ∧
      (level < 1 → next.lastRefill = old.lastRefill ∧ next.tokens = noted ∧
        next.backlog.toNat = min s.capacity.toNat (old.backlog.toNat + 1)) := by
  intro now old noted level checked
  have hold : c.bucketFor host s user = old := by
    rw [bucketFor, bucketIn, hstored, Option.bind_some]
  have holdfits : -2 ^ 63 ≤ now.toInt - old.lastRefill.toInt ∧
      now.toInt - old.lastRefill.toInt < 2 ^ 63 := by
    change _ ≤ now.toInt - ((BucketText.read? text).getD (s.fullBucket now)).lastRefill.toInt ∧
      now.toInt - ((BucketText.read? text).getD (s.fullBucket now)).lastRefill.toInt < _
    cases hbucket : (BucketText.read? text : Option (Bucket ℚ)) with
    | some b => exact hfits b hbucket
    -- A full bucket has been full for no time.
    | none =>
      change _ ≤ now.toInt - now.toInt ∧ now.toInt - now.toInt < _
      omega
  have hlevel : old.level s now = level :=
    Bucket.level_eq_of_fits s old now holdfits.1 holdfits.2
  rcases runAlone_check host user s hs.limits hhealthy with ⟨hanswer, hseen⟩
  have hfind := find?_check host user s hs.limits hhealthy
  rw [hold] at hanswer hseen hfind
  refine ⟨_, _, hfind, fun hidle => ?_, hread _, Bucket.tidy_draw s old now, ?_⟩
  · rw [hseen, Function.update_self, LimitSettings.written_eq, if_pos hidle]
    rfl
  rw [hanswer]
  rcases old.draw_cases s now with ⟨hone, hdraw⟩ | ⟨hlow, hdraw⟩
  · rw [hlevel] at hone
    rw [hdraw, hlevel]
    exact ⟨iff_of_true rfl hone, fun _ => ⟨rfl, rfl, congrArg (level - ·) Nat.cast_one⟩,
      fun hlow => absurd hone (not_le.2 hlow)⟩
  · rw [hlevel] at hlow
    rw [hdraw]
    refine ⟨iff_of_false ?_ (not_le.2 hlow), fun hone => absurd hone (not_le.2 hlow),
      fun _ => ⟨rfl, Bucket.tokens_refused s old, ?_⟩⟩
    · simp only [reduceCtorEq, not_false_eq_true]
    · rw [Bucket.toNat_backlog_refused, min_comm]

/-- A bucket that owes tokens, from a clock that is ahead, with a backlog that fits no capacity. -/
def ruinedBucket : Bucket ℚ :=
  { tokens := -3, lastRefill := 5000, capacity := 9, rate := 7, backlog := 4294967295 }

/-- Two instances, one user of whom such a bucket is stored. -/
def ruinedInstances : Cluster :=
  twoInstances.withSlots (Table.empty.insert (Key.rateLimit "u")
    { held := .text (BucketText.write ruinedBucket), expiresAt := none })

/-- The user is refused, and what is stored then is an empty bucket with a full backlog, of a
    capacity of two. -/
theorem check_tidies_ruined :
    let s : LimitSettings ℚ := .perMinute 2 60
    let checked := ruinedInstances.runAlone 0 (RateLimiter.check s ⟨"u"⟩)
    checked.1 ≠ .allowed ∧ ∃ (left : String) (next : Bucket ℚ),
      (checked.2.seen (Key.rateLimit "u")).bind Slot.text? = some left ∧
      BucketText.read? left = some next ∧ next.Tidy s ∧
      next.lastRefill = 5000 ∧ next.tokens = 0 ∧ next.backlog.toNat = 2 := by
  intro s checked
  have hrate : s.rate = 1 := LimitSettings.rate_perMinute_sixty 2
  have hread := faithful_exact ruinedBucket
  have hstored : (ruinedInstances.seen (Key.rateLimit "u")).bind Slot.text? =
      some (BucketText.write ruinedBucket) := rfl
  obtain ⟨left, next, _, hseen, hnext, htidy, hallowed, _, hrefused⟩ :=
    Cluster.check_tidies faithful_exact (s := s) ⟨rfl, by decide, by rw [hrate]; norm_num⟩
      (c := ruinedInstances) rfl 0 ⟨"u"⟩ hstored
      (fun b hb => by
        obtain rfl : ruinedBucket = b := Option.some.inj (hread.symm.trans hb)
        decide)
  rw [hread, hrate, Option.getD_some] at hallowed hrefused
  have hcapacity : (s.capacity.toNat : ℚ) = 2 := rfl
  have htokens : ruinedBucket.tokens = -3 := rfl
  have htime : max 0 ((ruinedInstances.clockOf 0).toInt - ruinedBucket.lastRefill.toInt) = 0 := rfl
  have hnoted : max 0 (min ruinedBucket.tokens (s.capacity.toNat : ℚ)) = 0 := by
    rw [htokens, hcapacity]
    norm_num
  rw [hnoted, htime, hcapacity] at hallowed hrefused
  norm_num at hallowed hrefused
  exact ⟨hallowed, left, next, hseen (by decide), hnext, htidy, hrefused⟩

end ChatCluster
