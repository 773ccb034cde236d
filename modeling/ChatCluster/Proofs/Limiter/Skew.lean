import ChatCluster.Proofs.Limiter.Refusals
import ChatCluster.Proofs.Limiter.Trials

/-!
# Clocks That Disagree

The clocks of instances need not agree, and a clock may be set back. What comes into a bucket is
reckoned from its last admission, by the clock of whoever draws next. If that clock is behind, no
time has gone by and nothing comes in. But the admission is noted by the clock that is behind, and
whoever draws next by a clock that is ahead is credited with the time in between once more.

What is admitted is bounded by these credits (`Cluster.admitted_credited`), and not by the time from
the least reading to the greatest. Where admissions take place at readings that do not fall the two
are the same. Where they go back and forth there is no bound: two instances whose clocks are far
enough apart admit everybody who turns to them by turns (`Cluster.trials_seesaw`).

## Main definitions

* `secondsSince`, `creditedSeconds`: What is credited along some readings.
* `Cluster.admitted`: The attempts that are admitted.

## Theorems

* `secondsSince_mul_le`: Along readings that do not fall no time is credited twice.
* `Cluster.Stores.length_admitted_le`: What is admitted from a bucket that is stored.
* `Cluster.length_admitted_le`, `Cluster.admitted_credited`: What is admitted from any beginning.
* `Cluster.trials_seesaw`: Two clocks by turns.
-/

namespace ChatCluster

/-! ## Credits -/

/-- The seconds that are credited along some readings, with another one before them. -/
def secondsSince : Int64 → List Int64 → ℚ
  | _, [] => 0
  | last, reading :: rest => secondsBetween last reading + secondsSince reading rest

/-- The seconds that are credited along some readings. -/
def creditedSeconds : List Int64 → ℚ
  | [] => 0
  | reading :: rest => secondsSince reading rest

theorem secondsSince_nonneg (last : Int64) (readings : List Int64) :
    0 ≤ secondsSince last readings := by
  induction readings generalizing last with
  | nil => exact le_refl 0
  | cons reading rest ih => exact add_nonneg (secondsBetween_nonneg _ _) (ih reading)

theorem creditedSeconds_nonneg (readings : List Int64) : 0 ≤ creditedSeconds readings := by
  cases readings with
  | nil => exact le_refl 0
  | cons reading rest => exact secondsSince_nonneg reading rest

/-- Along readings that do not fall, no more is credited than comes in from the first to the
    last. -/
theorem secondsSince_mul_le {rate : ℚ} (hrate : 0 ≤ rate) {last greatest : Int64}
    {readings : List Int64} (hsorted : (last :: readings).Pairwise (· ≤ ·))
    (hle : ∀ reading ∈ last :: readings, reading ≤ greatest) :
    rate * secondsSince last readings ≤ perSecond rate last.toInt greatest.toInt := by
  induction readings generalizing last with
  | nil =>
    rw [secondsSince, mul_zero]
    exact perSecond_nonneg hrate (Int64.le_iff_toInt_le.1 (hle last List.mem_cons_self))
  | cons reading rest ih =>
    rw [List.forall_mem_cons] at hle
    rw [List.pairwise_cons] at hsorted
    have hfirst := secondsBetween_mul_le hrate last (hsorted.1 reading List.mem_cons_self)
    rw [secondsBetween_self, zero_mul, zero_add] at hfirst
    calc rate * secondsSince last (reading :: rest)
        = secondsBetween last reading * rate + rate * secondsSince reading rest := by
          rw [secondsSince, mul_add, mul_comm]
      _ ≤ perSecond rate last.toInt reading.toInt + perSecond rate reading.toInt greatest.toInt :=
          add_le_add hfirst (ih hsorted.2 hle.2)
      _ = perSecond rate last.toInt greatest.toInt := perSecond_add _ _ _ _

theorem creditedSeconds_mul_le {rate : ℚ} (hrate : 0 ≤ rate) {least greatest : Int64}
    (hspan : least ≤ greatest) {readings : List Int64} (hsorted : readings.Pairwise (· ≤ ·))
    (hbounds : ∀ reading ∈ readings, least ≤ reading ∧ reading ≤ greatest) :
    rate * creditedSeconds readings ≤ perSecond rate least.toInt greatest.toInt := by
  cases readings with
  | nil =>
    rw [creditedSeconds, mul_zero]
    exact perSecond_nonneg hrate (Int64.le_iff_toInt_le.1 hspan)
  | cons reading rest =>
    refine le_trans (secondsSince_mul_le hrate hsorted fun r hr => (hbounds r hr).2) ?_
    have hleast := Int64.le_iff_toInt_le.1 (hbounds reading List.mem_cons_self).1
    exact perSecond_le hrate (by omega)

/-! ## What is admitted -/

namespace Cluster

variable [BucketText ℚ]

/-- The attempts that are admitted. -/
def admitted (c : Cluster) (s : LimitSettings ℚ) (user : UserId) (ts : List Trial) : List Trial :=
  staying (ts.zip ((c.trials s user ts).map Admission.isAllowed))

variable {c : Cluster} {s : LimitSettings ℚ} {user : UserId} {t : Trial} {b : Bucket ℚ}

theorem admitted_cons (t : Trial) (rest : List Trial) :
    c.admitted s user (t :: rest) =
      if (c.trial s user t).1.isAllowed then t :: (c.trial s user t).2.admitted s user rest
      else (c.trial s user t).2.admitted s user rest := by
  rw [admitted, trials, List.map_cons, List.zip_cons_cons, staying_cons]
  rfl

theorem admitted_of_allowed (h : (c.trial s user t).1 = .allowed) (rest : List Trial) :
    c.admitted s user (t :: rest) = t :: (c.trial s user t).2.admitted s user rest := by
  rw [admitted_cons, h]
  rfl

theorem admitted_of_throttled {secs : UInt64} (h : (c.trial s user t).1 = .throttled secs)
    (rest : List Trial) :
    c.admitted s user (t :: rest) = (c.trial s user t).2.admitted s user rest := by
  rw [admitted_cons, h]
  rfl

theorem mem_of_mem_admitted {ts : List Trial} (h : t ∈ c.admitted s user ts) : t ∈ ts := by
  rcases List.mem_map.1 h with ⟨marked, hmarked, rfl⟩
  exact (List.of_mem_zip (List.mem_filter.1 hmarked).1).1

/-- As many are admitted as the answers say. -/
theorem length_admitted (ts : List Trial) :
    (c.admitted s user ts).length = (c.trials s user ts).countP Admission.isAllowed := by
  induction ts generalizing c with
  | nil => rfl
  | cons t rest ih =>
    rw [admitted_cons, trials, List.countP_cons, ← ih]
    split <;> rfl

/-- No more is admitted from a bucket that is stored than is noted there, and what is credited along
    the readings of those who are admitted. -/
theorem Stores.length_admitted_le (hread : BucketText.Faithful ℚ) (hs : s.InForce)
    (ts : List Trial) (h : c.Stores s user b) (hhealthy : c.store.fault = none)
    (hhosts : ∀ t ∈ ts, (c.profile? t.host).isSome) (hlasting : ∀ t ∈ ts, t.wait < s.idleTtl) :
    ((c.admitted s user ts).length : ℚ) ≤
      b.noted s +
        s.rate * secondsSince b.lastRefill ((c.admitted s user ts).map Trial.time) := by
  -- On the attempts; whatever one of them stores is the bucket of those that follow.
  induction ts generalizing c b with
  | nil => exact add_nonneg (b.noted_nonneg s) (mul_nonneg hs.rate.le (secondsSince_nonneg _ _))
  | cons t rest ih =>
    rw [List.forall_mem_cons] at hhosts hlasting
    have hrest := fun b' (hstores : (c.trial s user t).2.Stores s user b') =>
      ih hstores (fault_trial.trans hhealthy) (by rw [profile?_trial]; exact hhosts.2) hlasting.2
    have hcases := trial_cases user hs hhealthy hhosts.1
    rw [h.found_eq hread hhosts.1 hlasting.1] at hcases
    rcases hcases with ⟨hone, hanswer, hstores⟩ | ⟨_, hanswer, hstores⟩
    · have hlater := hrest _ hstores
      have hlevel := b.level_le_noted s t.time
      rw [Bucket.noted_taken s t.time hone (b.level_le s t.time)] at hlater
      rw [admitted_of_allowed hanswer, List.map_cons, secondsSince, List.length_cons, mul_add,
        mul_comm s.rate (secondsBetween _ _)]
      push_cast
      change _ ≤ _ + s.rate * secondsSince t.time _ at hlater
      linarith
    -- A refusal takes nothing and does not touch the time of the last admission.
    · have hlater := hrest _ hstores
      rw [Bucket.noted_refused] at hlater
      rw [admitted_of_throttled hanswer]
      exact hlater

/-- Whatever is stored to begin with, no more is admitted than a full bucket holds, and what is
    credited along the readings of those who are admitted. -/
theorem length_admitted_le (user : UserId) (hread : BucketText.Faithful ℚ) (hs : s.InForce)
    (ts : List Trial) (hhealthy : c.store.fault = none)
    (hhosts : ∀ t ∈ ts, (c.profile? t.host).isSome) (hlasting : ∀ t ∈ ts, t.wait < s.idleTtl) :
    ((c.admitted s user ts).length : ℚ) ≤
      s.full + s.rate * creditedSeconds ((c.admitted s user ts).map Trial.time) := by
  -- Up to the first admission nothing counts, and that takes from a full bucket at most.
  induction ts generalizing c with
  | nil =>
    exact add_nonneg (Bucket.full_nonneg s) (mul_nonneg hs.rate.le (creditedSeconds_nonneg _))
  | cons t rest ih =>
    rw [List.forall_mem_cons] at hhosts hlasting
    have hhealthy' : (c.trial s user t).2.store.fault = none := fault_trial.trans hhealthy
    have hhosts' : ∀ u ∈ rest, ((c.trial s user t).2.profile? u.host).isSome := by
      rw [profile?_trial]
      exact hhosts.2
    rcases trial_cases user hs hhealthy hhosts.1 with
      ⟨hone, hanswer, hstores⟩ | ⟨_, hanswer, _⟩
    · have hlater := hstores.length_admitted_le hread hs rest hhealthy' hhosts' hlasting.2
      have hlevel := (c.found s user t).level_le s t.time
      rw [Bucket.noted_taken s t.time hone hlevel] at hlater
      rw [admitted_of_allowed hanswer, List.map_cons, creditedSeconds, List.length_cons]
      push_cast
      change _ ≤ _ + s.rate * secondsSince t.time _ at hlater
      linarith
    · rw [admitted_of_throttled hanswer]
      exact ih hhealthy' hhosts' hlasting.2

/-! ## By turns -/

/-- One turn of two instances whose clocks are so far apart that two tokens come in between. Both
    admit, and the one whose clock is ahead finds a full bucket again. -/
theorem seesaw_turn (hread : BucketText.Faithful ℚ) (hs : s.InForce) {early late : Trial}
    (hcapacity : 2 ≤ s.capacity) (hhealthy : c.store.fault = none)
    (hearly : (c.profile? early.host).isSome) (hlate : (c.profile? late.host).isSome)
    (hwait : early.wait < s.idleTtl) (hwait' : late.wait < s.idleTtl)
    (hle : early.time ≤ late.time) (hfits : late.time.toInt < early.time.toInt + 2 ^ 63)
    (hgain : 2 ≤ perSecond s.rate early.time.toInt late.time.toInt)
    (hfull : (c.found s user late).level s late.time = s.full) :
    (c.trial s user late).1 = .allowed ∧
      ((c.trial s user late).2.trial s user early).1 = .allowed ∧
      (((c.trial s user late).2.trial s user early).2.found s user late).level s late.time =
        s.full := by
  have htwo : (2 : ℚ) ≤ s.full := by
    rw [Bucket.full_eq]
    exact_mod_cast UInt32.le_iff_toNat_le.1 hcapacity
  have hhealthy' : (c.trial s user late).2.store.fault = none := fault_trial.trans hhealthy
  have hearly' : ((c.trial s user late).2.profile? early.host).isSome := by
    rw [profile?_trial]
    exact hearly
  have hlate' : (((c.trial s user late).2.trial s user early).2.profile? late.host).isSome := by
    rw [profile?_trial, profile?_trial]
    exact hlate
  rcases trial_cases user hs hhealthy hlate with ⟨hone, hfirst, hstores⟩ | ⟨hlow, _⟩
  · rw [hfull] at hone hstores
    have hnoted := Bucket.noted_taken s late.time hone (le_refl s.full)
    have hlevel := (Bucket.taken s s.full late.time).noted_le_level s early.time hs.rate.le
    have hcases := trial_cases user hs hhealthy' hearly'
    rw [hstores.found_eq hread hearly' hwait] at hcases
    rcases hcases with ⟨hone', hsecond, hstores'⟩ | ⟨hlow, _⟩
    · refine ⟨hfirst, hsecond, ?_⟩
      have hnoted' := Bucket.noted_taken s early.time hone' (Bucket.level_le s _ _)
      rw [hstores'.found_eq hread hlate' hwait', Bucket.level_eq]
      change min (Bucket.noted s _ + secondsBetween early.time late.time * s.rate) s.full = s.full
      rw [hnoted', secondsBetween_mul_eq s.rate hle hfits]
      exact min_eq_right (by linarith)
    · exact absurd hlow (not_lt.2 (by linarith))
  · rw [hfull] at hlow
    exact absurd hlow (not_lt.2 (by linarith))

end Cluster

/-- Two instances whose clocks are so far apart that two tokens come in between admit everybody who
    turns to them by turns, however often that is. -/
theorem Cluster.trials_seesaw [BucketText ℚ] (hread : BucketText.Faithful ℚ) {c : Cluster}
    {s : LimitSettings ℚ} (user : UserId) {early late : Trial} (henabled : s.enabled = true)
    (hcapacity : 2 ≤ s.capacity) (hrate : 0 < s.rate) (hhealthy : c.store.fault = none)
    (hearly : (c.profile? early.host).isSome) (hlate : (c.profile? late.host).isSome)
    (hwait : early.wait < s.idleTtl) (hwait' : late.wait < s.idleTtl)
    (hle : early.time ≤ late.time) (hfits : late.time.toInt < early.time.toInt + 2 ^ 63)
    (hgain : 2 ≤ perSecond s.rate early.time.toInt late.time.toInt)
    (hfull : (c.found s user late).level s late.time = s.full) (n : Nat) :
    c.trials s user (List.replicate n [late, early]).flatten = List.replicate (2 * n) .allowed := by
  have hs : s.InForce := ⟨henabled, UInt32.le_trans (by decide) hcapacity, hrate⟩
  induction n generalizing c with
  | zero => rfl
  | succ n ih =>
    rcases seesaw_turn hread hs hcapacity hhealthy hearly hlate hwait hwait' hle hfits hgain
      hfull with ⟨hfirst, hsecond, hfull'⟩
    have hprofiles : ((c.trial s user late).2.trial s user early).2.profile? = c.profile? :=
      profile?_trial.trans profile?_trial
    have hrest := ih (fault_trial.trans (fault_trial.trans hhealthy))
      (by rw [hprofiles]; exact hearly) (by rw [hprofiles]; exact hlate) hfull'
    rw [List.replicate_succ, List.flatten_cons, List.cons_append, List.cons_append,
      List.nil_append, trials, trials, hfirst, hsecond, hrest]
    rfl

/-- If buckets do not expire, no more is admitted than a full bucket holds, and what comes in from
    the reading of each admission to that of the next. Where these readings do not fall, that is no
    more than comes in from the least reading to the greatest. -/
theorem Cluster.admitted_credited [BucketText ℚ] (hread : BucketText.Faithful ℚ) {c : Cluster}
    {s : LimitSettings ℚ} (user : UserId) (ts : List Trial) (henabled : s.enabled = true)
    (hcapacity : 1 ≤ s.capacity) (hrate : 0 < s.rate) (hhealthy : c.store.fault = none)
    (hhosts : ∀ t ∈ ts, (c.profile? t.host).isSome) (hlasting : ∀ t ∈ ts, t.wait < s.idleTtl) :
    let readings := (c.admitted s user ts).map Trial.time
    let admissions : ℚ := (c.trials s user ts).countP Admission.isAllowed
    admissions ≤ s.capacity.toNat + s.rate * creditedSeconds readings ∧
      (readings.Pairwise (· ≤ ·) → ∀ least greatest : Int64, least ≤ greatest →
        (∀ t ∈ ts, least ≤ t.time ∧ t.time ≤ greatest) →
        admissions ≤
          s.capacity.toNat + s.rate * ((greatest.toInt - least.toInt : Int) : ℚ) / 1000) := by
  intro readings admissions
  have hcount : admissions = (c.admitted s user ts).length := by
    rw [length_admitted]
  have hbound := length_admitted_le user hread ⟨henabled, hcapacity, hrate⟩ ts hhealthy
    hhosts hlasting
  rw [hcount]
  refine ⟨hbound, fun hsorted least greatest hspan hbounds => ?_⟩
  have hreadings : ∀ reading ∈ readings, least ≤ reading ∧ reading ≤ greatest := by
    intro reading hreading
    rcases List.mem_map.1 hreading with ⟨t, ht, rfl⟩
    exact hbounds t (mem_of_mem_admitted ht)
  exact le_trans hbound (add_le_add_right
    (creditedSeconds_mul_le hrate.le hspan hsorted hreadings) _)

/-- A user turns to two instances by turns. The clock of one of them is two seconds behind. -/
def byTurns : List Trial :=
  [⟨0, 3000, 0⟩, ⟨1, 1000, 0⟩, ⟨0, 3000, 0⟩, ⟨1, 1000, 0⟩, ⟨0, 3000, 0⟩]

/-- With two tokens to begin with and one more for each second, all five attempts are admitted. That
    is more than two tokens and what comes in within two seconds, and no more than two tokens and
    the four seconds that are credited. -/
theorem admitted_credited_byTurns :
    (twoInstances.trials (.perMinute 2 60) ⟨"u"⟩ byTurns).countP Admission.isAllowed = 5 ∧
      ((5 : Nat) : ℚ) ≤ 2 + 1 * 4 := by
  have hrate : (LimitSettings.perMinute 2 60 : LimitSettings ℚ).rate = 1 :=
    LimitSettings.rate_perMinute_sixty 2
  have hall : (twoInstances.trials (.perMinute 2 60) ⟨"u"⟩ byTurns).countP
      Admission.isAllowed = 5 := by decide +kernel
  have hreadings : (twoInstances.admitted (.perMinute 2 60) ⟨"u"⟩ byTurns).map Trial.time =
      [3000, 1000, 3000, 1000, 3000] := by decide +kernel
  have hcredited : creditedSeconds [3000, 1000, 3000, 1000, 3000] = 4 := by decide +kernel
  have hbound := (Cluster.admitted_credited faithful_exact (c := twoInstances)
    (s := .perMinute 2 60) ⟨"u"⟩ byTurns rfl (by decide) (by rw [hrate]; norm_num) rfl (by decide)
    (by decide)).1
  rw [hall, hreadings, hcredited, hrate] at hbound
  exact ⟨hall, hbound⟩

end ChatCluster
