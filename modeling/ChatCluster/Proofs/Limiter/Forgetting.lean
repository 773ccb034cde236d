import ChatCluster.Proofs.Config.Intervals
import ChatCluster.Proofs.Limiter.Refusals

/-!
# Forgotten Buckets

A stored bucket that has been idle for too long is forgotten, and whoever comes next finds a full
one in its place. Nobody notices if the forgotten one would have been full by then. So everything
depends on whether buckets are kept for as long as an empty one takes to fill.

They are kept for as long as the settings say, and the settings say three numbers that nobody
compares: the size of a bucket, what comes in in a minute, and the idle time. Of these only zeros
are repaired. If the idle time is long enough, no run of attempts ever shows that buckets are
forgotten. If it is too short, there is a run that does: a user who uses up a bucket at once, and
tries as often again when it has been forgotten, is admitted every time.

As with refused attempts, the store's time and the clocks go at the same pace, and all readings lie
less than 2⁶³ milliseconds apart.

## Main definitions

* `Cluster.Outset`: Attempts that begin without a bucket.
* `LimitSettings.FullWhenForgotten`: What is forgotten has filled up.
* `LimitSettings.ForgetsUnnoticed`: Answers are those of a run in which nothing is forgotten.
* `LimitSettings.twoRounds`: The attempts that show what is forgotten too early.

## Theorems

* `LimitSettings.FillsInTime.fullWhenForgotten`,
  `LimitSettings.FullWhenForgotten.forgetsUnnoticed`: Idle times that are long enough.
* `LimitSettings.answers_twoRounds`, `LimitSettings.ForgetsUnnoticed.fillsInTime`: Idle times that
  are too short.
* `Settings.forgets_unnoticed_iff`: Which settings they are.
-/

namespace ChatCluster

variable {s : LimitSettings ℚ} {user : UserId}

namespace Cluster

variable [BucketText ℚ] {c : Cluster} {since : Int64} {a : Attempt} {attempts first : List Attempt}

/-! ## Attempts that begin without a bucket -/

omit [BucketText ℚ] in
/-- Attempts of a user, one after another from `since` on, at a store that answers and has no bucket
    of that user. The difference of two readings is a number of 64 bits. -/
structure Outset (c : Cluster) (user : UserId) (since : Int64) (attempts : List Attempt) :
    Prop where
  healthy : c.store.fault = none
  fresh : c.seen (Key.rateLimit user.text) = none
  hosts : ∀ a ∈ attempts, (c.profile? a.host).isSome
  since_le : ∀ a ∈ attempts, since ≤ a.time
  fits : ∀ a ∈ attempts, a.time.toInt < since.toInt + 2 ^ 63
  sorted : attempts.Pairwise fun a b => a.time ≤ b.time

namespace Outset

omit [BucketText ℚ] in
theorem sublist (h : c.Outset user since attempts) (hsub : first.Sublist attempts) :
    c.Outset user since first where
  healthy := h.healthy
  fresh := h.fresh
  hosts a ha := h.hosts a (hsub.subset ha)
  since_le a ha := h.since_le a (hsub.subset ha)
  fits a ha := h.fits a (hsub.subset ha)
  sorted := h.sorted.sublist hsub

omit [BucketText ℚ] in
theorem ahead (h : c.Outset user since attempts) (ha : a ∈ attempts) : c.Ahead since since a :=
  ⟨h.hosts a ha, h.since_le a ha, h.fits a ha⟩

omit [BucketText ℚ] in
theorem epoch_le (h : c.Outset user since attempts) (ha : a ∈ attempts) :
    since.toInt - c.now ≤ a.time.toInt := by
  have hsince := Int64.le_iff_toInt_le.1 (h.since_le a ha)
  omega

variable (s) (epoch : Int) (past : List Attempt)

/-- The instances are still there after some attempts. -/
theorem host_after (h : c.Outset user since attempts) (ha : a ∈ attempts) :
    ((c.afterAttempts s user epoch past).profile? a.host).isSome := by
  rw [(afterAttempts_spec c s user epoch past).1]
  exact h.hosts a ha

theorem healthy_after (h : c.Outset user since attempts) :
    (c.afterAttempts s user epoch past).store.fault = none :=
  (afterAttempts_spec c s user epoch past).2.trans h.healthy

/-- To begin with, an attempt finds a full bucket. -/
theorem bucketFor (h : c.Outset user since attempts) (ha : a ∈ attempts) :
    (c.attending (since.toInt - c.now) a).bucketFor a.host s user = s.fullBucket a.time := by
  have hsince := Int64.le_iff_toInt_le.1 (h.since_le a ha)
  have hfresh : c.store.slots.visible c.now (Key.rateLimit user.text) = none := h.fresh
  rw [bucketFor_attending (h.hosts a ha), Slots.visible_later _ c.now (by omega), hfresh]
  rfl

end Outset

variable {epoch : Int}

/-- A bucket that counts gives way to another one as attempts go on. -/
theorem Bears.run (hread : BucketText.Faithful ℚ) (hs : s.InForce) (hfills : s.FillsInTime)
    {time upto : Int64} {b : Bucket ℚ} (attempts : List Attempt)
    (h : c.Bears s user epoch since time b) (hahead : ∀ a ∈ attempts, c.Ahead since time a)
    (hsorted : attempts.Pairwise fun a b => a.time ≤ b.time) (hupto : time ≤ upto)
    (hbefore : ∀ a ∈ attempts, a.time ≤ upto) :
    ∃ b', (c.afterAttempts s user epoch attempts).Bears s user epoch since upto b' := by
  induction attempts generalizing c time b with
  | nil => exact ⟨b, h.later hupto⟩
  | cons a rest ih =>
    rw [List.forall_mem_cons] at hahead hbefore
    rw [List.pairwise_cons] at hsorted
    refine ih (h.answer hread hs hfills hahead.1) (fun next hnext => ?_) hsorted.2 hbefore.1
      hbefore.2
    exact ⟨by rw [profile?_answer]; exact (hahead.2 next hnext).host, hsorted.1 next hnext,
      (hahead.2 next hnext).fits⟩

end Cluster

/-- A bucket that has filled up is drawn from like one that was full from the beginning. -/
theorem Bucket.draw_of_full (b : Bucket ℚ) (now : Int64) (hone : 1 ≤ s.full)
    (hfull : b.level s now = s.full) : b.draw s now = (s.fullBucket now).draw s now := by
  have hother := level_fullBucket s now
  rcases b.draw_cases s now with ⟨_, hdraw⟩ | ⟨hlow, _⟩
  · rcases (s.fullBucket now).draw_cases s now with ⟨_, hdraw'⟩ | ⟨hlow', _⟩
    · rw [hdraw, hdraw', hfull, hother]
    · exact absurd (hother ▸ hone) (not_le.2 hlow')
  · exact absurd (hfull ▸ hone) (not_le.2 hlow)

/-! ## Idle times that are long enough -/

section Forgetting

variable [BucketText ℚ]

open Cluster

/-- When a bucket is found to have been idle for too long, it has filled up, whatever attempts came
    before. -/
def LimitSettings.FullWhenForgotten (s : LimitSettings ℚ) (user : UserId) : Prop :=
  ∀ (c : Cluster) (since : Int64) (attempts : List Attempt) (last next : Attempt),
    c.Outset user since (attempts ++ [last, next]) →
    let epoch := since.toInt - c.now
    let before := c.afterAttempts s user epoch attempts
    ((before.answer s user epoch last).2.attending epoch next).seen (Key.rateLimit user.text) =
        none →
      (before.bucketLeft s user epoch last).level s next.time = s.full

/-- All that is told of the answers is what it would be if buckets were kept for longer than the
    attempts go on. -/
def LimitSettings.ForgetsUnnoticed {α : Type} (s : LimitSettings ℚ) (user : UserId)
    (told : Admission → α) : Prop :=
  ∀ (c : Cluster) (since : Int64) (attempts : List Attempt) (forever : Nat),
    c.Outset user since attempts →
    (∀ a ∈ attempts, a.time.toInt < since.toInt + forever) →
    let epoch := since.toInt - c.now
    (c.answers s user epoch attempts).map told =
      (c.answers { s with idleTtl := forever } user epoch attempts).map told

/-- Whoever notices nothing in the answers notices nothing in what is told of them. -/
theorem LimitSettings.ForgetsUnnoticed.told {α : Type} (h : s.ForgetsUnnoticed user id)
    (told : Admission → α) : s.ForgetsUnnoticed user told := by
  intro c since attempts forever hset hforever epoch
  have hsame : (c.answers s user epoch attempts).map id =
      (c.answers { s with idleTtl := forever } user epoch attempts).map id :=
    h c since attempts forever hset hforever
  rw [List.map_id, List.map_id] at hsame
  exact congrArg (List.map told) hsame

/-- Buckets that are kept for as long as an empty one takes to fill are full when they are
    forgotten. -/
theorem LimitSettings.FillsInTime.fullWhenForgotten (hread : BucketText.Faithful ℚ)
    (hs : s.InForce) (hfills : s.FillsInTime) : s.FullWhenForgotten user := by
  intro c since attempts last next h epoch before hgone
  have hlast : last ∈ attempts ++ [last, next] := by simp
  have hnext : next ∈ attempts ++ [last, next] := by simp
  have hsorted := List.pairwise_append.1 h.sorted
  have hle : last.time ≤ next.time := (List.pairwise_cons.1 hsorted.2.1).1 next (by simp)
  obtain ⟨b, hbears⟩ := (bears_begin user since hs h.healthy h.fresh).run hread hs hfills attempts
    (fun a ha => h.ahead (List.mem_append_left _ ha)) hsorted.1 (h.since_le last hlast)
    fun a ha => hsorted.2.2 a ha last (by simp)
  have hleft := hbears.answer hread hs hfills
    ⟨h.host_after s epoch attempts hlast, Int64.le_refl _, h.fits last hlast⟩
  have hahead : (before.answer s user epoch last).2.Ahead since last.time next :=
    ⟨by rw [profile?_answer]; exact h.host_after s epoch attempts hnext, hle, h.fits next hnext⟩
  -- What is found is a full bucket, because nothing is seen.
  have hfound : ((before.answer s user epoch last).2.attending epoch next).bucketFor next.host s
      user = s.fullBucket next.time := by
    rw [Cluster.bucketFor, hgone, clockOf_attending hahead.host]
    rfl
  rw [← hleft.level_bucketFor hahead, hfound, Bucket.level_fullBucket]

/-- If buckets are full when they are forgotten, nobody notices that they were. -/
theorem LimitSettings.FullWhenForgotten.forgetsUnnoticed (hread : BucketText.Faithful ℚ)
    (hs : s.InForce) (h : s.FullWhenForgotten user) : s.ForgetsUnnoticed user id := by
  intro c since attempts forever hset hforever epoch
  let kept : LimitSettings ℚ := { s with idleTtl := forever }
  have hkept : kept.InForce := ⟨hs.enabled, hs.capacity, hs.rate⟩
  -- Both runs leave the same bucket behind, though it may have been forgotten in one of them.
  suffices hsame : c.answers s user epoch attempts = c.answers kept user epoch attempts ∧
      ∀ before last, attempts = before ++ [last] →
        (c.afterAttempts s user epoch before).bucketLeft s user epoch last =
          (c.afterAttempts kept user epoch before).bucketLeft kept user epoch last from
    congrArg (List.map id) hsame.1
  induction attempts using List.reverseRecOn with
  | nil => exact ⟨rfl, fun before last heq => by simp at heq⟩
  | append_singleton attempts a ih =>
    have hsub : attempts.Sublist (attempts ++ [a]) := List.sublist_append_left _ _
    have hmem : a ∈ attempts ++ [a] := by simp
    rcases ih (hset.sublist hsub) (fun b hb => hforever b (hsub.subset hb)) with
      ⟨hanswers, hleft⟩
    have hdraw : (((c.afterAttempts s user epoch attempts).attending epoch a).bucketFor a.host s
          user).draw s a.time =
        (((c.afterAttempts kept user epoch attempts).attending epoch a).bucketFor a.host kept
          user).draw kept a.time := by
      rcases List.eq_nil_or_concat' attempts with rfl | ⟨before, last, rfl⟩
      · change ((c.attending epoch a).bucketFor a.host s user).draw s a.time =
          ((c.attending epoch a).bucketFor a.host kept user).draw kept a.time
        rw [hset.bucketFor s hmem, hset.bucketFor kept hmem]
        rfl
      · have hlast : last ∈ before ++ [last] ++ [a] := by simp
        have hle : last.time ≤ a.time :=
          (List.pairwise_append.1 hset.sorted).2.2 last (by simp) a (by simp)
        have hepoch := hset.epoch_le hlast
        have hinTime : a.time.toInt < last.time.toInt + kept.idleTtl := by
          have hsince := Int64.le_iff_toInt_le.1 (hset.since_le last hlast)
          have hend := hforever a hmem
          change a.time.toInt < last.time.toInt + forever
          omega
        rw [afterAttempts_concat, afterAttempts_concat,
          bucketFor_next hread hs (hset.healthy_after s epoch before)
            (hset.host_after s epoch before hlast) (hset.host_after s epoch before hmem) hepoch hle,
          bucketFor_next hread hkept (hset.healthy_after kept epoch before)
            (hset.host_after kept epoch before hlast) (hset.host_after kept epoch before hmem)
            hepoch hle, ← hleft before last rfl, if_pos hinTime]
        split
        · rfl
        -- It has been forgotten in one of the runs.
        · next hgone =>
          refine (Bucket.draw_of_full _ a.time hs.one_le_full (h c since before last a ?_ ?_)).symm
          · simpa using hset
          · rw [seen_next hs (hset.healthy_after s epoch before)
              (hset.host_after s epoch before hlast) hepoch hle, if_neg hgone]
    refine ⟨?_, ?_⟩
    · rw [answers_append, answers_append, hanswers]
      congr 1
      rw [answers, answers, answers, answers,
        (answer_spec hs (hset.healthy_after s epoch attempts) (hset.host_after s _ _ hmem)).1,
        (answer_spec hkept (hset.healthy_after kept epoch attempts)
          (hset.host_after kept _ _ hmem)).1, hdraw]
    · intro before last heq
      obtain ⟨rfl, hlast⟩ := List.append_inj' heq rfl
      obtain rfl : a = last := by simpa using hlast
      exact congrArg Prod.snd hdraw

/-! ## Idle times that are too short -/

/-- At one reading, as many attempts are admitted as there are tokens, whether the bucket is kept in
    between or not. -/
theorem Cluster.answers_replicate {c : Cluster} {epoch : Int} {a : Attempt}
    (hread : BucketText.Faithful ℚ) (hs : s.InForce) (h : c.store.fault = none)
    (ha : (c.profile? a.host).isSome) (hepoch : epoch ≤ a.time.toInt) (n : Nat)
    (hlevel : (n : ℚ) ≤ c.levelFound s user epoch a) :
    c.answers s user epoch (List.replicate n a) = List.replicate n .allowed := by
  induction n generalizing c with
  | zero => rfl
  | succ n ih =>
    rw [Nat.cast_succ] at hlevel
    have hcount : (0 : ℚ) ≤ n := Nat.cast_nonneg n
    have hallowed : (c.answer s user epoch a).1 = .allowed := by
      rw [(answer_spec hs h ha).1]
      rcases ((c.attending epoch a).bucketFor a.host s user).draw_cases s a.time with
        ⟨_, hdraw⟩ | ⟨hlow, _⟩
      · rw [hdraw]
      · exact absurd hlow (not_lt.2 (le_trans (by linarith) hlevel))
    have hleft : (c.bucketLeft s user epoch a).level s a.time = c.levelFound s user epoch a -
        if (c.answer s user epoch a).1.isAllowed then 1 else 0 := level_bucketLeft hs h ha
    rw [hallowed, Admission.isAllowed, if_pos rfl] at hleft
    have hfound : (n : ℚ) ≤ (c.answer s user epoch a).2.levelFound s user epoch a := by
      rw [levelFound, bucketFor_next hread hs h ha ha hepoch (Int64.le_refl _)]
      split
      · linarith
      · have hfull := Bucket.level_le s ((c.attending epoch a).bucketFor a.host s user) a.time
        rw [levelFound] at hlevel
        rw [Bucket.level_fullBucket]
        linarith
    rw [List.replicate_succ, List.replicate_succ, answers, hallowed,
      ih (fault_answer.trans h) (by rwa [profile?_answer]) hfound]

namespace LimitSettings

omit [BucketText ℚ]

/-- A user uses up a bucket at once, and tries as often again when it has been forgotten. -/
def twoRounds (s : LimitSettings ℚ) : List Attempt :=
  List.replicate s.capacity.toNat ⟨0, 0⟩ ++
    List.replicate s.capacity.toNat ⟨0, Int64.ofNat s.idleTtl⟩

theorem zero_le_idleTtl (hidle : s.idleTtl < 2 ^ 63) : (0 : Int64) ≤ Int64.ofNat s.idleTtl := by
  rw [Int64.le_iff_toInt_le, Int64.toInt_ofNat_of_lt hidle]
  exact Int.natCast_nonneg _

theorem mem_twoRounds (hidle : s.idleTtl < 2 ^ 63) {a : Attempt} (h : a ∈ s.twoRounds) :
    a.host = 0 ∧ 0 ≤ a.time ∧ a.time ≤ Int64.ofNat s.idleTtl := by
  have hle := zero_le_idleTtl hidle
  rw [twoRounds, List.mem_append] at h
  rcases h with h | h <;> rw [List.eq_of_mem_replicate h]
  · exact ⟨rfl, Int64.le_refl _, hle⟩
  · exact ⟨rfl, hle, Int64.le_refl _⟩

theorem outset_twoRounds (user : UserId) (hidle : s.idleTtl < 2 ^ 63) :
    twoInstances.Outset user 0 s.twoRounds where
  healthy := rfl
  fresh := rfl
  hosts a ha := by
    rw [(s.mem_twoRounds hidle ha).1]
    decide
  since_le a ha := (s.mem_twoRounds hidle ha).2.1
  fits a ha := by
    have hzero : (0 : Int64).toInt = 0 := rfl
    have hlater := Int64.le_iff_toInt_le.1 (s.mem_twoRounds hidle ha).2.2
    rw [Int64.toInt_ofNat_of_lt hidle] at hlater
    omega
  sorted := by
    rw [twoRounds, List.pairwise_append]
    refine ⟨List.pairwise_replicate.2 (Or.inr (Int64.le_refl _)),
      List.pairwise_replicate.2 (Or.inr (Int64.le_refl _)), fun a ha b hb => ?_⟩
    rw [List.eq_of_mem_replicate ha, List.eq_of_mem_replicate hb]
    exact zero_le_idleTtl hidle

variable [BucketText ℚ]

/-- In both rounds everybody is admitted. -/
theorem answers_twoRounds (user : UserId) (hread : BucketText.Faithful ℚ) (hs : s.InForce)
    (hidle : s.idleTtl < 2 ^ 63) :
    twoInstances.answers s user 0 s.twoRounds =
      List.replicate (s.capacity.toNat + s.capacity.toNat) .allowed := by
  have hset := s.outset_twoRounds user hidle
  obtain ⟨n, hn⟩ : ∃ n, s.capacity.toNat = n + 1 :=
    Nat.exists_eq_add_of_le' (UInt32.le_iff_toNat_le.1 hs.capacity)
  have hfull : s.full = (n + 1 : Nat) := by rw [Bucket.full_eq, hn]
  rw [twoRounds, hn] at hset ⊢
  have hfirst : (⟨0, 0⟩ : Attempt) ∈ List.replicate (n + 1) (⟨0, 0⟩ : Attempt) ++
      List.replicate (n + 1) ⟨0, Int64.ofNat s.idleTtl⟩ := by simp
  have hsecond : (⟨0, Int64.ofNat s.idleTtl⟩ : Attempt) ∈
      List.replicate (n + 1) (⟨0, 0⟩ : Attempt) ++
        List.replicate (n + 1) ⟨0, Int64.ofNat s.idleTtl⟩ := by simp
  have hepoch : (0 : Int) ≤ (Int64.ofNat s.idleTtl).toInt := hset.epoch_le hsecond
  have hbegin : ((n + 1 : Nat) : ℚ) ≤ twoInstances.levelFound s user 0 ⟨0, 0⟩ := by
    have hfound := hset.bucketFor s hfirst
    change (twoInstances.attending 0 ⟨0, 0⟩).bucketFor 0 s user = _ at hfound
    rw [levelFound, hfound, Bucket.level_fullBucket, hfull]
  -- The bucket of the first round is gone when the second one begins.
  have hagain : ((n + 1 : Nat) : ℚ) ≤
      (twoInstances.afterAttempts s user 0 (List.replicate (n + 1) ⟨0, 0⟩)).levelFound s user 0
        ⟨0, Int64.ofNat s.idleTtl⟩ := by
    let last := twoInstances.afterAttempts s user 0 (List.replicate n ⟨0, 0⟩)
    have hnext : ((last.answer s user 0 ⟨0, 0⟩).2.attending 0
        ⟨0, Int64.ofNat s.idleTtl⟩).bucketFor 0 s user =
          if (Int64.ofNat s.idleTtl).toInt < (0 : Int64).toInt + s.idleTtl then
            last.bucketLeft s user 0 ⟨0, 0⟩
          else s.fullBucket (Int64.ofNat s.idleTtl) :=
      bucketFor_next hread hs (hset.healthy_after s 0 _) (hset.host_after s 0 _ hfirst)
        (hset.host_after s 0 _ hsecond) (Int.le_refl 0) (zero_le_idleTtl hidle)
    have hgone : ¬(Int64.ofNat s.idleTtl).toInt < (0 : Int64).toInt + s.idleTtl := by
      rw [Int64.toInt_ofNat_of_lt hidle, show (0 : Int64).toInt = 0 from rfl]
      omega
    rw [if_neg hgone] at hnext
    rw [levelFound, List.replicate_succ', afterAttempts_concat, hnext, Bucket.level_fullBucket,
      hfull]
  rw [answers_append,
    answers_replicate hread hs hset.healthy (hset.hosts _ hfirst) (Int.le_refl 0) _ hbegin,
    answers_replicate hread hs (hset.healthy_after s 0 _) (hset.host_after s 0 _ hsecond) hepoch _
      hagain,
    List.replicate_append_replicate]

/-- If nobody notices that buckets are forgotten, they are kept for as long as an empty one takes to
    fill. Otherwise more are admitted in two rounds than a bucket admits that is kept. -/
theorem ForgetsUnnoticed.fillsInTime (hread : BucketText.Faithful ℚ) (hs : s.InForce)
    (hidle : s.idleTtl < 2 ^ 63) (h : s.ForgetsUnnoticed user Admission.isAllowed) :
    s.FillsInTime := by
  by_contra hshort
  rw [FillsInTime, not_le] at hshort
  have hset := s.outset_twoRounds user hidle
  have hzero : (0 : Int64).toInt = 0 := rfl
  have hlast := zero_le_idleTtl hidle
  -- A bucket that is kept for longer than both rounds, and long enough to fill.
  let forever := s.idleTtl + 1 + ⌈1000 * s.full / s.rate⌉₊
  let kept : LimitSettings ℚ := { s with idleTtl := forever }
  have hkept : kept.InForce := ⟨hs.enabled, hs.capacity, hs.rate⟩
  have hfills : kept.FillsInTime := by
    have hceil : 1000 * s.full / s.rate ≤ (⌈1000 * s.full / s.rate⌉₊ : ℚ) := Nat.le_ceil _
    rw [div_le_iff₀ hs.rate] at hceil
    have hlong : ((⌈1000 * s.full / s.rate⌉₊ : Nat) : ℚ) ≤ (forever : ℚ) :=
      Nat.cast_le.2 (Nat.le_add_left _ _)
    have hmul := mul_le_mul_of_nonneg_right hlong hs.rate.le
    change s.full ≤ perSecond s.rate 0 forever
    rw [perSecond, sub_zero, Int.cast_natCast, le_div_iff₀ (by norm_num)]
    linarith
  have hbefore : ∀ a ∈ s.twoRounds, a.time.toInt < (0 : Int64).toInt + forever := by
    intro a ha
    have hupto := Int64.le_iff_toInt_le.1 (s.mem_twoRounds hidle ha).2.2
    rw [Int64.toInt_ofNat_of_lt hidle] at hupto
    omega
  have hsame : (twoInstances.answers s user 0 s.twoRounds).map Admission.isAllowed =
      (twoInstances.answers kept user 0 s.twoRounds).map Admission.isAllowed :=
    h twoInstances 0 s.twoRounds forever hset hbefore
  have hcounts := congrArg (List.countP id) hsame
  rw [List.countP_map, List.countP_map, Function.id_comp, s.answers_twoRounds user hread hs hidle,
    List.countP_replicate, Admission.isAllowed, if_pos rfl] at hcounts
  have hbound : ((twoInstances.answers kept user 0 s.twoRounds).countP Admission.isAllowed : ℚ) ≤
      s.full + perSecond s.rate (0 : Int64).toInt (Int64.ofNat s.idleTtl).toInt :=
    countP_answers_le hread hkept hfills s.twoRounds hset.healthy hset.hosts
      (fun a ha => hset.epoch_le ha) hset.sorted (fun a ha => (s.mem_twoRounds hidle ha).2.2)
      (fun a ha => le_add_of_le_of_nonneg (Bucket.level_le kept _ _) (perSecond_nonneg hs.rate.le
        (Int64.le_iff_toInt_le.1 (s.mem_twoRounds hidle (List.mem_of_mem_head? ha)).2.1)))
      (add_nonneg (Bucket.full_nonneg s) (perSecond_nonneg hs.rate.le
        (Int64.le_iff_toInt_le.1 hlast)))
  rw [← hcounts, Int64.toInt_ofNat_of_lt hidle, hzero, Nat.cast_add, ← Bucket.full_eq] at hbound
  change s.full + s.full ≤ s.full + perSecond s.rate 0 s.idleTtl at hbound
  linarith

end LimitSettings

end Forgetting

/-! ## Settings -/

variable {content : FileContent} {env : Environment} {spare : InstanceId} {settings : Settings}
  {warnings : List ConfigWarning}

theorem Settings.rate_limits (settings : Settings) :
    (settings.limits : LimitSettings ℚ).rate = settings.refillPerMinute.toNat / 60 :=
  congrArg ((settings.refillPerMinute.toNat : ℚ) / ·) (Nat.cast_ofNat (n := 60))

/-- Limits that are loaded and apply are limits under which something can be had. -/
theorem Settings.inForce_of_load (h : load content env spare = .ok (settings, warnings))
    (hlimited : settings.limited = true) : (settings.limits : LimitSettings ℚ).InForce := by
  rcases not_zeroLimits_of_load h hlimited with ⟨hcapacity, hrefill⟩
  rw [Ne, ← UInt32.toNat_inj] at hcapacity hrefill
  refine ⟨hlimited, UInt32.le_iff_toNat_le.2 (Nat.one_le_iff_ne_zero.2 hcapacity), ?_⟩
  rw [rate_limits]
  exact div_pos (Nat.cast_pos.2 (Nat.pos_of_ne_zero hrefill)) (by norm_num)

theorem Settings.fillsInTime_limits (settings : Settings) :
    (settings.limits : LimitSettings ℚ).FillsInTime ↔
      60 * settings.limitCapacity.toNat ≤ settings.idleTtl * settings.refillPerMinute.toNat := by
  have hidle : ((1000 * settings.idleTtl : Nat) : ℚ) / 1000 = settings.idleTtl := by
    push_cast
    ring
  rw [LimitSettings.fillsInTime_iff, rate_limits]
  change (settings.limitCapacity.toNat : ℚ) ≤ ((1000 * settings.idleTtl : Nat) : ℚ) / 1000 * _ ↔ _
  rw [hidle, ← mul_div_assoc, le_div_iff₀ (by norm_num), mul_comm]
  exact_mod_cast Iff.rfl

/-- Let any settings be loaded under which senders are limited. What is forgotten is full, and
    nobody notices from who is admitted, or from any other answer, that it was forgotten, exactly
    if the idle time is long enough for a whole bucket to come in. -/
theorem buckets_forgotten_unnoticed_iff [BucketText ℚ] (hread : BucketText.Faithful ℚ)
    (h : Settings.load content env spare = .ok (settings, warnings))
    (hlimited : settings.limited = true) (user : UserId) :
    let limits : LimitSettings ℚ := settings.limits
    let longEnough :=
      60 * settings.limitCapacity.toNat ≤ settings.idleTtl * settings.refillPerMinute.toNat
    (limits.FullWhenForgotten user ↔ longEnough) ∧
      (limits.ForgetsUnnoticed user Admission.isAllowed ↔ longEnough) ∧
      (limits.ForgetsUnnoticed user id ↔ longEnough) := by
  intro limits longEnough
  have hs : limits.InForce := Settings.inForce_of_load h hlimited
  have hfills : limits.FillsInTime ↔ longEnough := settings.fillsInTime_limits
  have hfull : longEnough → limits.FullWhenForgotten user := fun hlong =>
    (hfills.2 hlong).fullWhenForgotten hread hs
  have hunnoticed : limits.FullWhenForgotten user → limits.ForgetsUnnoticed user id :=
    fun hfull => hfull.forgetsUnnoticed hread hs
  have hlong : limits.ForgetsUnnoticed user Admission.isAllowed → longEnough := by
    intro hforgets
    by_contra hshort
    -- An idle time that is too short is one that clocks can show.
    have hidle : limits.idleTtl < 2 ^ 63 := by
      have hrefill := Nat.pos_of_ne_zero
        fun hzero => (Settings.not_zeroLimits_of_load h hlimited).2 (UInt32.toNat_inj.1 hzero)
      have hle := Nat.le_mul_of_pos_right settings.idleTtl hrefill
      have hcapacity := settings.limitCapacity.toNat_lt
      change 1000 * settings.idleTtl < 2 ^ 63
      omega
    exact hshort (hfills.1 (hforgets.fillsInTime hread hs hidle))
  exact ⟨⟨fun h => hlong ((hunnoticed h).told _), hfull⟩,
    ⟨hlong, fun h => (hunnoticed (hfull h)).told _⟩,
    ⟨fun h => hlong (h.told _), fun h => hunnoticed (hfull h)⟩⟩

/-- Two tokens, one more for each second, and buckets are kept for a second. -/
def forgetfulFile : String :=
  "[rate_limit]\ncapacity = 2\nrefill_per_minute = 60\nidle_ttl_secs = 1\n"

/-- The settings of an instance that is told this, with some idle time. -/
def forgetfulSettings (idleTtl : Nat) : Settings :=
  { Settings.gathered .empty (fun _ => none) ⟨"spare"⟩ with
    limitCapacity := 2, refillPerMinute := 60, idleTtl }

/-- Someone who has used up both tokens is admitted twice again after a second. If the environment
    says that buckets are kept for two seconds, nobody notices that they are forgotten. -/
theorem buckets_forgotten_unnoticed_iff_forgetful :
    Settings.load (.bytes (Text.utf8 forgetfulFile)) (fun _ => none) ⟨"spare"⟩ =
        .ok (forgetfulSettings 1, []) ∧
      ¬((forgetfulSettings 1).limits : LimitSettings ℚ).ForgetsUnnoticed ⟨"u"⟩
        Admission.isAllowed ∧
      ((forgetfulSettings 2).limits : LimitSettings ℚ).ForgetsUnnoticed ⟨"u"⟩
        Admission.isAllowed := by
  have hshort : Settings.load (.bytes (Text.utf8 forgetfulFile)) (fun _ => none) ⟨"spare"⟩ =
      .ok (forgetfulSettings 1, []) := by
    decide +kernel
  have hlong : Settings.load (.bytes (Text.utf8 forgetfulFile))
      (fun name => if name = "CHATMESH_RATE_LIMIT_IDLE_TTL_SECS" then some "2" else none)
      ⟨"spare"⟩ = .ok (forgetfulSettings 2, []) := by
    decide +kernel
  refine ⟨hshort, ?_, ?_⟩
  · rw [(buckets_forgotten_unnoticed_iff faithful_exact hshort rfl ⟨"u"⟩).2.1]
    decide
  · rw [(buckets_forgotten_unnoticed_iff faithful_exact hlong rfl ⟨"u"⟩).2.1]
    decide

end ChatCluster
