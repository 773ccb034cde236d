import ChatCluster.TokenBucket
import Mathlib.Data.Rat.Floor
import Mathlib.Tactic.Linarith

/-!
# Levels in Exact Numbers

The arithmetic of buckets over the rational numbers, where nothing is rounded. Here the level of a
bucket has the laws that one expects of it. It lies between zero and the capacity, it rises no
faster than the rate allows, and an attempt takes one token off it or leaves it as it is.

Times are numbers of 64 bits, and a difference of two of them may not fit. One that is too large
comes out negative and counts as none, so a bucket may gain less than it should in that case but
never more (`toNat_sub_le`). Where the difference fits, a bucket gains what it should
(`toNat_sub_eq_max`).

## Main definitions

* `perSecond`: How many tokens come in between two readings of a clock, at most.
* `Bucket.noted`: What a bucket held at its last admission.
* `Bucket.hint`: The seconds that a refused attempt is told to wait.

## Theorems

* `Bucket.level_nonneg`, `Bucket.level_le`: The bounds of a level.
* `Bucket.level_later`: A level rises no faster than the rate allows.
* `Bucket.level_eq_of_later`: Where times can be told apart it rises as fast.
* `Bucket.draw_cases`: The two ways an attempt can go.
* `Bucket.level_draw`: What an attempt takes off the level.
-/

namespace ChatCluster

/-- The exact numbers. -/
instance : Amount ℚ where
  ofNat n := n
  lt a b := decide (a < b)
  le a b := decide (a ≤ b)
  ceil q := ⌈q⌉.toNat

/-! ## Time -/

/-- The number of milliseconds between two readings grows by no more than has gone by. -/
theorem toNat_sub_le (last : Int64) {earlier later : Int64} (h : earlier ≤ later) :
    ((later - last).toInt.toNat : Int) ≤
      (earlier - last).toInt.toNat + (later.toInt - earlier.toInt) := by
  rw [Int64.le_iff_toInt_le] at h
  have hl := Int64.le_toInt later
  have hl' := Int64.toInt_lt later
  have he := Int64.le_toInt earlier
  have he' := Int64.toInt_lt earlier
  have hlast := Int64.le_toInt last
  have hlast' := Int64.toInt_lt last
  -- Both differences are taken modulo the same power, and lie less than twice its half apart.
  rw [Int64.toInt_sub, Int64.toInt_sub, Int.bmod_def, Int.bmod_def]
  split <;> split <;> omega

/-- The number of milliseconds between two readings is exact if it fits. -/
theorem toNat_sub_eq_max {earlier later : Int64} (hlow : -2 ^ 63 ≤ later.toInt - earlier.toInt)
    (hhigh : later.toInt - earlier.toInt < 2 ^ 63) :
    ((later - earlier).toInt.toNat : Int) = max 0 (later.toInt - earlier.toInt) := by
  rw [Int64.toInt_sub, Int.bmod_def]
  split <;> omega

theorem secondsBetween_self (time : Int64) : (secondsBetween time time : ℚ) = 0 := by
  have hzero : (time - time).toInt.toNat = 0 := by
    rw [Int64.sub_self]
    rfl
  change (((time - time).toInt.toNat : Nat) : ℚ) / ((1000 : Nat) : ℚ) = 0
  rw [hzero, Nat.cast_zero, zero_div]

theorem secondsBetween_nonneg (earlier later : Int64) :
    0 ≤ (secondsBetween earlier later : ℚ) :=
  div_nonneg (Nat.cast_nonneg _) (Nat.cast_nonneg _)

/-- The tokens that come in between two readings of a clock, at a rate for a second. -/
def perSecond (rate : ℚ) (earlier later : Int) : ℚ :=
  rate * ((later - earlier : Int) : ℚ) / 1000

theorem perSecond_self (rate : ℚ) (time : Int) : perSecond rate time time = 0 := by
  rw [perSecond, sub_self, Int.cast_zero, mul_zero, zero_div]

/-- What comes in comes in piece by piece. -/
theorem perSecond_add (rate : ℚ) (a b c : Int) :
    perSecond rate a b + perSecond rate b c = perSecond rate a c := by
  simp only [perSecond, Int.cast_sub]
  ring

theorem perSecond_le {rate : ℚ} (hrate : 0 ≤ rate) {a b c d : Int} (h : b - a ≤ d - c) :
    perSecond rate a b ≤ perSecond rate c d :=
  div_le_div_of_nonneg_right (mul_le_mul_of_nonneg_left (Int.cast_le.2 h) hrate) (by norm_num)

theorem perSecond_nonneg {rate : ℚ} (hrate : 0 ≤ rate) {a b : Int} (h : a ≤ b) :
    0 ≤ perSecond rate a b := by
  rw [← perSecond_self rate a]
  exact perSecond_le hrate (by omega)

theorem secondsBetween_mul_le {rate : ℚ} (hrate : 0 ≤ rate) (last : Int64) {earlier later : Int64}
    (h : earlier ≤ later) :
    (secondsBetween last later : ℚ) * rate ≤
      secondsBetween last earlier * rate + perSecond rate earlier.toInt later.toInt := by
  have hgrows : (((later - last).toInt.toNat : Int) : ℚ) ≤
      (((earlier - last).toInt.toNat + (later.toInt - earlier.toInt) : Int) : ℚ) :=
    Int.cast_le.2 (toNat_sub_le last h)
  rw [Int.cast_add, Int.cast_natCast, Int.cast_natCast] at hgrows
  have hseconds : (secondsBetween last later : ℚ) ≤
      secondsBetween last earlier + ((later.toInt - earlier.toInt : Int) : ℚ) / 1000 := by
    change (((later - last).toInt.toNat : Nat) : ℚ) / ((1000 : Nat) : ℚ) ≤
      (((earlier - last).toInt.toNat : Nat) : ℚ) / ((1000 : Nat) : ℚ) + _
    rw [Nat.cast_ofNat, ← add_div]
    exact div_le_div_of_nonneg_right hgrows (by norm_num)
  calc (secondsBetween last later : ℚ) * rate
      ≤ (secondsBetween last earlier + ((later.toInt - earlier.toInt : Int) : ℚ) / 1000) * rate :=
        mul_le_mul_of_nonneg_right hseconds hrate
    _ = secondsBetween last earlier * rate + perSecond rate earlier.toInt later.toInt := by
        rw [perSecond]
        ring

theorem secondsBetween_mul_eq_max (rate : ℚ) {earlier later : Int64}
    (hlow : -2 ^ 63 ≤ later.toInt - earlier.toInt) (hhigh : later.toInt - earlier.toInt < 2 ^ 63) :
    (secondsBetween earlier later : ℚ) * rate =
      rate * ((max 0 (later.toInt - earlier.toInt) : Int) : ℚ) / 1000 := by
  have hexact : (((later - earlier).toInt.toNat : Nat) : ℚ) =
      ((max 0 (later.toInt - earlier.toInt) : Int) : ℚ) := by
    rw [← toNat_sub_eq_max hlow hhigh, Int.cast_natCast]
  change (((later - earlier).toInt.toNat : Nat) : ℚ) / ((1000 : Nat) : ℚ) * rate = _
  rw [hexact, Nat.cast_ofNat]
  ring

theorem secondsBetween_mul_eq (rate : ℚ) {earlier later : Int64} (h : earlier ≤ later)
    (hfits : later.toInt < earlier.toInt + 2 ^ 63) :
    (secondsBetween earlier later : ℚ) * rate = perSecond rate earlier.toInt later.toInt := by
  rw [Int64.le_iff_toInt_le] at h
  rw [secondsBetween_mul_eq_max rate (by omega) (by omega), max_eq_right (by omega), perSecond]

/-! ## Levels -/

theorem clamp_eq {x high : ℚ} (h : 0 ≤ high) : Amount.clamp x 0 high = max 0 (min x high) := by
  change (if decide (x < 0) = true then 0 else if decide (high < x) = true then high else x) = _
  simp only [decide_eq_true_eq]
  rcases lt_or_ge x 0 with hx | hx
  · rw [if_pos hx, min_eq_left (le_trans hx.le h), max_eq_left hx.le]
  · rw [if_neg (not_lt.2 hx)]
    rcases lt_or_ge high x with hhigh | hhigh
    · rw [if_pos hhigh, min_eq_right hhigh.le, max_eq_right h]
    · rw [if_neg (not_lt.2 hhigh), min_eq_left hhigh, max_eq_right hx]

/-- Sixty tokens in a minute are one in a second. -/
theorem LimitSettings.rate_perMinute_sixty (capacity : UInt32) :
    (LimitSettings.perMinute capacity 60 : LimitSettings ℚ).rate = 1 := by
  change ((60 : Nat) : ℚ) / ((60 : Nat) : ℚ) = 1
  norm_num

namespace Bucket

variable (s : LimitSettings ℚ) (b : Bucket ℚ) (now : Int64)

/-- The capacity as a number. -/
theorem full_eq : s.full = (s.capacity.toNat : ℚ) := rfl

theorem full_nonneg : 0 ≤ s.full := by
  rw [full_eq]
  exact Nat.cast_nonneg _

/-- What a bucket held at its last admission, put between its bounds. -/
def noted : ℚ :=
  max 0 (min b.tokens s.full)

theorem noted_nonneg : 0 ≤ b.noted s :=
  le_max_left _ _

theorem noted_le_full : b.noted s ≤ s.full :=
  max_le (full_nonneg s) (min_le_right _ _)

theorem level_eq :
    b.level s now = min (b.noted s + secondsBetween b.lastRefill now * s.rate) s.full := by
  rw [noted, ← clamp_eq (full_nonneg s)]
  change (if decide (_ < s.full) = true then _ else s.full) = _
  simp only [decide_eq_true_eq]
  split
  · next h => exact (min_eq_left h.le).symm
  · next h => exact (min_eq_right (not_lt.1 h)).symm

theorem level_le : b.level s now ≤ s.full := by
  rw [level_eq]
  exact min_le_right _ _

/-- A bucket holds no less than is noted. -/
theorem noted_le_level (hrate : 0 ≤ s.rate) : b.noted s ≤ b.level s now := by
  rw [level_eq]
  exact le_min (le_add_of_nonneg_right (mul_nonneg (secondsBetween_nonneg _ _) hrate))
    (b.noted_le_full s)

theorem level_nonneg (hrate : 0 ≤ s.rate) : 0 ≤ b.level s now :=
  le_trans (b.noted_nonneg s) (b.noted_le_level s now hrate)

/-- A bucket holds no more than is noted and what is credited since. -/
theorem level_le_noted : b.level s now ≤ b.noted s + secondsBetween b.lastRefill now * s.rate := by
  rw [level_eq]
  exact min_le_left _ _

/-- A level rises no faster than the rate allows. -/
theorem level_later (hrate : 0 ≤ s.rate) {earlier later : Int64} (h : earlier ≤ later) :
    b.level s later ≤ b.level s earlier + perSecond s.rate earlier.toInt later.toInt := by
  rw [level_eq, level_eq, ← min_add_add_right]
  have hnonneg : 0 ≤ perSecond s.rate earlier.toInt later.toInt :=
    perSecond_nonneg hrate (Int64.le_iff_toInt_le.1 h)
  refine min_le_min ?_ (le_add_of_nonneg_right hnonneg)
  rw [add_assoc]
  exact add_le_add_right (secondsBetween_mul_le hrate b.lastRefill h) _

/-- A level rises as fast as the rate says until the bucket is full, if times can be told apart. -/
theorem level_eq_of_later (hrate : 0 ≤ s.rate) {earlier later : Int64}
    (hlast : b.lastRefill ≤ earlier) (h : earlier ≤ later)
    (hfits : later.toInt < b.lastRefill.toInt + 2 ^ 63) :
    b.level s later =
      min (b.level s earlier + perSecond s.rate earlier.toInt later.toInt) s.full := by
  rw [Int64.le_iff_toInt_le] at hlast h
  have hcomes : 0 ≤ perSecond s.rate earlier.toInt later.toInt := perSecond_nonneg hrate h
  rw [level_eq, level_eq, secondsBetween_mul_eq s.rate (Int64.le_iff_toInt_le.2 hlast) (by omega),
    secondsBetween_mul_eq s.rate (Int64.le_iff_toInt_le.2 (by omega)) hfits,
    ← perSecond_add s.rate b.lastRefill.toInt earlier.toInt later.toInt, ← add_assoc,
    ← min_add_add_right, min_assoc, min_eq_right (le_add_of_nonneg_right hcomes)]

/-- A bucket that has had the time to fill is full. -/
theorem level_of_filled {later : Int64} (h : b.lastRefill ≤ later)
    (hfits : later.toInt < b.lastRefill.toInt + 2 ^ 63)
    (hfull : s.full ≤ perSecond s.rate b.lastRefill.toInt later.toInt) :
    b.level s later = s.full := by
  rw [level_eq, secondsBetween_mul_eq s.rate h hfits]
  exact min_eq_right (le_add_of_nonneg_of_le (b.noted_nonneg s) hfull)

/-- A bucket that nobody has drawn from is full. -/
theorem level_fullBucket : (s.fullBucket now).level s now = s.full := by
  rw [level_eq]
  change min (max 0 (min s.full s.full) + secondsBetween now now * s.rate) s.full = _
  rw [secondsBetween_self, zero_mul, add_zero, min_self, max_eq_right (full_nonneg s), min_self]

/-! ## Attempts -/

/-- What a refused attempt is told to wait. -/
def hint : UInt64 :=
  wholeSeconds ((1 + ((min b.backlog.toNat s.capacity.toNat : Nat) : ℚ) - b.level s now) / s.rate)

/-- An attempt is admitted and takes a token, or is refused and told to wait. -/
theorem draw_cases :
    (1 ≤ b.level s now ∧ b.draw s now = (.allowed, taken s (b.level s now) now)) ∨
      (b.level s now < 1 ∧ b.draw s now = (.throttled (b.hint s now), b.refused s)) := by
  have hone : (Amount.le (Amount.ofNat 1) (b.level s now) : Bool) = decide (1 ≤ b.level s now) := by
    change decide (((1 : Nat) : ℚ) ≤ b.level s now) = _
    rw [Nat.cast_one]
  rw [draw, hone]
  rcases lt_or_ge (b.level s now) 1 with hlow | hhigh
  · rw [if_neg (by simpa only [decide_eq_true_eq, not_le] using hlow)]
    refine Or.inr ⟨hlow, ?_⟩
    rw [hint]
    change (Admission.throttled (wholeSeconds ((((1 : Nat) : ℚ) + _ - _) / _)), _) = _
    rw [Nat.cast_one]
    rfl
  · rw [if_pos (decide_eq_true hhigh)]
    exact Or.inl ⟨hhigh, rfl⟩

theorem isAllowed_draw : (b.draw s now).1.isAllowed = decide (1 ≤ b.level s now) := by
  rcases b.draw_cases s now with ⟨hlevel, hdraw⟩ | ⟨hlevel, hdraw⟩ <;> rw [hdraw]
  · exact (decide_eq_true hlevel).symm
  · exact (decide_eq_false (not_le.2 hlevel)).symm

theorem noted_taken {level : ℚ} (hone : 1 ≤ level) (hfull : level ≤ s.full) :
    (taken s level now).noted s = level - 1 := by
  have htokens : (taken s level now).tokens = level - 1 :=
    congrArg (level - ·) Nat.cast_one
  rw [noted, htokens, min_eq_left (by linarith), max_eq_right (by linarith)]

theorem level_taken {level : ℚ} (hone : 1 ≤ level) (hfull : level ≤ s.full) :
    (taken s level now).level s now = level - 1 := by
  rw [level_eq, noted_taken s now hone hfull]
  change min (level - 1 + secondsBetween now now * s.rate) s.full = _
  rw [secondsBetween_self, zero_mul, add_zero, min_eq_left (by linarith)]

theorem noted_refused : (b.refused s).noted s = b.noted s := by
  have htokens : (b.refused s).tokens = b.noted s := clamp_eq (full_nonneg s)
  change max 0 (min (b.refused s).tokens s.full) = _
  rw [htokens, min_eq_left (b.noted_le_full s), max_eq_right (b.noted_nonneg s)]

theorem toNat_backlog_refused :
    (b.refused s).backlog.toNat = min (b.backlog.toNat + 1) s.capacity.toNat :=
  UInt32.toNat_ofNat_of_lt' (lt_of_le_of_lt (min_le_right _ _) (UInt32.toNat_lt s.capacity))

/-- A refusal leaves the level alone, now and at any other time. -/
theorem level_refused : (b.refused s).level s now = b.level s now := by
  rw [level_eq, level_eq, noted_refused]
  rfl

/-- An attempt that is admitted takes one token off the level, and one that is refused takes
    nothing. -/
theorem level_draw :
    (b.draw s now).2.level s now =
      b.level s now - if (b.draw s now).1.isAllowed then 1 else 0 := by
  rcases b.draw_cases s now with ⟨hlevel, hdraw⟩ | ⟨_, hdraw⟩ <;> rw [hdraw]
  · exact level_taken s now hlevel (b.level_le s now)
  · exact (level_refused s b now).trans (sub_zero _).symm

end Bucket

end ChatCluster
