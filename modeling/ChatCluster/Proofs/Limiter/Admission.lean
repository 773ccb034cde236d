import ChatCluster.Proofs.Limiter.Exact
import ChatCluster.Proofs.Registry.Ownership

/-!
# What Is Admitted Over a Span of Time

One user attempts to send, again and again, at whatever instances. The attempts come one after
another and the clocks never go back; between them any time may pass, and the stored bucket may
expire. Over any span of them no more are admitted than a full bucket holds, and what comes in
during the span.

What an attempt leaves behind backs all later ones: a later attempt finds no more than what was
left and what has come in since. As long as the bucket is stored this is the law of levels. Once it
has expired a full one takes its place, and by then as much has come in if buckets are kept for the
time that it takes to fill one.

## Main definitions

* `Attempt`, `Cluster.answer`, `Cluster.answers`: Attempts, and how they are answered.
* `LimitSettings.InForce`, `LimitSettings.FillsInTime`: What is asked of the limits.
* `Cluster.Backed`: What later attempts find is bounded.

## Theorems

* `Cluster.bucketFor_next`: What the next attempt finds.
* `Cluster.backed_answer`: What an attempt leaves behind backs the later ones.
* `Cluster.countP_answers_le`: What is admitted out of what is backed.
* `Cluster.admitted_le`: The bound for every span of attempts.
-/

namespace ChatCluster

/-! ## Limits -/

/-- The limits apply, and every bucket holds something and fills. -/
structure LimitSettings.InForce (s : LimitSettings ℚ) : Prop where
  /-- Attempts are limited. -/
  enabled : s.enabled = true
  /-- A bucket holds at least one token. -/
  capacity : 1 ≤ s.capacity
  /-- Tokens come in. -/
  rate : 0 < s.rate

/-- A bucket is kept for as long as an empty one takes to fill. -/
def LimitSettings.FillsInTime (s : LimitSettings ℚ) : Prop :=
  s.full ≤ perSecond s.rate 0 s.idleTtl

theorem LimitSettings.fillsInTime_iff (s : LimitSettings ℚ) :
    s.FillsInTime ↔ (s.capacity.toNat : ℚ) ≤ s.idleTtl / 1000 * s.rate := by
  rw [FillsInTime, perSecond, sub_zero, Int.cast_natCast, mul_comm, mul_div_right_comm,
    Bucket.full_eq]

theorem LimitSettings.InForce.one_le_full {s : LimitSettings ℚ} (h : s.InForce) :
    (1 : ℚ) ≤ s.full := by
  rw [Bucket.full_eq]
  exact_mod_cast UInt32.le_iff_toNat_le.1 h.capacity

theorem LimitSettings.InForce.limits {s : LimitSettings ℚ} (h : s.InForce) : s.limits = true := by
  have hcapacity : s.capacity ≠ 0 := by
    intro hzero
    have hone := h.capacity
    rw [hzero] at hone
    exact absurd hone (by decide)
  have hrate : (Amount.le s.rate (Amount.ofNat 0) : Bool) = false := by
    change decide (s.rate ≤ ((0 : Nat) : ℚ)) = false
    rw [Nat.cast_zero, decide_eq_false_iff_not, not_le]
    exact h.rate
  rw [LimitSettings.limits, h.enabled, hrate, bne_iff_ne.2 hcapacity]
  rfl

/-! ## Attempts -/

/-- An attempt of a user: at which instance, and what the clocks show. -/
structure Attempt where
  /-- The number of the instance. -/
  host : Nat
  /-- The time. -/
  time : Int64
  deriving DecidableEq, Repr

namespace Cluster

variable (c : Cluster) (s : LimitSettings ℚ) (user : UserId) (epoch : Int)

/-- The cluster at the time of an attempt. The store's time is in step with the clock, which showed
    `epoch` when the store's time began. -/
def attending (a : Attempt) : Cluster :=
  { c.updateHost a.host (fun h => { h with clock := a.time }) with
    now := (a.time.toInt - epoch).toNat }

variable [BucketText ℚ]

/-- How an attempt is answered, and what the cluster is then. -/
def answer (a : Attempt) : Admission × Cluster :=
  (c.attending epoch a).runAlone a.host (RateLimiter.check s user)

/-- How attempts are answered, one after another. -/
def answers (c : Cluster) : List Attempt → List Admission
  | [] => []
  | a :: rest => (c.answer s user epoch a).1 :: answers (c.answer s user epoch a).2 rest

/-- The level that an attempt finds. -/
def levelFound (a : Attempt) : ℚ :=
  ((c.attending epoch a).bucketFor a.host s user).level s a.time

/-- What an attempt leaves of the bucket. -/
def bucketLeft (a : Attempt) : Bucket ℚ :=
  (((c.attending epoch a).bucketFor a.host s user).draw s a.time).2

/-- Whatever attempt comes, it finds no more than a level at a time and what has come in since. -/
def Backed (time : Int64) (level : ℚ) : Prop :=
  ∀ a : Attempt, (c.profile? a.host).isSome → time ≤ a.time →
    c.levelFound s user epoch a ≤ level + perSecond s.rate time.toInt a.time.toInt

/-! ## One attempt -/

variable {c s user epoch} {a : Attempt}

omit [BucketText ℚ] in
theorem profile?_attending : (c.attending epoch a).profile? = c.profile? :=
  funext fun other => profile?_updateHost c a.host other fun _ => rfl

omit [BucketText ℚ] in
theorem clockOf_attending (ha : (c.profile? a.host).isSome) :
    (c.attending epoch a).clockOf a.host = a.time :=
  clockOf_updateHost ha a.time

theorem profile?_answer : (c.answer s user epoch a).2.profile? = c.profile? :=
  (funext fun other => profile?_runAlone a.host _ (c.attending epoch a) other).trans
    profile?_attending

theorem fault_answer : (c.answer s user epoch a).2.store.fault = c.store.fault :=
  fault_runAlone a.host _ (c.attending epoch a)

theorem bucketFor_attending (ha : (c.profile? a.host).isSome) :
    (c.attending epoch a).bucketFor a.host s user =
      (bucketIn (c.store.slots.visible (a.time.toInt - epoch).toNat
        (Key.rateLimit user.text))).getD (s.fullBucket a.time) := by
  rw [bucketFor, clockOf_attending ha]
  rfl

/-- An attempt is answered by the bucket that it finds, and what it leaves is stored. -/
theorem answer_spec (hs : s.InForce) (h : c.store.fault = none)
    (ha : (c.profile? a.host).isSome) :
    (c.answer s user epoch a).1 =
        (((c.attending epoch a).bucketFor a.host s user).draw s a.time).1 ∧
      (c.answer s user epoch a).2.store.slots.visible (a.time.toInt - epoch).toNat
          (Key.rateLimit user.text) =
        s.written (c.bucketLeft s user epoch a) (a.time.toInt - epoch).toNat := by
  have hcheck := runAlone_check (c := c.attending epoch a) a.host user s hs.limits h
  rw [clockOf_attending ha] at hcheck
  have hnow : (c.answer s user epoch a).2.now = (a.time.toInt - epoch).toNat :=
    now_runAlone a.host _ (c.attending epoch a)
  have hseen := congrFun hcheck.2 (Key.rateLimit user.text)
  rw [Function.update_self, seen] at hseen
  refine ⟨hcheck.1, ?_⟩
  rw [← hnow]
  exact hseen.trans (by rw [hnow]; rfl)

/-- An attempt that is admitted leaves one token less than it finds; one that is refused leaves
    what it finds. -/
theorem level_bucketLeft (hs : s.InForce) (h : c.store.fault = none)
    (ha : (c.profile? a.host).isSome) :
    (c.bucketLeft s user epoch a).level s a.time =
      c.levelFound s user epoch a -
        if (c.answer s user epoch a).1.isAllowed then 1 else 0 := by
  rw [(answer_spec hs h ha).1]
  exact Bucket.level_draw s _ a.time

/-- What an attempt leaves behind is seen until it has been idle for too long. -/
theorem seen_next {next : Attempt} (hs : s.InForce) (h : c.store.fault = none)
    (ha : (c.profile? a.host).isSome) (hepoch : epoch ≤ a.time.toInt) (hle : a.time ≤ next.time) :
    ((c.answer s user epoch a).2.attending epoch next).seen (Key.rateLimit user.text) =
      if next.time.toInt < a.time.toInt + s.idleTtl then
        s.written (c.bucketLeft s user epoch a) (a.time.toInt - epoch).toNat
      else none := by
  have hpast := Int64.le_iff_toInt_le.1 hle
  have hpassed : (a.time.toInt - epoch).toNat ≤ (next.time.toInt - epoch).toNat := by omega
  have hlater := Slots.visible_later (c.answer s user epoch a).2.store.slots _ hpassed
    (Key.rateLimit user.text)
  rw [(answer_spec hs h ha).2] at hlater
  refine hlater.trans ?_
  cases hslot : s.written (c.bucketLeft s user epoch a) (a.time.toInt - epoch).toNat with
  | none => rw [Option.filter_none, ite_self]
  | some slot =>
    rw [Option.filter_some]
    refine if_congr ?_ rfl rfl
    rw [Slot.isLive, expiresAt_of_renewed hslot, Option.all_some, decide_eq_true_eq]
    omega

/-- The next attempt finds what was left behind, or a full bucket if that has been idle for too
    long. -/
theorem bucketFor_next {next : Attempt} (hread : BucketText.Faithful ℚ) (hs : s.InForce)
    (h : c.store.fault = none) (ha : (c.profile? a.host).isSome)
    (hnext : (c.profile? next.host).isSome) (hepoch : epoch ≤ a.time.toInt)
    (hle : a.time ≤ next.time) :
    ((c.answer s user epoch a).2.attending epoch next).bucketFor next.host s user =
      if next.time.toInt < a.time.toInt + s.idleTtl then c.bucketLeft s user epoch a
      else s.fullBucket next.time := by
  have hpast := Int64.le_iff_toInt_le.1 hle
  rw [bucketFor, seen_next hs h ha hepoch hle,
    clockOf_attending (by rw [profile?_answer]; exact hnext)]
  split
  · next hkept =>
    rw [LimitSettings.written_eq, if_pos (by omega), bucketIn_slotOf hread, Option.getD_some]
  · rfl

/-- What an attempt leaves behind backs the later ones. -/
theorem backed_answer (hread : BucketText.Faithful ℚ) (hs : s.InForce) (hfills : s.FillsInTime)
    (h : c.store.fault = none) (ha : (c.profile? a.host).isSome) (hepoch : epoch ≤ a.time.toInt) :
    (c.answer s user epoch a).2.Backed s user epoch a.time
      ((c.bucketLeft s user epoch a).level s a.time) := by
  intro later hlater htime
  rw [profile?_answer] at hlater
  rw [levelFound, bucketFor_next hread hs h ha hlater hepoch htime]
  split
  -- The bucket is still stored, and its level has risen no faster than the rate allows.
  · exact Bucket.level_later s _ hs.rate.le htime
  -- It has expired, and by now a full one has come in.
  · have hcame : perSecond s.rate 0 s.idleTtl ≤ perSecond s.rate a.time.toInt later.time.toInt :=
      perSecond_le hs.rate.le (by omega)
    have hnonneg := Bucket.level_nonneg s (c.bucketLeft s user epoch a) a.time hs.rate.le
    rw [Bucket.level_fullBucket]
    exact le_add_of_nonneg_of_le hnonneg (le_trans hfills hcame)

/-! ## Any number of attempts -/

/-- No more is admitted than the first attempt may find and what comes in from then on. -/
theorem countP_answers_le (hread : BucketText.Faithful ℚ) (hs : s.InForce)
    (hfills : s.FillsInTime) (attempts : List Attempt) {time upto : Int64} {level : ℚ}
    (h : c.store.fault = none) (hhosts : ∀ a ∈ attempts, (c.profile? a.host).isSome)
    (hepoch : ∀ a ∈ attempts, epoch ≤ a.time.toInt)
    (hsorted : attempts.Pairwise fun a b => a.time ≤ b.time)
    (hupto : ∀ a ∈ attempts, a.time ≤ upto)
    (hfound : ∀ a ∈ attempts.head?, c.levelFound s user epoch a ≤
      level + perSecond s.rate time.toInt a.time.toInt)
    (hroom : 0 ≤ level + perSecond s.rate time.toInt upto.toInt) :
    ((c.answers s user epoch attempts).countP Admission.isAllowed : ℚ) ≤
      level + perSecond s.rate time.toInt upto.toInt := by
  -- On the attempts still to come; what the next one may find is what the last one has left.
  induction attempts generalizing c time level with
  | nil => exact_mod_cast hroom
  | cons a rest ih =>
    rw [List.forall_mem_cons] at hhosts hepoch hupto
    rw [List.pairwise_cons] at hsorted
    have hleft : (c.bucketLeft s user epoch a).level s a.time = c.levelFound s user epoch a -
        if (c.answer s user epoch a).1.isAllowed then 1 else 0 := level_bucketLeft hs h hhosts.1
    have hnonneg := Bucket.level_nonneg s (c.bucketLeft s user epoch a) a.time hs.rate.le
    have hcomes : 0 ≤ perSecond s.rate a.time.toInt upto.toInt :=
      perSecond_nonneg hs.rate.le (Int64.le_iff_toInt_le.1 hupto.1)
    have hbacked : ∀ next ∈ rest.head?, (c.answer s user epoch a).2.levelFound s user epoch next ≤
        (c.bucketLeft s user epoch a).level s a.time +
          perSecond s.rate a.time.toInt next.time.toInt := by
      intro next hnext
      have hmem := List.mem_of_mem_head? hnext
      exact backed_answer hread hs hfills h hhosts.1 hepoch.1 next
        (by rw [profile?_answer]; exact hhosts.2 next hmem) (hsorted.1 next hmem)
    have hrest := ih (fault_answer.trans h) (by rw [profile?_answer]; exact hhosts.2) hepoch.2
      hsorted.2 hupto.2 hbacked (add_nonneg hnonneg hcomes)
    have hfirst := hfound a rfl
    have hsum := perSecond_add s.rate time.toInt a.time.toInt upto.toInt
    rw [answers, List.countP_cons]
    push_cast
    linarith

/-- The cluster after some attempts. -/
def afterAttempts (c : Cluster) (s : LimitSettings ℚ) (user : UserId) (epoch : Int)
    (attempts : List Attempt) : Cluster :=
  attempts.foldl (fun c a => (c.answer s user epoch a).2) c

theorem afterAttempts_spec (c : Cluster) (s : LimitSettings ℚ) (user : UserId) (epoch : Int)
    (attempts : List Attempt) :
    (c.afterAttempts s user epoch attempts).profile? = c.profile? ∧
      (c.afterAttempts s user epoch attempts).store.fault = c.store.fault := by
  induction attempts generalizing c with
  | nil => exact ⟨rfl, rfl⟩
  | cons a attempts ih =>
    rcases ih (c.answer s user epoch a).2 with ⟨hprofiles, hfault⟩
    exact ⟨hprofiles.trans profile?_answer, hfault.trans fault_answer⟩

theorem afterAttempts_concat (attempts : List Attempt) (a : Attempt) :
    c.afterAttempts s user epoch (attempts ++ [a]) =
      ((c.afterAttempts s user epoch attempts).answer s user epoch a).2 :=
  List.foldl_concat _ _ _ _

theorem answers_append (first more : List Attempt) :
    c.answers s user epoch (first ++ more) =
      c.answers s user epoch first ++
        (c.afterAttempts s user epoch first).answers s user epoch more := by
  induction first generalizing c with
  | nil => rfl
  | cons a first ih => exact congrArg (_ :: ·) ih

theorem take_answers (attempts : List Attempt) (n : Nat) :
    (c.answers s user epoch attempts).take n = c.answers s user epoch (attempts.take n) := by
  induction attempts generalizing c n with
  | nil => simp only [answers, List.take_nil]
  | cons a attempts ih =>
    cases n with
    | zero => rfl
    | succ n => exact congrArg (_ :: ·) (ih n)

/-- The answers from some attempt on are those that the rest get where it begins. -/
theorem drop_answers (attempts : List Attempt) (n : Nat) :
    (c.answers s user epoch attempts).drop n =
      (c.afterAttempts s user epoch (attempts.take n)).answers s user epoch (attempts.drop n) := by
  induction attempts generalizing c n with
  | nil => simp only [answers, List.drop_nil]
  | cons a attempts ih =>
    cases n with
    | zero => rfl
    | succ n => exact ih n

end Cluster

/-- Over any span of attempts no more are admitted than a full bucket holds and what comes in
    from the first of them to the last, whatever was stored before. -/
theorem Cluster.admitted_le [BucketText ℚ] (hread : BucketText.Faithful ℚ) {c : Cluster}
    {s : LimitSettings ℚ} (user : UserId) (epoch : Int) (attempts : List Attempt)
    (henabled : s.enabled = true) (hcapacity : 1 ≤ s.capacity) (hrate : 0 < s.rate)
    (hidle : (s.capacity.toNat : ℚ) ≤ s.idleTtl / 1000 * s.rate)
    (hhealthy : c.store.fault = none)
    (hhosts : ∀ a ∈ attempts, (c.profile? a.host).isSome)
    (hepoch : ∀ a ∈ attempts, epoch ≤ a.time.toInt)
    (hsorted : attempts.Pairwise fun a b => a.time ≤ b.time)
    {i j : Nat} (hij : i ≤ j) (hj : j < attempts.length) :
    ((((c.answers s user epoch attempts).drop i).take (j + 1 - i)).countP
        Admission.isAllowed : ℚ) ≤
      s.capacity.toNat +
        s.rate * ((attempts[j].time.toInt - attempts[i].time.toInt : Int) : ℚ) / 1000 := by
  have hs : s.InForce := ⟨henabled, hcapacity, hrate⟩
  have hfills : s.FillsInTime := s.fillsInTime_iff.2 hidle
  -- The span, and the cluster in which it begins.
  have hspan : ∀ a ∈ (attempts.drop i).take (j + 1 - i), a ∈ attempts := fun a ha =>
    List.mem_of_mem_drop (List.mem_of_mem_take ha)
  rcases afterAttempts_spec c s user epoch (attempts.take i) with ⟨hprofiles, hfault⟩
  have hsub : ((attempts.drop i).take (j + 1 - i)).Sublist attempts :=
    (List.take_sublist _ _).trans (List.drop_sublist _ _)
  have hlast : ∀ a ∈ (attempts.drop i).take (j + 1 - i), a.time ≤ attempts[j].time := by
    intro a ha
    rcases List.mem_iff_getElem.1 ha with ⟨k, hk, rfl⟩
    rw [List.length_take, List.length_drop] at hk
    rw [List.getElem_take, List.getElem_drop]
    rcases Nat.lt_or_ge (i + k) j with hlt | hge
    · exact List.pairwise_iff_getElem.1 hsorted _ _ _ hj hlt
    · have heq : i + k = j := by omega
      simp only [heq]
      exact Int64.le_refl _
  have hfirst : ((attempts.drop i).take (j + 1 - i)).head? = some attempts[i] := by
    rw [List.head?_take, if_neg (by omega), List.head?_drop, List.getElem?_eq_getElem]
  have hcomes : 0 ≤ perSecond s.rate attempts[i].time.toInt attempts[j].time.toInt :=
    perSecond_nonneg hrate.le (Int64.le_iff_toInt_le.1
      (hlast _ (List.mem_of_mem_head? hfirst)))
  rw [drop_answers, take_answers]
  refine countP_answers_le hread hs hfills _ (hfault.trans hhealthy) ?_
    (fun a ha => hepoch a (hspan a ha)) (hsorted.sublist hsub) hlast ?_
    (add_nonneg (Bucket.full_nonneg s) hcomes)
  · rw [hprofiles]
    exact fun a ha => hhosts a (hspan a ha)
  · intro a ha
    rw [hfirst, Option.mem_some_iff] at ha
    subst ha
    rw [perSecond_self, add_zero]
    exact Bucket.level_le s _ _

/-- A user tries twice at once, at both instances, and then twice more. -/
def turns : List Attempt :=
  [⟨0, 1000⟩, ⟨1, 1000⟩, ⟨0, 1500⟩, ⟨1, 2500⟩]

/-- With two tokens to begin with and one more for each second, no more than three of the four
    attempts are admitted. -/
theorem admitted_le_turns :
    ((((twoInstances.answers (.perMinute 2 60) ⟨"u"⟩ 0 turns).drop 0).take (3 + 1 - 0)).countP
        Admission.isAllowed : ℚ) ≤ 2 + 1 * 1500 / 1000 := by
  have hrate : (LimitSettings.perMinute 2 60 : LimitSettings ℚ).rate = 1 := by
    change ((60 : Nat) : ℚ) / ((60 : Nat) : ℚ) = 1
    norm_num
  have hidle : (((LimitSettings.perMinute 2 60 : LimitSettings ℚ).capacity.toNat : Nat) : ℚ) ≤
      ((LimitSettings.perMinute 2 60 : LimitSettings ℚ).idleTtl : ℚ) / 1000 *
        (LimitSettings.perMinute 2 60 : LimitSettings ℚ).rate := by
    rw [hrate]
    change ((2 : Nat) : ℚ) ≤ ((300000 : Nat) : ℚ) / 1000 * 1
    norm_num
  have hbound := Cluster.admitted_le faithful_exact (c := twoInstances) (s := .perMinute 2 60)
    ⟨"u"⟩ 0 turns rfl (by decide) (by rw [hrate]; norm_num) hidle rfl
    (by decide) (by decide) (by decide) (i := 0) (j := 3) (by decide) (by decide)
  rw [hrate] at hbound
  exact hbound

end ChatCluster
