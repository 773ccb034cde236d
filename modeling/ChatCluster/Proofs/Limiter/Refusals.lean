import ChatCluster.Proofs.Limiter.Admission

/-!
# Refused Attempts Leave No Trace

A refused attempt is written down: the backlog grows, the level is put between its bounds, and the
bucket is kept for another idle time. None of this is ever noticed by an attempt that comes later.
Take a run of attempts and leave out any of those that were refused; all others are admitted or
refused as before, and at any time the same level is reported.

The two runs hold different buckets that expire at different times, and one may have expired while
the other has not. What they have in common is the level that is found from now on. It is the level
of the bucket that was left behind last, whether that is still stored or not: a bucket expires no
earlier than an idle time after its last admission, and by then it has filled.

The store's time and the clocks go at the same pace, and all readings lie less than 2⁶³ milliseconds
apart, so that the difference of two of them is a number of 64 bits. They do so of themselves when
no clock shows a negative number.

## Main definitions

* `staying`: What is marked to stay.
* `Cluster.reported`: What is reported of the bucket.
* `Cluster.Bears`: The bucket that counts, stored or not.
* `Cluster.Even`: The same levels are found in two clusters.

## Theorems

* `Cluster.Bears.answer`, `Cluster.Bears.left_cases`: What an attempt leaves behind.
* `Cluster.Even.both`, `Cluster.Even.refused`: An attempt in both runs, and one that is refused in
  one of them and left out of the other.
* `Cluster.Even.run`: Any number of attempts.
* `Cluster.answers_staying`: Refused attempts may be left out.
-/

namespace ChatCluster

/-- The items that are marked to stay. -/
def staying {α : Type} (marked : List (α × Bool)) : List α :=
  (marked.filter Prod.snd).map Prod.fst

theorem staying_cons {α : Type} (a : α) (stays : Bool) (marked : List (α × Bool)) :
    staying ((a, stays) :: marked) = if stays then a :: staying marked else staying marked := by
  cases stays <;> rfl

namespace Cluster

variable [BucketText ℚ] (c d : Cluster) (s : LimitSettings ℚ) (user : UserId) (epoch : Int)

/-- What is reported of the bucket at an instance. -/
def reported (a : Attempt) : Except StoreError (Bucket ℚ) :=
  ((c.attending epoch a).runAlone a.host (RateLimiter.status s user)).1

omit [BucketText ℚ] in
/-- An attempt that may come from `time` on, in a course of things that began at `since`. -/
structure Ahead (since time : Int64) (a : Attempt) : Prop where
  host : (c.profile? a.host).isSome
  le : time ≤ a.time
  fits : a.time.toInt < since.toInt + 2 ^ 63

/-- Whoever comes from `time` on finds a given bucket, or a full one that has taken its place when
    it had filled itself. -/
structure Bears (since time : Int64) (b : Bucket ℚ) : Prop where
  healthy : c.store.fault = none
  began : epoch ≤ since.toInt
  after : since ≤ b.lastRefill
  before : b.lastRefill ≤ time
  found : ∀ a, c.Ahead since time a →
    (c.attending epoch a).bucketFor a.host s user = b ∨
      (c.attending epoch a).bucketFor a.host s user = s.fullBucket a.time ∧
        b.level s a.time = s.full

/-- Whoever comes from `time` on finds the same level in both clusters. -/
def Even (since time : Int64) : Prop :=
  c.profile? = d.profile? ∧ ∃ b b', c.Bears s user epoch since time b ∧
    d.Bears s user epoch since time b' ∧
    ∀ later : Int64, time ≤ later → later.toInt < since.toInt + 2 ^ 63 →
      b.level s later = b'.level s later

variable {c d s user epoch} {since time : Int64} {a : Attempt} {b : Bucket ℚ}

/-! ## One run -/

theorem Bears.level_bucketFor (h : c.Bears s user epoch since time b)
    (ha : c.Ahead since time a) :
    ((c.attending epoch a).bucketFor a.host s user).level s a.time = b.level s a.time := by
  rcases h.found a ha with heq | ⟨heq, hfull⟩
  · rw [heq]
  · rw [heq, Bucket.level_fullBucket, hfull]

theorem Bears.later (h : c.Bears s user epoch since time b) {later : Int64} (hle : time ≤ later) :
    c.Bears s user epoch since later b :=
  { h with
    before := Int64.le_trans h.before hle
    found := fun a ha => h.found a { ha with le := Int64.le_trans hle ha.le } }

/-- What is reported is the level of the bucket that counts. -/
theorem Bears.reported (h : c.Bears s user epoch since time b) (ha : c.Ahead since time a) :
    (c.reported s user epoch a).map Bucket.tokens = .ok (b.level s a.time) := by
  have hstatus := runAlone_status (c := c.attending epoch a) a.host user s h.healthy
  rw [Cluster.reported, hstatus, clockOf_attending ha.host]
  exact congrArg Except.ok (h.level_bucketFor ha)

/-- An attempt is answered by the level of the bucket that counts. If it is admitted, what it leaves
    behind is decided by that level, and if it is refused, the level stays what it is for good. -/
theorem Bears.left_cases (hs : s.InForce) (h : c.Bears s user epoch since time b)
    (ha : c.Ahead since time a) :
    (c.answer s user epoch a).1.isAllowed = decide (1 ≤ b.level s a.time) ∧
      (1 ≤ b.level s a.time →
        c.bucketLeft s user epoch a = .taken s (b.level s a.time) a.time) ∧
      (b.level s a.time < 1 → ∀ later : Int64,
        (c.bucketLeft s user epoch a).level s later = b.level s later) := by
  have hlevel := h.level_bucketFor ha
  rw [(answer_spec hs h.healthy ha.host).1, Bucket.isAllowed_draw, hlevel, bucketLeft]
  refine ⟨rfl, fun hone => ?_, fun hlow later => ?_⟩
  · rcases Bucket.draw_cases s ((c.attending epoch a).bucketFor a.host s user) a.time with
      ⟨_, hdraw⟩ | ⟨hlow, _⟩
    · rw [hdraw, hlevel]
    · exact absurd (hlevel ▸ hone) (not_le.2 hlow)
  · rcases Bucket.draw_cases s ((c.attending epoch a).bucketFor a.host s user) a.time with
      ⟨hone, _⟩ | ⟨_, hdraw⟩
    · exact absurd (hlevel ▸ hone) (not_le.2 hlow)
    -- A full bucket refuses nobody, so it is the bucket itself that was found.
    · rcases h.found a ha with heq | ⟨_, hfull⟩
      · rw [hdraw, Bucket.level_refused, heq]
      · linarith [hs.one_le_full]

/-- After an attempt, what it has left behind is the bucket that counts. -/
theorem Bears.answer (hread : BucketText.Faithful ℚ) (hs : s.InForce) (hfills : s.FillsInTime)
    (h : c.Bears s user epoch since time b) (ha : c.Ahead since time a) :
    (c.answer s user epoch a).2.Bears s user epoch since a.time
      (c.bucketLeft s user epoch a) := by
  have hsince : since ≤ a.time := Int64.le_trans (Int64.le_trans h.after h.before) ha.le
  have hrefill : since ≤ (c.bucketLeft s user epoch a).lastRefill ∧
      (c.bucketLeft s user epoch a).lastRefill ≤ a.time := by
    rw [bucketLeft]
    rcases Bucket.draw_cases s ((c.attending epoch a).bucketFor a.host s user) a.time with
      ⟨_, hdraw⟩ | ⟨_, hdraw⟩
    · rw [hdraw]
      exact ⟨hsince, Int64.le_refl _⟩
    · rw [hdraw]
      change since ≤ ((c.attending epoch a).bucketFor a.host s user).lastRefill ∧
        ((c.attending epoch a).bucketFor a.host s user).lastRefill ≤ a.time
      rcases h.found a ha with heq | ⟨heq, _⟩
      · rw [heq]
        exact ⟨h.after, Int64.le_trans h.before ha.le⟩
      · rw [heq]
        exact ⟨hsince, Int64.le_refl _⟩
  refine ⟨fault_answer.trans h.healthy, h.began, hrefill.1, hrefill.2, fun next hnext => ?_⟩
  have hnexthost := hnext.host
  rw [profile?_answer] at hnexthost
  have hepoch : epoch ≤ a.time.toInt := h.began.trans (Int64.le_iff_toInt_le.1 hsince)
  rw [bucketFor_next hread hs h.healthy ha.host hnexthost hepoch hnext.le]
  split
  · exact Or.inl rfl
  -- It has expired, and an idle time is enough to fill it.
  · have hrefilled := Int64.le_iff_toInt_le.1 hrefill.1
    have hrefilled' := Int64.le_iff_toInt_le.1 hrefill.2
    have hfits := hnext.fits
    refine Or.inr ⟨rfl, Bucket.level_of_filled s _ (Int64.le_trans hrefill.2 hnext.le)
      (by omega) (le_trans hfills (perSecond_le hs.rate.le (by omega)))⟩

/-- To begin with, a full bucket counts. -/
theorem bears_begin (user : UserId) (since : Int64) (hs : s.InForce) (h : c.store.fault = none)
    (hfresh : c.seen (Key.rateLimit user.text) = none) :
    c.Bears s user (since.toInt - c.now) since since (s.fullBucket since) := by
  refine ⟨h, by omega, Int64.le_refl _, Int64.le_refl _, fun a ha => Or.inr ⟨?_, ?_⟩⟩
  · have hle := Int64.le_iff_toInt_le.1 ha.le
    have hseen : c.store.slots.visible c.now (Key.rateLimit user.text) = none := hfresh
    rw [bucketFor_attending ha.host, Slots.visible_later _ c.now (by omega), hseen]
    rfl
  · have hlevel := Bucket.level_eq_of_later s (s.fullBucket since) hs.rate.le (Int64.le_refl since)
      ha.le ha.fits
    rw [hlevel, Bucket.level_fullBucket]
    exact min_eq_right (le_add_of_nonneg_right
      (perSecond_nonneg hs.rate.le (Int64.le_iff_toInt_le.1 ha.le)))

/-! ## Two runs -/

theorem Even.later (h : c.Even d s user epoch since time) {later : Int64} (hle : time ≤ later) :
    c.Even d s user epoch since later := by
  rcases h with ⟨hprofiles, b, b', hb, hb', hlevels⟩
  exact ⟨hprofiles, b, b', hb.later hle, hb'.later hle,
    fun time' htime => hlevels time' (Int64.le_trans hle htime)⟩

theorem Even.ahead (h : c.Even d s user epoch since time) (ha : c.Ahead since time a) :
    d.Ahead since time a :=
  { ha with host := h.1 ▸ ha.host }

/-- An attempt that is made in both runs is answered alike, and they stay even. -/
theorem Even.both (hread : BucketText.Faithful ℚ) (hs : s.InForce) (hfills : s.FillsInTime)
    (h : c.Even d s user epoch since time) (ha : c.Ahead since time a) :
    (c.answer s user epoch a).1.isAllowed = (d.answer s user epoch a).1.isAllowed ∧
      (c.answer s user epoch a).2.Even (d.answer s user epoch a).2 s user epoch since a.time := by
  have ha' := h.ahead ha
  rcases h with ⟨hprofiles, b, b', hb, hb', hlevels⟩
  have hnow := hlevels a.time ha.le ha.fits
  rcases hb.left_cases hs ha with ⟨hanswer, htaken, hkept⟩
  rcases hb'.left_cases hs ha' with ⟨hanswer', htaken', hkept'⟩
  rw [← hnow] at hanswer' htaken' hkept'
  refine ⟨hanswer.trans hanswer'.symm, ?_, _, _, hb.answer hread hs hfills ha,
    hb'.answer hread hs hfills ha', fun later hle hfits => ?_⟩
  · rw [profile?_answer, profile?_answer, hprofiles]
  · rcases lt_or_ge (b.level s a.time) 1 with hlow | hone
    · rw [hkept hlow, hkept' hlow, hlevels later (Int64.le_trans ha.le hle) hfits]
    · rw [htaken hone, htaken' hone]

/-- An attempt that is refused in one run may be left out of the other. -/
theorem Even.refused (hread : BucketText.Faithful ℚ) (hs : s.InForce) (hfills : s.FillsInTime)
    (h : c.Even d s user epoch since time) (ha : c.Ahead since time a)
    (hrefused : (c.answer s user epoch a).1.isAllowed = false) :
    (c.answer s user epoch a).2.Even d s user epoch since a.time := by
  rcases h with ⟨hprofiles, b, b', hb, hb', hlevels⟩
  rcases hb.left_cases hs ha with ⟨hanswer, _, hkept⟩
  have hlow : b.level s a.time < 1 :=
    not_le.1 (of_decide_eq_false (hanswer.symm.trans hrefused))
  refine ⟨profile?_answer.trans hprofiles, _, _, hb.answer hread hs hfills ha, hb'.later ha.le,
    fun later hle hfits => ?_⟩
  rw [hkept hlow, hlevels later (Int64.le_trans ha.le hle) hfits]

/-- Attempts that are all made in one run, and in the other only as far as they are marked to
    stay. -/
theorem Even.run (hread : BucketText.Faithful ℚ) (hs : s.InForce) (hfills : s.FillsInTime)
    (marked : List (Attempt × Bool)) (h : c.Even d s user epoch since time)
    (hahead : ∀ t ∈ marked, c.Ahead since time t.1)
    (hsorted : marked.Pairwise fun t u => t.1.time ≤ u.1.time)
    (hrefused : ∀ t ∈ (c.answers s user epoch (marked.map Prod.fst)).zip (marked.map Prod.snd),
      t.2 = false → t.1.isAllowed = false) :
    (staying ((c.answers s user epoch (marked.map Prod.fst)).zip (marked.map Prod.snd))).map
        Admission.isAllowed =
        (d.answers s user epoch (staying marked)).map Admission.isAllowed ∧
      ∀ upto, time ≤ upto → (∀ t ∈ marked, t.1.time ≤ upto) →
        (c.afterAttempts s user epoch (marked.map Prod.fst)).Even
          (d.afterAttempts s user epoch (staying marked)) s user epoch since upto := by
  induction marked generalizing c d time with
  | nil => exact ⟨rfl, fun upto hupto _ => h.later hupto⟩
  | cons t rest ih =>
    obtain ⟨a, stays⟩ := t
    rw [List.forall_mem_cons] at hahead
    rw [List.pairwise_cons] at hsorted
    have hrest : ∀ t ∈ rest, (c.answer s user epoch a).2.Ahead since a.time t.1 := fun t ht =>
      ⟨by rw [profile?_answer]; exact (hahead.2 t ht).host, hsorted.1 t ht, (hahead.2 t ht).fits⟩
    rw [List.map_cons, List.map_cons, answers, List.zip_cons_cons, List.forall_mem_cons] at hrefused
    rw [List.map_cons, List.map_cons, answers, List.zip_cons_cons, staying_cons, staying_cons]
    cases stays with
    | true =>
      rcases h.both hread hs hfills hahead.1 with ⟨hanswer, heven⟩
      rcases ih heven hrest hsorted.2 hrefused.2 with ⟨hanswers, hafter⟩
      refine ⟨?_, fun upto _ hupto => ?_⟩
      · rw [if_pos rfl, if_pos rfl, answers, List.map_cons, List.map_cons, hanswer, hanswers]
      · rw [List.forall_mem_cons] at hupto
        exact hafter upto hupto.1 hupto.2
    | false =>
      have heven := h.refused hread hs hfills hahead.1 (hrefused.1 rfl)
      rcases ih heven hrest hsorted.2 hrefused.2 with ⟨hanswers, hafter⟩
      refine ⟨hanswers, fun upto _ hupto => ?_⟩
      rw [List.forall_mem_cons] at hupto
      exact hafter upto hupto.1 hupto.2

end Cluster

/-- Some attempts are marked to stay, and all others were refused. If these are left out, the others
    are admitted or refused as before, and at any time the same level is reported. Nothing is stored
    to begin with, and a bucket is kept for as long as an empty one takes to fill. -/
theorem Cluster.answers_staying [BucketText ℚ] (hread : BucketText.Faithful ℚ) {c : Cluster}
    {s : LimitSettings ℚ} (user : UserId) (since : Int64) (marked : List (Attempt × Bool))
    (henabled : s.enabled = true) (hcapacity : 1 ≤ s.capacity) (hrate : 0 < s.rate)
    (hidle : (s.capacity.toNat : ℚ) ≤ s.idleTtl / 1000 * s.rate)
    (hhealthy : c.store.fault = none) (hfresh : c.seen (Key.rateLimit user.text) = none)
    (hhosts : ∀ t ∈ marked, (c.profile? t.1.host).isSome)
    (hsince : ∀ t ∈ marked, since ≤ t.1.time)
    (hfits : ∀ t ∈ marked, t.1.time.toInt < since.toInt + 2 ^ 63)
    (hsorted : marked.Pairwise fun t u => t.1.time ≤ u.1.time) :
    let epoch := since.toInt - c.now
    let given := (c.answers s user epoch (marked.map Prod.fst)).zip (marked.map Prod.snd)
    (∀ t ∈ given, t.2 = false → t.1.isAllowed = false) →
      (staying given).map Admission.isAllowed =
          (c.answers s user epoch (staying marked)).map Admission.isAllowed ∧
        ∀ n, ∀ a : Attempt, (c.profile? a.host).isSome → since ≤ a.time →
          a.time.toInt < since.toInt + 2 ^ 63 → (∀ t ∈ marked.take n, t.1.time ≤ a.time) →
          ∃ level,
            ((c.afterAttempts s user epoch ((marked.take n).map Prod.fst)).reported s user epoch
              a).map Bucket.tokens = .ok level ∧
            ((c.afterAttempts s user epoch (staying (marked.take n))).reported s user epoch
              a).map Bucket.tokens = .ok level := by
  intro epoch given hrefused
  have hs : s.InForce := ⟨henabled, hcapacity, hrate⟩
  have hfills : s.FillsInTime := s.fillsInTime_iff.2 hidle
  have hbegin := bears_begin user since hs hhealthy hfresh
  have heven : c.Even c s user epoch since since := ⟨rfl, _, _, hbegin, hbegin, fun _ _ _ => rfl⟩
  have hahead : ∀ t ∈ marked, c.Ahead since since t.1 := fun t ht =>
    ⟨hhosts t ht, hsince t ht, hfits t ht⟩
  refine ⟨(heven.run hread hs hfills marked hahead hsorted hrefused).1, ?_⟩
  intro n a hhost hle hfit hupto
  have hpart : ∀ t ∈ (c.answers s user epoch ((marked.take n).map Prod.fst)).zip
      ((marked.take n).map Prod.snd), t.2 = false → t.1.isAllowed = false := by
    intro t ht
    rw [List.map_take, List.map_take, ← take_answers, List.zip_eq_zipWith,
      ← List.take_zipWith] at ht
    exact hrefused t (List.mem_of_mem_take ht)
  have hafter := (heven.run hread hs hfills (marked.take n)
    (fun t ht => hahead t (List.mem_of_mem_take ht)) (hsorted.sublist (List.take_sublist n marked))
    hpart).2 a.time hle hupto
  have hthere :
      (c.afterAttempts s user epoch ((marked.take n).map Prod.fst)).Ahead since a.time a :=
    ⟨by rw [(afterAttempts_spec c s user epoch _).1]; exact hhost, Int64.le_refl _, hfit⟩
  have hthere' := hafter.ahead hthere
  rcases hafter with ⟨_, b, b', hb, hb', hlevels⟩
  refine ⟨b.level s a.time, hb.reported hthere, ?_⟩
  rw [hb'.reported hthere', hlevels a.time (Int64.le_refl _) hfit]

/-- A user tries four times at once and has used up the bucket. Half a second later it is still too
    early, after five minutes the bucket has expired in one run and not in the other, and then there
    are two tokens again. -/
def insistent : List (Attempt × Bool) :=
  [(⟨0, 1000⟩, true), (⟨1, 1000⟩, true), (⟨0, 1000⟩, false), (⟨1, 1000⟩, true), (⟨0, 1500⟩, false),
    (⟨0, 301200⟩, true), (⟨1, 301200⟩, true), (⟨1, 301200⟩, true)]

/-- Two of the refused attempts may be left out, and the other two are still refused. -/
theorem answers_staying_insistent :
    (twoInstances.answers (.perMinute 2 60) ⟨"u"⟩ 0 (insistent.map Prod.fst)).map
        Admission.isAllowed = [true, true, false, false, false, true, true, false] ∧
      (twoInstances.answers (.perMinute 2 60) ⟨"u"⟩ 0 (staying insistent)).map
        Admission.isAllowed = [true, true, false, true, true, false] := by
  have hrate : (LimitSettings.perMinute 2 60 : LimitSettings ℚ).rate = 1 :=
    LimitSettings.rate_perMinute_sixty 2
  have hidle : (((LimitSettings.perMinute 2 60 : LimitSettings ℚ).capacity.toNat : Nat) : ℚ) ≤
      ((LimitSettings.perMinute 2 60 : LimitSettings ℚ).idleTtl : ℚ) / 1000 *
        (LimitSettings.perMinute 2 60 : LimitSettings ℚ).rate := by
    rw [hrate]
    change ((2 : Nat) : ℚ) ≤ ((300000 : Nat) : ℚ) / 1000 * 1
    norm_num
  have hall : (twoInstances.answers (.perMinute 2 60) ⟨"u"⟩ 0 (insistent.map Prod.fst)).map
      Admission.isAllowed = [true, true, false, false, false, true, true, false] := by
    decide +kernel
  have hstays := (Cluster.answers_staying faithful_exact (c := twoInstances)
    (s := .perMinute 2 60) ⟨"u"⟩ 0 insistent rfl (by decide) (by rw [hrate]; norm_num)
    hidle rfl rfl (by decide) (by decide) (by decide) (by decide) (by decide +kernel)).1
  refine ⟨hall, Eq.trans hstays.symm ?_⟩
  decide +kernel

end ChatCluster
