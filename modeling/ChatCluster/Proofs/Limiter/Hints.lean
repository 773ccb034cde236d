import ChatCluster.Proofs.Limiter.Trials

/-!
# What Refused Attempts Are Told

A refused attempt is told to wait for so many seconds. That is the time in which one token comes in
for it, and one more for each that was refused before it since the last admission, so those who keep
trying are told to wait longer. Since a bucket holds no more than its capacity, nobody is told to
wait for longer than a bucket and one more token take.

What is told can be relied upon. If nobody tries while these seconds go by, then as many of the next
attempts are admitted as were refused, up to the capacity (`Cluster.hints_honest`). Whether the
bucket expires in the meantime makes no difference, for a full one takes its place.

All readings lie less than 2⁶³ milliseconds apart, so that the difference of two of them is a number
of 64 bits. They do so of themselves when no clock shows a negative number.

## Main definitions

* `refusedLast`: How many of the last attempts were refused.
* `Cluster.Remembers`: What attempts have left behind.
* `Cluster.InTime`: Attempts one after another.

## Theorems

* `Bucket.hint_bounds`, `Bucket.hint_le_hint_refused`: How long attempts are told to wait.
* `Bucket.le_level_after_hint`: What has come in when the time is over.
* `Cluster.Remembers.trial_cases`, `Cluster.Remembers.run`: What attempts leave behind.
* `Cluster.Remembers.trials_eq`: A bucket admits as many as it holds.
* `Cluster.Remembers.hint_le_next`, `Cluster.Remembers.allowed_after_hint`: Those who are refused.
* `Cluster.hints_honest`: Hints are bounded, do not fall, and can be relied upon.
-/

namespace ChatCluster

/-- How many attempts were refused since the last admission. -/
def refusedLast (given : List Admission) : Nat :=
  (given.reverse.takeWhile fun a => !a.isAllowed).length

theorem refusedLast_concat (given : List Admission) (a : Admission) :
    refusedLast (given ++ [a]) = if a.isAllowed then 0 else refusedLast given + 1 := by
  rw [refusedLast, List.reverse_concat, List.takeWhile_cons]
  cases a <;> rfl

/-! ## Whole seconds -/

theorem toNat_wholeSeconds (q : ℚ) :
    (wholeSeconds q).toNat = min (UInt64.size - 1) (max 1 ⌈q⌉.toNat) :=
  UInt64.toNat_ofNat_of_lt (lt_of_le_of_lt (min_le_left _ _) (by decide))

theorem wholeSeconds_bounds (q : ℚ) :
    1 ≤ (wholeSeconds q).toNat ∧ (wholeSeconds q).toNat ≤ max 1 ⌈q⌉.toNat := by
  rw [toNat_wholeSeconds]
  exact ⟨le_min (by decide) (le_max_left _ _), min_le_right _ _⟩

theorem wholeSeconds_mono {q q' : ℚ} (h : q ≤ q') : wholeSeconds q ≤ wholeSeconds q' := by
  rw [UInt64.le_iff_toNat_le, toNat_wholeSeconds, toNat_wholeSeconds]
  exact min_le_min_left _ (max_le_max_left _ (Int.toNat_le_toNat (Int.ceil_mono h)))

/-- A number of seconds that is not the largest of all has not been cut. -/
theorem le_wholeSeconds {q : ℚ} (h : (wholeSeconds q).toNat < UInt64.size - 1) :
    q ≤ ((wholeSeconds q).toNat : ℚ) := by
  rw [toNat_wholeSeconds] at h ⊢
  rw [min_eq_right ((min_lt_iff.1 h).resolve_left (lt_irrefl _)).le]
  have hceil : ⌈q⌉ ≤ ((max 1 ⌈q⌉.toNat : Nat) : Int) :=
    le_trans (Int.self_le_toNat _) (Int.ofNat_le.2 (le_max_right _ _))
  exact_mod_cast Int.ceil_le.1 hceil

namespace Bucket

variable {s : LimitSettings ℚ} (b : Bucket ℚ) {now later : Int64}

theorem hint_bounds (hrate : 0 < s.rate) :
    1 ≤ (b.hint s now).toNat ∧
      (b.hint s now).toNat ≤ max 1 ⌈((s.capacity.toNat : ℚ) + 1) / s.rate⌉.toNat := by
  have hbounds := wholeSeconds_bounds
    ((1 + ((min b.backlog.toNat s.capacity.toNat : Nat) : ℚ) - b.level s now) / s.rate)
  refine ⟨hbounds.1, le_trans hbounds.2 (max_le_max_left _ (Int.toNat_le_toNat (Int.ceil_mono ?_)))⟩
  have hlevel := b.level_nonneg s now hrate.le
  have hbacklog : ((min b.backlog.toNat s.capacity.toNat : Nat) : ℚ) ≤ s.capacity.toNat :=
    Nat.cast_le.2 (min_le_right _ _)
  exact div_le_div_of_nonneg_right (by linarith) hrate.le

/-- Whoever tries after a refused attempt is not told to wait for a shorter time. -/
theorem hint_le_hint_refused (hrate : 0 < s.rate) : b.hint s now ≤ (b.refused s).hint s now := by
  have hbacklog : min b.backlog.toNat s.capacity.toNat ≤
      min (b.refused s).backlog.toNat s.capacity.toNat := by
    rw [toNat_backlog_refused]
    omega
  rw [hint, hint, level_refused]
  have hcast : ((min b.backlog.toNat s.capacity.toNat : Nat) : ℚ) ≤
      (min (b.refused s).backlog.toNat s.capacity.toNat : Nat) := Nat.cast_le.2 hbacklog
  exact wholeSeconds_mono (div_le_div_of_nonneg_right (by linarith) hrate.le)

/-- When the time that an attempt is told to wait is over, there is a token for it and one for each
    that counts in the backlog, as far as they fit. -/
theorem le_level_after_hint (hrate : 0 < s.rate) (hlast : b.lastRefill ≤ now)
    (hwait : now.toInt + 1000 * (b.hint s now).toNat ≤ later.toInt)
    (hfits : later.toInt < b.lastRefill.toInt + 2 ^ 63) :
    min (1 + ((min b.backlog.toNat s.capacity.toNat : Nat) : ℚ)) s.full ≤ b.level s later := by
  have hnow := Int64.le_toInt now
  have hlater := Int64.toInt_lt later
  have hsize : UInt64.size = 2 ^ 64 := rfl
  have huncut := le_wholeSeconds
    (q := (1 + ((min b.backlog.toNat s.capacity.toNat : Nat) : ℚ) - b.level s now) / s.rate)
    (by change (b.hint s now).toNat < _; omega)
  rw [div_le_iff₀ hrate] at huncut
  change _ ≤ ((b.hint s now).toNat : ℚ) * s.rate at huncut
  have hcomes : ((b.hint s now).toNat : ℚ) * s.rate ≤
      perSecond s.rate now.toInt later.toInt := by
    have hmillis : ((1000 * (b.hint s now).toNat : Int) : ℚ) ≤
        ((later.toInt - now.toInt : Int) : ℚ) := Int.cast_le.2 (by omega)
    rw [perSecond, le_div_iff₀ (by norm_num), mul_comm _ s.rate, mul_assoc]
    refine mul_le_mul_of_nonneg_left (le_trans (le_of_eq ?_) hmillis) hrate.le
    push_cast
    ring
  rw [level_eq_of_later s b hrate.le hlast (Int64.le_iff_toInt_le.2 (by omega)) hfits]
  exact min_le_min_right _ (by linarith)

end Bucket

/-! ## Runs -/

namespace Cluster

variable [BucketText ℚ]

/-- Attempts have left a bucket behind, with a number of them refused since the last admission.
    Whoever comes next finds it, or a full one if it has expired. -/
structure Remembers (c : Cluster) (s : LimitSettings ℚ) (user : UserId) (since time : Int64)
    (refused : Nat) (b : Bucket ℚ) : Prop where
  healthy : c.store.fault = none
  after : since ≤ b.lastRefill
  before : b.lastRefill ≤ time
  backlog : b.backlog.toNat = min refused s.capacity.toNat
  found : ∀ t, (c.profile? t.host).isSome →
    c.found s user t = b ∨ c.found s user t = s.fullBucket t.time

variable {c : Cluster} {s : LimitSettings ℚ} {user : UserId} {since time : Int64} {k : Nat}
  {b : Bucket ℚ} {t : Trial}

/-- To begin with, nothing is stored and nobody has been refused. -/
theorem remembers_begin (since : Int64) (h : c.store.fault = none)
    (hfresh : c.seen (Key.rateLimit user.text) = none) :
    c.Remembers s user since since 0 (s.fullBucket since) := by
  refine ⟨h, Int64.le_refl _, Int64.le_refl _, (Nat.zero_min _).symm, fun t ht => Or.inr ?_⟩
  rw [found_eq ht, hfresh]
  rfl

theorem Remembers.later (h : c.Remembers s user since time k b) {upto : Int64}
    (hle : time ≤ upto) : c.Remembers s user since upto k b :=
  { h with before := Int64.le_trans h.before hle }

/-- What has just been stored is left behind. -/
theorem Stores.remembers (hread : BucketText.Faithful ℚ) (h : c.Stores s user b)
    (hhealthy : c.store.fault = none) (hafter : since ≤ b.lastRefill)
    (hbefore : b.lastRefill ≤ time) (hbacklog : b.backlog.toNat = min k s.capacity.toNat) :
    c.Remembers s user since time k b :=
  ⟨hhealthy, hafter, hbefore, hbacklog, fun _ ht => h.found_cases hread ht⟩

/-- An attempt is admitted and nobody has been refused since, or it is refused by the bucket that
    was left behind, and told to wait, and is the next of those that were refused. -/
theorem Remembers.trial_cases (hread : BucketText.Faithful ℚ) (hs : s.InForce)
    (h : c.Remembers s user since time k b) (ht : (c.profile? t.host).isSome)
    (hle : time ≤ t.time) :
    (1 ≤ (c.found s user t).level s t.time ∧ (c.trial s user t).1 = .allowed ∧
        (c.trial s user t).2.Remembers s user since t.time 0
          (.taken s ((c.found s user t).level s t.time) t.time)) ∨
      (b.level s t.time < 1 ∧ (c.trial s user t).1 = .throttled (b.hint s t.time) ∧
        (c.trial s user t).2.Remembers s user since t.time (k + 1) (b.refused s)) := by
  have hhealthy : (c.trial s user t).2.store.fault = none := fault_trial.trans h.healthy
  have hsince : since ≤ t.time := Int64.le_trans (Int64.le_trans h.after h.before) hle
  rcases Cluster.trial_cases user hs h.healthy ht with
    ⟨hone, hanswer, hstores⟩ | ⟨hlow, hanswer, hstores⟩
  · exact Or.inl ⟨hone, hanswer, hstores.remembers hread hhealthy hsince (Int64.le_refl _)
      (Nat.zero_min _).symm⟩
  -- A full bucket refuses nobody, so it is the one that was left behind.
  · rcases h.found t ht with heq | heq
    · rw [heq] at hlow hanswer hstores
      refine Or.inr ⟨hlow, hanswer, hstores.remembers hread hhealthy h.after
        (Int64.le_trans h.before hle) ?_⟩
      rw [Bucket.toNat_backlog_refused, h.backlog]
      omega
    · rw [heq, Bucket.level_fullBucket] at hlow
      exact absurd hlow (not_lt.2 hs.one_le_full)

/-- When a refused attempt has waited for as long as it was told, there is a token for everybody who
    was refused, as far as they fit. -/
theorem Remembers.le_level_of_waited (hrate : 0 < s.rate) (h : c.Remembers s user since time k b)
    {n : Nat} (hn : n ≤ min (k + 1) s.capacity.toNat) :
    (n : ℚ) ≤ s.full ∧ ∀ later : Int64,
      time.toInt + 1000 * (b.hint s time).toNat ≤ later.toInt →
        later.toInt < since.toInt + 2 ^ 63 → (n : ℚ) ≤ (b.refused s).level s later := by
  have hbacklog : (n : ℚ) ≤
      min (1 + ((min b.backlog.toNat s.capacity.toNat : Nat) : ℚ)) s.full := by
    rw [h.backlog, Bucket.full_eq]
    exact_mod_cast (by omega : n ≤ min (1 + min (min k s.capacity.toNat) s.capacity.toNat)
      s.capacity.toNat)
  refine ⟨le_trans hbacklog (min_le_right _ _), fun later hwait hfits => ?_⟩
  have hrefill := Int64.le_iff_toInt_le.1 h.after
  rw [Bucket.level_refused]
  exact le_trans hbacklog (b.le_level_after_hint hrate h.before hwait (by omega))

/-- Attempts come one after another from `since` on, at instances that are there, and the difference
    of two readings is a number of 64 bits. -/
structure InTime (c : Cluster) (since : Int64) (ts : List Trial) : Prop where
  hosts : ∀ t ∈ ts, (c.profile? t.host).isSome
  since_le : ∀ t ∈ ts, since ≤ t.time
  fits : ∀ t ∈ ts, t.time.toInt < since.toInt + 2 ^ 63
  sorted : ts.Pairwise fun t u => t.time ≤ u.time

namespace InTime

variable {ts us : List Trial}

omit [BucketText ℚ] in
theorem sublist (h : c.InTime since ts) (hsub : us.Sublist ts) : c.InTime since us :=
  ⟨fun t ht => h.hosts t (hsub.subset ht), fun t ht => h.since_le t (hsub.subset ht),
    fun t ht => h.fits t (hsub.subset ht), h.sorted.sublist hsub⟩

omit [BucketText ℚ] in
theorem time_le (h : c.InTime since ts) {i j : Nat} (hij : i ≤ j) (hj : j < ts.length) :
    ts[i].time ≤ ts[j].time := by
  rcases Nat.eq_or_lt_of_le hij with rfl | hlt
  · exact Int64.le_refl _
  · exact List.pairwise_iff_getElem.1 h.sorted i j _ hj hlt

omit [BucketText ℚ] in
/-- Attempts that come later, where others have led. -/
theorem later (h : c.InTime since ts) {later : Int64} (hsince : since ≤ later)
    (hle : ∀ t ∈ ts, later ≤ t.time) {d : Cluster} (hprofiles : d.profile? = c.profile?) :
    d.InTime later ts := by
  refine ⟨fun t ht => hprofiles ▸ h.hosts t ht, hle, fun t ht => ?_, h.sorted⟩
  have hfit := h.fits t ht
  have hle' := Int64.le_iff_toInt_le.1 hsince
  omega

end InTime

/-- After any number of attempts. -/
theorem Remembers.run (hread : BucketText.Faithful ℚ) (hs : s.InForce)
    (h : c.Remembers s user since since 0 b) (ts : List Trial) (hts : c.InTime since ts)
    {upto : Int64} (hle : since ≤ upto) (hupto : ∀ t ∈ ts, t.time ≤ upto) :
    ∃ b', (c.afterTrials s user ts).Remembers s user since upto
      (refusedLast (c.trials s user ts)) b' := by
  -- On the attempts, with the last one taken off.
  induction ts using List.reverseRecOn generalizing upto with
  | nil => exact ⟨b, h.later hle⟩
  | append_singleton ts t ih =>
    have hmem : t ∈ ts ++ [t] := List.mem_append_right ts List.mem_cons_self
    have hbefore := (List.pairwise_append.1 hts.sorted).2.2
    rcases ih (hts.sublist (List.sublist_append_left ts [t])) (hts.since_le t hmem)
      (fun u hu => hbefore u hu t List.mem_cons_self) with ⟨b', hb'⟩
    have hthere : ((c.afterTrials s user ts).profile? t.host).isSome := by
      rw [(afterTrials_spec c s user ts).1]
      exact hts.hosts t hmem
    rw [afterTrials_concat, trials_append, trials, trials, refusedLast_concat]
    rcases hb'.trial_cases hread hs hthere (Int64.le_refl _) with
      ⟨_, hanswer, hafter⟩ | ⟨_, hanswer, hafter⟩
    · rw [hanswer]
      exact ⟨_, hafter.later (hupto t hmem)⟩
    · rw [hanswer]
      exact ⟨_, hafter.later (hupto t hmem)⟩

/-- As many are admitted as there are tokens, whenever they come. -/
theorem Remembers.trials_eq (hread : BucketText.Faithful ℚ) (hs : s.InForce) (ts : List Trial)
    (h : c.Remembers s user since time k b) (hts : c.InTime time ts)
    (hfull : (ts.length : ℚ) ≤ s.full) (hlevel : ∀ t ∈ ts, (ts.length : ℚ) ≤ b.level s t.time) :
    c.trials s user ts = List.replicate ts.length .allowed := by
  induction ts generalizing c k b time with
  | nil => rfl
  | cons t rest ih =>
    have hhost := hts.hosts t List.mem_cons_self
    have hle := hts.since_le t List.mem_cons_self
    have hrest : (c.trial s user t).2.InTime t.time rest :=
      (hts.sublist (List.sublist_cons_self t rest)).later hle (List.pairwise_cons.1 hts.sorted).1
        profile?_trial
    rw [List.forall_mem_cons] at hlevel
    rw [List.length_cons, Nat.cast_succ] at hfull hlevel
    have hlength : (0 : ℚ) ≤ rest.length := Nat.cast_nonneg _
    have hfound : (rest.length : ℚ) + 1 ≤ (c.found s user t).level s t.time := by
      rcases h.found t hhost with heq | heq
      · rw [heq]
        exact hlevel.1
      · rw [heq, Bucket.level_fullBucket]
        exact hfull
    rcases h.trial_cases hread hs hhost hle with ⟨hone, hanswer, hafter⟩ | ⟨hlow, _⟩
    · have hnoted := Bucket.noted_taken s t.time hone (Bucket.level_le s _ _)
      have hall := ih hafter hrest (by linarith) fun u _ =>
        le_trans (by linarith) (Bucket.noted_le_level s _ u.time hs.rate.le)
      rw [trials, hanswer, hall, List.length_cons, List.replicate_succ]
    · exact absurd hlow (not_lt.2 (by linarith [hlevel.1]))

/-! ## Those who are refused -/

section Refused

variable {ts : List Trial} {i j : Nat} {secs : UInt64}

/-- An attempt of a run that was refused: what it has found and what it has left behind, and how
    long it was told to wait. -/
theorem Remembers.refused_at (hread : BucketText.Faithful ℚ) (hs : s.InForce)
    (h : c.Remembers s user since since 0 b) (hts : c.InTime since ts) (hi : i < ts.length)
    (hsecs : (c.trials s user ts)[i]? = some (.throttled secs)) :
    ∃ (b : Bucket ℚ) (k : Nat), secs = b.hint s ts[i].time ∧
      refusedLast ((c.trials s user ts).take (i + 1)) = k + 1 ∧
      (c.afterTrials s user (ts.take i)).Remembers s user since ts[i].time k b ∧
      (c.afterTrials s user (ts.take (i + 1))).Remembers s user since ts[i].time (k + 1)
        (b.refused s) := by
  have hbefore : ∀ t ∈ ts.take i, t.time ≤ ts[i].time := by
    intro t ht
    rcases List.mem_take_iff_getElem.1 ht with ⟨n, hn, rfl⟩
    exact hts.time_le (by omega) hi
  rcases h.run hread hs (ts.take i) (hts.sublist (List.take_sublist i ts))
    (hts.since_le _ (List.getElem_mem hi)) hbefore with ⟨b', hb'⟩
  have hthere : ((c.afterTrials s user (ts.take i)).profile? ts[i].host).isSome := by
    rw [(afterTrials_spec c s user _).1]
    exact hts.hosts _ (List.getElem_mem hi)
  have hanswer := Option.some.inj ((getElem?_trials ts hi).symm.trans hsecs)
  rcases hb'.trial_cases hread hs hthere (Int64.le_refl _) with
    ⟨_, hallowed, _⟩ | ⟨_, hthrottled, hafter⟩
  · rw [hallowed] at hanswer
    exact absurd hanswer (by simp only [reduceCtorEq, not_false_eq_true])
  · refine ⟨b', _, Admission.throttled.inj (hanswer.symm.trans hthrottled), ?_, hb', ?_⟩
    · rw [List.take_add_one, hsecs, Option.toList_some, refusedLast_concat, take_trials]
      rfl
    · rw [List.take_succ_eq_append_getElem hi, afterTrials_concat]
      exact hafter

/-- The next attempt at the same reading is told to wait at least as long, if it is refused too. -/
theorem Remembers.hint_le_next (hread : BucketText.Faithful ℚ) (hs : s.InForce)
    (h : c.Remembers s user since since 0 b) (hts : c.InTime since ts) (hi : i + 1 < ts.length)
    (htime : ts[i].time = ts[i + 1].time)
    (hsecs : (c.trials s user ts)[i]? = some (.throttled secs)) {secs' : UInt64}
    (hsecs' : (c.trials s user ts)[i + 1]? = some (.throttled secs')) : secs ≤ secs' := by
  rcases h.refused_at hread hs hts (Nat.lt_of_succ_lt hi) hsecs with ⟨b', k, rfl, _, _, hafter⟩
  have hthere : ((c.afterTrials s user (ts.take (i + 1))).profile? ts[i + 1].host).isSome := by
    rw [(afterTrials_spec c s user _).1]
    exact hts.hosts _ (List.getElem_mem hi)
  have hanswer := Option.some.inj ((getElem?_trials ts hi).symm.trans hsecs')
  rcases hafter.trial_cases hread hs hthere (by rw [htime]; exact Int64.le_refl _) with
    ⟨_, hallowed, _⟩ | ⟨_, hthrottled, _⟩
  · rw [hallowed] at hanswer
    exact absurd hanswer (by simp only [reduceCtorEq, not_false_eq_true])
  · rw [Admission.throttled.inj (hanswer.symm.trans hthrottled), ← htime]
    exact b'.hint_le_hint_refused hs.rate

/-- If nobody tries in the time that an attempt is told to wait, then as many of the next ones are
    admitted as were refused, up to the capacity. -/
theorem Remembers.allowed_after_hint (hread : BucketText.Faithful ℚ) (hs : s.InForce)
    (h : c.Remembers s user since since 0 b) (hts : c.InTime since ts) (hij : i < j)
    (hj : j < ts.length) (hsecs : (c.trials s user ts)[i]? = some (.throttled secs))
    (hcount : j ≤ i + min (refusedLast ((c.trials s user ts).take (i + 1))) s.capacity.toNat)
    (hwait : ts[i].time.toInt + 1000 * secs.toNat ≤ ts[i + 1].time.toInt) :
    (c.trials s user ts)[j]? = some .allowed := by
  rcases h.refused_at hread hs hts (hij.trans hj) hsecs with ⟨b', k, rfl, hk, hfound, hleft⟩
  rw [hk] at hcount
  rcases hfound.le_level_of_waited hs.rate (n := j - i) (by omega) with ⟨hfull, hlevel⟩
  -- The attempts up to the one in question.
  have hsub : ((ts.drop (i + 1)).take (j - i)).Sublist ts :=
    (List.take_sublist _ _).trans (List.drop_sublist _ _)
  have hlength : ((ts.drop (i + 1)).take (j - i)).length = j - i := by
    rw [List.length_take, List.length_drop]
    omega
  have hlater : ∀ t ∈ (ts.drop (i + 1)).take (j - i), ts[i + 1].time ≤ t.time := by
    intro t ht
    rcases List.mem_drop_iff_getElem.1 (List.mem_of_mem_take ht) with ⟨n, hn, rfl⟩
    exact hts.time_le (Nat.le_add_right _ _) _
  have hnext : ts[i].time ≤ ts[i + 1].time := hts.time_le (Nat.le_succ i) _
  have hblock := (hts.sublist hsub).later (hts.since_le _ (List.getElem_mem (hij.trans hj)))
    (fun t ht => Int64.le_trans hnext (hlater t ht))
    (afterTrials_spec c s user (ts.take (i + 1))).1
  have hall := hleft.trials_eq hread hs _ hblock (by rw [hlength]; exact hfull) fun t ht => by
    rw [hlength]
    exact hlevel t.time (le_trans hwait (Int64.le_iff_toInt_le.1 (hlater t ht)))
      (hts.fits t (hsub.subset ht))
  rw [hlength] at hall
  exact getElem?_trials_of_next ts hij hall

end Refused

end Cluster

/-- Attempts at readings that do not fall, with nothing stored to begin with. Whoever is refused is
    told to wait at least one second, and no longer than a bucket and one more token take. As long
    as everybody is refused at one reading, nobody is told to wait for a shorter time than the one
    before. If the seconds that one of them is told go by without an attempt, then as many of the
    next attempts are admitted as were refused since the last admission, up to the capacity. -/
theorem Cluster.hints_honest [BucketText ℚ] (hread : BucketText.Faithful ℚ) {c : Cluster}
    {s : LimitSettings ℚ} (user : UserId) (since : Int64) (ts : List Trial)
    (henabled : s.enabled = true) (hcapacity : 1 ≤ s.capacity) (hrate : 0 < s.rate)
    (hhealthy : c.store.fault = none) (hfresh : c.seen (Key.rateLimit user.text) = none)
    (hhosts : ∀ t ∈ ts, (c.profile? t.host).isSome) (hsince : ∀ t ∈ ts, since ≤ t.time)
    (hfits : ∀ t ∈ ts, t.time.toInt < since.toInt + 2 ^ 63)
    (hsorted : ts.Pairwise fun t u => t.time ≤ u.time) :
    let given := c.trials s user ts
    (∀ secs, .throttled secs ∈ given →
        1 ≤ secs.toNat ∧
          secs.toNat ≤ max 1 ⌈((s.capacity.toNat : ℚ) + 1) / s.rate⌉.toNat) ∧
      (∀ i secs secs', (hi : i + 1 < ts.length) → ts[i].time = ts[i + 1].time →
        given[i]? = some (.throttled secs) → given[i + 1]? = some (.throttled secs') →
        secs ≤ secs') ∧
      ∀ i j secs, (hij : i < j) → (hj : j < ts.length) → given[i]? = some (.throttled secs) →
        j ≤ i + min (refusedLast (given.take (i + 1))) s.capacity.toNat →
        ts[i].time.toInt + 1000 * secs.toNat ≤ ts[i + 1].time.toInt →
        given[j]? = some .allowed := by
  intro given
  have hs : s.InForce := ⟨henabled, hcapacity, hrate⟩
  have hts : c.InTime since ts := ⟨hhosts, hsince, hfits, hsorted⟩
  have hbegin := remembers_begin (s := s) since hhealthy hfresh
  refine ⟨fun secs hsecs => ?_, ?_, ?_⟩
  · rcases List.getElem?_of_mem hsecs with ⟨i, hi⟩
    have hlength : given.length = ts.length := length_trials ts
    have hlt : i < ts.length := hlength ▸ (List.getElem?_eq_some_iff.1 hi).1
    rcases hbegin.refused_at hread hs hts hlt hi with ⟨b, _, rfl, _⟩
    exact b.hint_bounds hrate
  · intro i secs secs' hi htime hsecs hsecs'
    exact hbegin.hint_le_next hread hs hts hi htime hsecs hsecs'
  · intro i j secs hij hj hsecs hcount hwait
    exact hbegin.allowed_after_hint hread hs hts hij hj hsecs hcount hwait

/-- A user tries five times at once and has used up the bucket by then. The last one is told to wait
    for three seconds, and after these the user tries twice. -/
def patient : List Trial :=
  [⟨0, 1000, 0⟩, ⟨1, 1000, 0⟩, ⟨0, 1000, 0⟩, ⟨1, 1000, 0⟩, ⟨0, 1000, 0⟩, ⟨1, 4000, 3000⟩,
    ⟨0, 4000, 0⟩]

/-- With two tokens to begin with and one more for each second, three were refused, and a bucket of
    two tokens has come in. -/
theorem hints_honest_patient :
    (twoInstances.trials (.perMinute 2 60) ⟨"u"⟩ patient).take 5 =
        [.allowed, .allowed, .throttled 1, .throttled 2, .throttled 3] ∧
      (twoInstances.trials (.perMinute 2 60) ⟨"u"⟩ patient)[6]? = some .allowed := by
  have hrate : (LimitSettings.perMinute 2 60 : LimitSettings ℚ).rate = 1 :=
    LimitSettings.rate_perMinute_sixty 2
  have hrefused : (twoInstances.trials (.perMinute 2 60) ⟨"u"⟩ patient).take 5 =
      [.allowed, .allowed, .throttled 1, .throttled 2, .throttled 3] := by
    decide +kernel
  have hlast : (twoInstances.trials (.perMinute 2 60) ⟨"u"⟩ patient)[4]? = some (.throttled 3) := by
    rw [← List.getElem?_take_of_lt (by decide : 4 < 5), hrefused]
    rfl
  have hhonest := Cluster.hints_honest faithful_exact (c := twoInstances) (s := .perMinute 2 60)
    ⟨"u"⟩ 0 patient rfl (by decide) (by rw [hrate]; norm_num) rfl rfl (by decide) (by decide)
    (by decide) (by decide)
  refine ⟨hrefused, hhonest.2.2 4 6 3 (by decide) (by decide) hlast ?_ (by decide)⟩
  rw [hrefused]
  decide

end ChatCluster
