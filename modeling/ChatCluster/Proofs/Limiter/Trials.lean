import ChatCluster.Proofs.Limiter.Admission

/-!
# Trials

One user attempts to send, again and again, at whatever instances. The attempts come one after
another. Between them some time goes by in the store, and the clock of each instance shows what it
likes: nothing is said here about how one has to do with the other, and clocks may go back.

Whoever comes next finds what was left behind, or a full bucket if that has expired. If less time
goes by than buckets are kept, it has not.

## Main definitions

* `Trial`, `Cluster.trial`, `Cluster.trials`: Attempts, and how they are answered.
* `Cluster.found`: The bucket that an attempt finds.
* `Cluster.Stores`: A bucket has been stored at this moment.

## Theorems

* `Cluster.trial_cases`: An attempt is answered by the bucket that it finds, and stores the rest.
* `Cluster.Stores.found_cases`, `Cluster.Stores.found_eq`: What is found of a bucket.
* `Cluster.trials_append`, `Cluster.take_trials`, `Cluster.drop_trials`: Parts of a run.
-/

namespace ChatCluster

/-- An attempt of a user at an instance. -/
structure Trial where
  /-- The number of the instance. -/
  host : Nat
  /-- What the clock of the instance shows. -/
  time : Int64
  /-- How many milliseconds go by in the store before the attempt. -/
  wait : Nat
  deriving DecidableEq, Repr

namespace Cluster

variable (c : Cluster) (s : LimitSettings ℚ) (user : UserId)

/-- The cluster at the time of an attempt. -/
def trying (t : Trial) : Cluster :=
  { c.updateHost t.host (fun h => { h with clock := t.time }) with now := c.now + t.wait }

section
variable [BucketText ℚ]

/-- How an attempt is answered, and what the cluster is then. -/
def trial (t : Trial) : Admission × Cluster :=
  (c.trying t).runAlone t.host (RateLimiter.check s user)

/-- How attempts are answered, one after another. -/
def trials (c : Cluster) : List Trial → List Admission
  | [] => []
  | t :: rest => (c.trial s user t).1 :: trials (c.trial s user t).2 rest

/-- The cluster after some attempts. -/
def afterTrials (ts : List Trial) : Cluster :=
  ts.foldl (fun c t => (c.trial s user t).2) c

/-- The bucket that an attempt finds. -/
def found (t : Trial) : Bucket ℚ :=
  (c.trying t).bucketFor t.host s user

/-- A bucket has been stored at this moment. -/
def Stores (b : Bucket ℚ) : Prop :=
  c.seen (Key.rateLimit user.text) = s.written b c.now

end

variable {c s user} {t : Trial}

theorem profile?_trying : (c.trying t).profile? = c.profile? :=
  funext fun other => profile?_updateHost c t.host other fun _ => rfl

theorem clockOf_trying (ht : (c.profile? t.host).isSome) :
    (c.trying t).clockOf t.host = t.time :=
  clockOf_updateHost ht t.time

variable [BucketText ℚ]

theorem profile?_trial : (c.trial s user t).2.profile? = c.profile? :=
  (funext fun other => profile?_runAlone t.host _ (c.trying t) other).trans profile?_trying

theorem fault_trial : (c.trial s user t).2.store.fault = c.store.fault :=
  fault_runAlone t.host _ (c.trying t)

theorem found_eq (ht : (c.profile? t.host).isSome) :
    c.found s user t =
      (bucketIn ((c.seen (Key.rateLimit user.text)).filter
        fun slot => slot.isLive (c.now + t.wait))).getD (s.fullBucket t.time) := by
  rw [← seen_wait, found, bucketFor, clockOf_trying ht]
  rfl

/-- An attempt is answered by the bucket that it finds, and what is left of it is stored. -/
theorem trial_cases (user : UserId) (hs : s.InForce) (h : c.store.fault = none)
    (ht : (c.profile? t.host).isSome) :
    (1 ≤ (c.found s user t).level s t.time ∧ (c.trial s user t).1 = .allowed ∧
        (c.trial s user t).2.Stores s user
          (.taken s ((c.found s user t).level s t.time) t.time)) ∨
      ((c.found s user t).level s t.time < 1 ∧
        (c.trial s user t).1 = .throttled ((c.found s user t).hint s t.time) ∧
        (c.trial s user t).2.Stores s user ((c.found s user t).refused s)) := by
  have hcheck := runAlone_check (c := c.trying t) t.host user s hs.limits h
  rw [clockOf_trying ht] at hcheck
  have hnow : (c.trial s user t).2.now = (c.trying t).now := now_runAlone t.host _ (c.trying t)
  have hanswer : (c.trial s user t).1 = ((c.found s user t).draw s t.time).1 := hcheck.1
  have hstores : (c.trial s user t).2.Stores s user ((c.found s user t).draw s t.time).2 := by
    rw [Stores, hnow]
    exact (congrFun hcheck.2 (Key.rateLimit user.text)).trans (Function.update_self _ _ _)
  rcases (c.found s user t).draw_cases s t.time with ⟨hone, hdraw⟩ | ⟨hlow, hdraw⟩
  · rw [hdraw] at hanswer hstores
    exact Or.inl ⟨hone, hanswer, hstores⟩
  · rw [hdraw] at hanswer hstores
    exact Or.inr ⟨hlow, hanswer, hstores⟩

/-- Of a bucket that has been stored, the next attempt finds all, or a full one if it has
    expired. -/
theorem Stores.found_cases (hread : BucketText.Faithful ℚ) {b : Bucket ℚ} (h : c.Stores s user b)
    (ht : (c.profile? t.host).isSome) :
    c.found s user t = b ∨ c.found s user t = s.fullBucket t.time := by
  rw [found_eq ht, h]
  cases hslot : (s.written b c.now).filter fun slot => slot.isLive (c.now + t.wait) with
  | none => exact Or.inr rfl
  | some slot =>
    rw [bucketIn_written hread (Option.eq_some_of_filter_eq_some hslot)]
    exact Or.inl rfl

/-- A bucket that has been stored is found if no more time has gone by than it is kept. -/
theorem Stores.found_eq (hread : BucketText.Faithful ℚ) {b : Bucket ℚ} (h : c.Stores s user b)
    (ht : (c.profile? t.host).isSome) (hlasting : t.wait < s.idleTtl) : c.found s user t = b := by
  cases hslot : (s.written b c.now).filter fun slot => slot.isLive (c.now + t.wait) with
  | none => exact absurd (le_of_renewed_gone (Nat.le_add_right _ _) hslot) (by omega)
  | some slot =>
    rw [Cluster.found_eq ht, h, hslot,
      bucketIn_written hread (Option.eq_some_of_filter_eq_some hslot)]
    rfl

/-! ## Runs -/

theorem afterTrials_spec (c : Cluster) (s : LimitSettings ℚ) (user : UserId) (ts : List Trial) :
    (c.afterTrials s user ts).profile? = c.profile? ∧
      (c.afterTrials s user ts).store.fault = c.store.fault := by
  induction ts generalizing c with
  | nil => exact ⟨rfl, rfl⟩
  | cons t ts ih =>
    rcases ih (c.trial s user t).2 with ⟨hprofiles, hfault⟩
    exact ⟨hprofiles.trans profile?_trial, hfault.trans fault_trial⟩

theorem length_trials (ts : List Trial) : (c.trials s user ts).length = ts.length := by
  induction ts generalizing c with
  | nil => rfl
  | cons t ts ih => exact congrArg (· + 1) ih

theorem trials_append (first rest : List Trial) :
    c.trials s user (first ++ rest) =
      c.trials s user first ++ (c.afterTrials s user first).trials s user rest := by
  induction first generalizing c with
  | nil => rfl
  | cons t first ih => exact congrArg (_ :: ·) ih

theorem afterTrials_concat (ts : List Trial) (t : Trial) :
    c.afterTrials s user (ts ++ [t]) = ((c.afterTrials s user ts).trial s user t).2 :=
  List.foldl_concat _ _ _ _

theorem take_trials (ts : List Trial) (n : Nat) :
    (c.trials s user ts).take n = c.trials s user (ts.take n) := by
  induction ts generalizing c n with
  | nil => simp only [trials, List.take_nil]
  | cons t ts ih =>
    cases n with
    | zero => rfl
    | succ n => exact congrArg (_ :: ·) (ih n)

/-- The answers from some attempt on are those that the rest get where it begins. -/
theorem drop_trials (ts : List Trial) (n : Nat) :
    (c.trials s user ts).drop n =
      (c.afterTrials s user (ts.take n)).trials s user (ts.drop n) := by
  induction ts generalizing c n with
  | nil => simp only [trials, List.drop_nil]
  | cons t ts ih =>
    cases n with
    | zero => rfl
    | succ n => exact ih n

/-- An attempt is answered where those before it have led. -/
theorem getElem?_trials (ts : List Trial) {i : Nat} (hi : i < ts.length) :
    (c.trials s user ts)[i]? =
      some ((c.afterTrials s user (ts.take i)).trial s user ts[i]).1 := by
  have hfirst : ((c.trials s user ts).drop i)[0]? = (c.trials s user ts)[i]? := List.getElem?_drop
  rw [← hfirst, drop_trials, List.drop_eq_getElem_cons hi]
  rfl

/-- If the next attempts are all answered alike, so is each of them. -/
theorem getElem?_trials_of_next (ts : List Trial) {i j : Nat} (hij : i < j) {a : Admission}
    (h : (c.afterTrials s user (ts.take (i + 1))).trials s user ((ts.drop (i + 1)).take (j - i)) =
      List.replicate (j - i) a) : (c.trials s user ts)[j]? = some a := by
  rw [← take_trials, ← drop_trials] at h
  have hlast : (((c.trials s user ts).drop (i + 1)).take (j - i))[j - i - 1]? =
      (c.trials s user ts)[j]? := by
    rw [List.getElem?_take_of_lt (by omega), List.getElem?_drop]
    congr 1
    omega
  rw [← hlast, h, List.getElem?_replicate, if_pos (by omega)]

end Cluster

end ChatCluster
