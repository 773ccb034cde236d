import ChatCluster.Proofs.Limiter.Spans
import Mathlib.Data.Finset.Card

/-!
# What Overlapping Attempts Cost

When attempts overlap, more may be admitted than the bucket allows, since each of them draws from
what it has found and the last one to write decides what is left. But those who overlap with nobody
are not admitted too often: over any span of time they take no more than a full bucket holds, and
what comes in during the span. So the excess is made up by those who overlap.

The level of the stored bucket may go up again, whenever somebody writes back what is left of a
bucket found long ago. What holds all the same is that every bucket that may still be drawn from
backs what has been admitted so far: its level, and one token for each attempt that was admitted
and overlaps with nobody, come to no more than a full bucket and what has come in
(`LimitSettings.Backs`). While an attempt is open, nobody who writes is alone. So nobody else
counts, and the bucket that the attempt has found backs as much when it is written back as when it
was found.

## Main definitions

* `LimitSettings.Backs`: A bucket backs what has been admitted.
* `Interplay.admitted`, `Interplay.alone`: Who was admitted, and who of them overlaps with nobody.
* `Backing`: Every bucket that may be drawn from backs what has been admitted.

## Theorems

* `Backing.step`, `Backing.run`: What every turn preserves.
* `admitted_alone_le`: How many are admitted that overlap with nobody, and how many in all.
-/

namespace ChatCluster

/-! ## Backing -/

/-- A level at a time, and a token for each of a number of attempts that were admitted since a time
    before, come to no more than a full bucket and what has come in. If none was, nothing is said,
    as the level may be that of a time before the span. -/
def LimitSettings.Backs (limits : LimitSettings ℚ) (since : Int64) (n : Nat) (b : Bucket ℚ)
    (time : Int64) : Prop :=
  n = 0 ∨ b.level limits time + n ≤ limits.full + perSecond limits.rate since.toInt time.toInt

namespace LimitSettings.Backs

variable {limits : LimitSettings ℚ} {since upto time after : Int64} {n k : Nat} {b : Bucket ℚ}

theorem mono (h : limits.Backs since n b time) (hk : k ≤ n) : limits.Backs since k b time := by
  rcases h with rfl | hle
  · exact Or.inl (Nat.le_zero.1 hk)
  · have hcast : (k : ℚ) ≤ n := Nat.cast_le.2 hk
    exact Or.inr (by linarith)

-- As time passes, what has come in grows as fast as the level, or faster.
theorem later (hs : limits.InForce) (h : limits.Backs since n b time) (hafter : time ≤ after) :
    limits.Backs since n b after := by
  rcases h with hzero | hle
  · exact Or.inl hzero
  · have hgrows := Bucket.level_later limits b hs.rate.le hafter
    have hsum := perSecond_add limits.rate since.toInt time.toInt after.toInt
    exact Or.inr (by linarith)

theorem draw (h : limits.Backs since n b time) :
    limits.Backs since n (b.draw limits time).2 time := by
  rcases h with hzero | hle
  · exact Or.inl hzero
  · have hleft := Bucket.level_draw limits b time
    have htaken : (0 : ℚ) ≤ if (b.draw limits time).1.isAllowed then 1 else 0 := by
      split <;> norm_num
    exact Or.inr (by linarith)

theorem level_add_le (hs : limits.InForce) (h : limits.Backs since n b time)
    (hsince : since ≤ time) :
    b.level limits time + n ≤ limits.full + perSecond limits.rate since.toInt time.toInt := by
  rcases h with rfl | hle
  · have hfull := Bucket.level_le limits b time
    have hcomes := perSecond_nonneg hs.rate.le (Int64.le_iff_toInt_le.1 hsince)
    rw [Nat.cast_zero]
    linarith
  · exact hle

/-- What is left when an attempt has been admitted backs this one too. -/
theorem draw_allowed (hs : limits.InForce) (h : limits.Backs since n b time) (hsince : since ≤ time)
    (hallowed : (b.draw limits time).1.isAllowed = true) :
    limits.Backs since (n + 1) (b.draw limits time).2 time := by
  have hleft := Bucket.level_draw limits b time
  rw [if_pos hallowed] at hleft
  have hle := h.level_add_le hs hsince
  refine Or.inr ?_
  push_cast
  linarith

-- Whoever is admitted has found a token, which stands for the attempt itself in the bound.
theorem succ_le (hs : limits.InForce) (h : limits.Backs since n b time) (hsince : since ≤ time)
    (hupto : time ≤ upto) (hallowed : (b.draw limits time).1.isAllowed = true) :
    ((n + 1 : Nat) : ℚ) ≤ limits.full + perSecond limits.rate since.toInt upto.toInt := by
  rw [Bucket.isAllowed_draw, decide_eq_true_eq] at hallowed
  have hle := h.level_add_le hs hsince
  have hcomes := perSecond_nonneg hs.rate.le (Int64.le_iff_toInt_le.1 hupto)
  have hsum := perSecond_add limits.rate since.toInt time.toInt upto.toInt
  push_cast
  linarith

end LimitSettings.Backs

/-! ## Who is admitted -/

/-- An attempt was admitted, and had read a time between two others. -/
def Phase.admits (limits : LimitSettings ℚ) (since upto : Int64) : Phase → Bool
  | .written time found =>
    (found.draw limits time).1.isAllowed && decide (since ≤ time) && decide (time ≤ upto)
  | .fresh | .timed _ | .holding _ _ => false

namespace Interplay

/-- The attempts that have read a time between two others and were admitted. -/
def admitted (since upto : Int64) (s : Interplay Admission) : Finset Nat :=
  (Finset.range s.errands.length).filter fun i =>
    s.within since upto i = true ∧ s.result? i = some .allowed

/-- The operations that have read a time between two others and overlap with some other. -/
def lapped {α : Type} (key : String) (since upto : Int64) (s : Interplay α) : Finset Nat :=
  (Finset.range s.errands.length).filter fun i =>
    s.within since upto i = true ∧ s.isolated key i = false

/-- The attempts that are as good as admitted, and overlap with nobody. -/
def alone [BucketText ℚ] (limits : LimitSettings ℚ) (user : UserId) (since upto : Int64)
    (s : Interplay Admission) : Finset Nat :=
  (Finset.range s.errands.length).filter fun i =>
    s.isolated (Key.rateLimit user.text) i = true ∧
      (s.phase limits user i).admits limits since upto = true

/-- Whoever has looked at the bucket had read no later time. -/
def NotBefore [BucketText ℚ] (limits : LimitSettings ℚ) (user : UserId) (s : Interplay Admission)
    (time : Int64) : Prop :=
  ∀ i < s.errands.length, (s.phase limits user i).hasLooked = true →
    ∀ earlier, (s.phase limits user i).time? = some earlier → earlier ≤ time

end Interplay

section Turns

variable [BucketText ℚ] {limits : LimitSettings ℚ} {user : UserId} {since upto : Int64}
  {s t : Interplay Admission} {m : Moment}

theorem mem_alone_iff {i : Nat} :
    i ∈ s.alone limits user since upto ↔
      i < s.errands.length ∧ s.isolated (Key.rateLimit user.text) i = true ∧
        (s.phase limits user i).admits limits since upto = true := by
  rw [Interplay.alone, Finset.mem_filter, Finset.mem_range]

theorem Stepped.isolated (hm : Stepped limits user s t m) {key : String} {i : Nat}
    (h : t.isolated key i = true) : s.isolated key i = true := by
  rw [Interplay.isolated_iff] at h ⊢
  intro j hj hne
  have hlater := h j (hm.length ▸ hj) hne
  rw [hm.past] at hlater
  exact Bool.eq_false_iff.2 fun hoverlap =>
    Bool.eq_false_iff.1 hlater (Record.overlap_append hoverlap [m])

/-- The one that has taken the step may have joined those who are alone, and nobody else. -/
theorem Stepped.alone_subset (hm : Stepped limits user s t m) :
    t.alone limits user since upto ⊆ insert m.errand (s.alone limits user since upto) := by
  intro i hi
  rcases mem_alone_iff.1 hi with ⟨hlt, halone, hadmits⟩
  by_cases heq : i = m.errand
  · exact Finset.mem_insert.2 (Or.inl heq)
  · rw [hm.others i heq] at hadmits
    exact Finset.mem_insert_of_mem
      (mem_alone_iff.2 ⟨hm.length ▸ hlt, hm.isolated halone, hadmits⟩)

theorem Stepped.card_alone_le (hm : Stepped limits user s t m)
    (hnot : m.errand ∈ t.alone limits user since upto → m.errand ∈ s.alone limits user since upto) :
    (t.alone limits user since upto).card ≤ (s.alone limits user since upto).card := by
  refine Finset.card_le_card fun i hi => ?_
  rcases Finset.mem_insert.1 (hm.alone_subset hi) with rfl | hold
  · exact hnot hi
  · exact hold

/-- Every bucket that may be drawn from backs those who were admitted and are alone. -/
structure Backing (limits : LimitSettings ℚ) (user : UserId) (since upto : Int64)
    (s : Interplay Admission) : Prop extends Attending limits user s where
  /-- The bucket that is stored does. -/
  stored : ∀ slot, s.cluster.seen (Key.rateLimit user.text) = some slot →
    (s.alone limits user since upto).card = 0 ∨ ∃ b, bucketIn (some slot) = some b ∧
      ∀ time, s.NotBefore limits user time →
        limits.Backs since (s.alone limits user since upto).card b time
  /-- And those that attempts hold. -/
  held : ∀ i < s.errands.length, ∀ time found, s.phase limits user i = .holding time found →
    limits.Backs since (s.alone limits user since upto).card found time
  total : ((s.alone limits user since upto).card : ℚ) ≤
    limits.full + perSecond limits.rate since.toInt upto.toInt

-- Three of the four kinds of step store nothing, and are dealt with at once.
theorem Backing.quiet (h : Backing limits user since upto s) (hm : Stepped limits user s t m)
    (ht : Attending limits user t) (hseen : m.after.seen = m.before.seen)
    (hadmits : (t.phase limits user m.errand).admits limits since upto = true →
      (s.phase limits user m.errand).admits limits since upto = true)
    (hheld : ∀ time found, t.phase limits user m.errand = .holding time found →
      limits.Backs since (s.alone limits user since upto).card found time)
    (hkept : (s.phase limits user m.errand).hasLooked = true →
      t.phase limits user m.errand = s.phase limits user m.errand) :
    Backing limits user since upto t := by
  have hcard : (t.alone limits user since upto).card ≤ (s.alone limits user since upto).card := by
    refine hm.card_alone_le fun hin => ?_
    rcases mem_alone_iff.1 hin with ⟨_, halone, hnew⟩
    exact mem_alone_iff.2 ⟨hm.lt, hm.isolated halone, hadmits hnew⟩
  refine { ht with
    stored := fun slot hslot => ?_, held := fun i hi time found hp => ?_, total := ?_ }
  · rw [hm.cluster, hseen, hm.before] at hslot
    rcases h.stored slot hslot with hzero | ⟨b, hb, hbacks⟩
    · exact Or.inl (Nat.le_zero.1 (hzero ▸ hcard))
    · refine Or.inr ⟨b, hb, fun time htime => ?_⟩
      refine (hbacks time fun i hi hlooked earlier hread => ?_).mono hcard
      by_cases heq : i = m.errand
      · subst heq
        have hsame := hkept hlooked
        rw [← hsame] at hlooked hread
        exact htime _ (hm.length ▸ hi) hlooked earlier hread
      · rw [← hm.others i heq] at hlooked hread
        exact htime i (hm.length ▸ hi) hlooked earlier hread
  · by_cases heq : i = m.errand
    · subst heq
      exact (hheld time found hp).mono hcard
    · rw [hm.others i heq] at hp
      exact (h.held i (hm.length ▸ hi) time found hp).mono hcard
  · exact le_trans (Nat.cast_le.2 hcard) h.total

/-- Whoever looks now finds a bucket that backs those who were admitted, or there are none. -/
theorem Backing.look (h : Backing limits user since upto s) (hm : Stepped limits user s t m)
    (horder : Record.InOrder (Key.rateLimit user.text) t.past)
    (hlasting : Record.Lasting (Key.rateLimit user.text) t.past)
    (hlooks : m.effect.loads (Key.rateLimit user.text) = true) {time : Int64}
    (htime : s.phase limits user m.errand = .timed time) :
    limits.Backs since (s.alone limits user since upto).card
      ((bucketIn (m.before.seen (Key.rateLimit user.text))).getD (limits.fullBucket time))
      time := by
  rw [hm.past] at horder hlasting
  rcases (s.alone limits user since upto).eq_empty_or_nonempty with hempty | ⟨i, hi⟩
  · exact Or.inl (by rw [hempty, Finset.card_empty])
  -- Somebody who was admitted has written, so there is something to be found.
  · rcases mem_alone_iff.1 hi with ⟨hlt, _, hadmits⟩
    have hwrote : Record.did (Effect.saves (Key.rateLimit user.text)) s.past i = true := by
      rw [(h.recalls i hlt).wrote]
      cases hp : s.phase limits user i with
      | written => rfl
      | fresh | timed | holding =>
        rw [hp] at hadmits
        exact absurd hadmits Bool.false_ne_true
    rcases Option.isSome_iff_exists.1 (hlasting.isSome_concat hlooks hwrote) with ⟨slot, hslot⟩
    rcases h.stored slot (hm.before ▸ hslot) with hzero | ⟨b, hb, hbacks⟩
    · exact Or.inl hzero
    · rw [hslot, hb, Option.getD_some]
      refine hbacks time fun j hj hlooked earlier hread => ?_
      have hjust : Record.reading? s.past m.errand = some time := by
        rw [(h.recalls _ hm.lt).reading, htime]
        rfl
      exact horder.le_concat hlooks ((h.recalls j hj).looked.trans hlooked)
        ((h.recalls j hj).reading.trans hread) hjust

/-- What an attempt writes back backs those who were admitted, itself included if it is alone. While
    it was open, nobody else was. -/
theorem Backing.write (hread : BucketText.Faithful ℚ) (hs : limits.InForce)
    (h : Backing limits user since upto s) (hm : Stepped limits user s t m)
    (ht : Attending limits user t) {time : Int64} {found : Bucket ℚ}
    (hold : s.phase limits user m.errand = .holding time found)
    (hnew : t.phase limits user m.errand = .written time found)
    (hseen : m.after.seen (Key.rateLimit user.text) =
      limits.written (found.draw limits time).2 m.before.now) :
    Backing limits user since upto t := by
  have hbacks := h.held _ hm.lt _ _ hold
  have hcount : ∃ n, (t.alone limits user since upto).card ≤ n ∧
      limits.Backs since n (found.draw limits time).2 time ∧
      (n : ℚ) ≤ limits.full + perSecond limits.rate since.toInt upto.toInt ∧
      ∀ i < s.errands.length, i ≠ m.errand → ∀ time found,
        s.phase limits user i = .holding time found → limits.Backs since n found time := by
    by_cases hin : m.errand ∈ t.alone limits user since upto
    · rcases mem_alone_iff.1 hin with ⟨_, halone, hadmits⟩
      rw [hnew] at hadmits
      simp only [Phase.admits, Bool.and_eq_true, decide_eq_true_eq] at hadmits
      rcases hadmits with ⟨⟨hallowed, hsince⟩, hupto⟩
      refine ⟨(s.alone limits user since upto).card + 1,
        (Finset.card_le_card hm.alone_subset).trans (Finset.card_insert_le _ _),
        hbacks.draw_allowed hs hsince hallowed, hbacks.succ_le hs hsince hupto hallowed, ?_⟩
      -- Another attempt that holds a bucket would overlap with this one.
      intro i hi hne time' found' hp
      have hoverlap := Record.overlap_of_isOpen (h.isOpen hm.lt hold) (h.isOpen hi hp) [m]
      rw [← hm.past, Interplay.isolated_iff.1 halone i (hm.length ▸ hi) hne] at hoverlap
      exact absurd hoverlap Bool.false_ne_true
    · exact ⟨(s.alone limits user since upto).card, hm.card_alone_le fun h => absurd h hin,
        hbacks.draw, h.total, fun i hi _ => h.held i hi⟩
  rcases hcount with ⟨n, hcard, hleft, htotal, hheld⟩
  refine { ht with
    stored := fun slot hslot => ?_, held := fun i hi time' found' hp => ?_, total := ?_ }
  · rw [hm.cluster, hseen] at hslot
    refine Or.inr ⟨_, bucketIn_written hread hslot, fun time' htime => ?_⟩
    have hle : time ≤ time' := by
      refine htime m.errand (hm.length ▸ hm.lt) ?_ time ?_ <;> rw [hnew] <;> rfl
    exact (hleft.later hs hle).mono hcard
  · have hne : i ≠ m.errand := by
      rintro rfl
      rw [hnew] at hp
      cases hp
    rw [hm.others i hne] at hp
    exact (hheld i (hm.length ▸ hi) hne time' found' hp).mono hcard
  · exact le_trans (Nat.cast_le.2 hcard) htotal

/-- What every step preserves. -/
theorem Backing.step (hread : BucketText.Faithful ℚ) (hs : limits.InForce)
    (h : Backing limits user since upto s) {i : Nat}
    (horder : Record.InOrder (Key.rateLimit user.text) (s.step i).past)
    (hlasting : Record.Lasting (Key.rateLimit user.text) (s.step i).past) :
    Backing limits user since upto (s.step i) := by
  have ht := h.toAttending.step i
  rcases h.step_cases i with hsame | ⟨m, hm⟩
  · rw [hsame]
    exact h
  · have hquiet := h.quiet hm ht
    have hadvance := hm.advance
    generalize hold : s.phase limits user m.errand = p,
      hnew : (s.step i).phase limits user m.errand = p' at hadvance hquiet
    cases hadvance with
    | reads _ hseen =>
      exact hquiet hseen id (fun _ _ hp => by cases hp) fun hlooked => by cases hlooked
    | looks time heffect hseen =>
      refine hquiet hseen id (fun _ _ hp => ?_) fun hlooked => by cases hlooked
      cases hp
      exact h.look hm horder hlasting (by simp only [Effect.loads, heffect, beq_self_eq_true]) hold
    | writes time found _ hseen => exact h.write hread hs hm ht hold hnew hseen
    | reports p _ hseen =>
      exact hquiet hseen id (fun time found hp => h.held _ hm.lt time found (hold.trans hp))
        fun _ => rfl

theorem Backing.outside (h : Backing limits user since upto s) {o : Outside}
    (havoids : o.Avoids (Key.rateLimit user.text)) :
    Backing limits user since upto { s with cluster := s.cluster.befall o } :=
  { h.toAttending.outside o with
    stored := fun slot hslot => h.stored slot (Cluster.seen_of_befall havoids hslot)
    held := h.held
    total := h.total }

theorem backing_begin (hs : limits.InForce) (hwindow : since ≤ upto) {c : Cluster}
    (hhealthy : c.store.fault = none) (hosts : List Nat) :
    Backing limits user since upto
      (.begin c (hosts.map fun host => ⟨host, RateLimiter.check limits user⟩)) := by
  have hnobody : (Interplay.alone limits user since upto
      (.begin c (hosts.map fun host => ⟨host, RateLimiter.check limits user⟩))).card = 0 :=
    Finset.card_eq_zero.2 (Finset.filter_eq_empty_iff.2 fun i _ h => Bool.false_ne_true h.2)
  refine { attending_begin hs.limits hhealthy hosts with
    stored := fun _ _ => Or.inl hnobody, held := fun i _ time found hp => ?_, total := ?_ }
  · cases hp
  · rw [hnobody, Nat.cast_zero]
    exact add_nonneg (Bucket.full_nonneg limits)
      (perSecond_nonneg hs.rate.le (Int64.le_iff_toInt_le.1 hwindow))

/-- And so it holds in the end, if the record says that nobody read a time too early and that the
    bucket was there for whoever looked. -/
theorem Backing.run (hread : BucketText.Faithful ℚ) (hs : limits.InForce)
    (h : Backing limits user since upto s) {events : List Turn}
    (havoids : ∀ o, .outside o ∈ events → o.Avoids (Key.rateLimit user.text))
    (horder : Record.InOrder (Key.rateLimit user.text) (s.run events).past)
    (hlasting : Record.Lasting (Key.rateLimit user.text) (s.run events).past) :
    Backing limits user since upto (s.run events) := by
  -- What the record says in the end it has said all the time.
  refine Interplay.run_induction (P := fun s =>
    Record.InOrder (Key.rateLimit user.text) s.past →
      Record.Lasting (Key.rateLimit user.text) s.past → Backing limits user since upto s)
    (fun _ _ => h) (fun s i _ ih horder hlasting => ?_)
    (fun s o ho ih horder hlasting => (ih horder hlasting).outside (havoids o ho)) horder hlasting
  have hbefore : Record.InOrder (Key.rateLimit user.text) s.past ∧
      Record.Lasting (Key.rateLimit user.text) s.past := by
    rcases s.step_cases i with hsame | ⟨_, _, _, _, hstep⟩
    · rw [hsame] at horder hlasting
      exact ⟨horder, hlasting⟩
    · rw [hstep] at horder hlasting
      exact ⟨horder.of_concat, hlasting.of_concat⟩
  exact (ih hbefore.1 hbefore.2).step hread hs horder hlasting

end Turns

theorem Attending.mem_alone [BucketText ℚ] {limits : LimitSettings ℚ} {user : UserId}
    {since upto : Int64} {s : Interplay Admission} (h : Attending limits user s) {i : Nat}
    (hi : i ∈ s.admitted since upto) (halone : s.isolated (Key.rateLimit user.text) i = true) :
    i ∈ s.alone limits user since upto := by
  rw [Interplay.admitted, Finset.mem_filter] at hi
  rcases hi with ⟨_, hwithin, hresult⟩
  rcases h.answered hresult with ⟨hlt, time, found, hp, hanswer⟩
  refine mem_alone_iff.2 ⟨hlt, halone, ?_⟩
  rw [Interplay.within, (h.recalls i hlt).reading, hp, Phase.time?, Option.any_some] at hwithin
  rw [hp, Phase.admits, ← hanswer, Admission.isAllowed, Bool.true_and]
  exact hwithin

/-- Any number of attempts of a user at once, at whatever instances, on a store that answers. Their
    steps are taken in any order, but no attempt that looks at the bucket later than another has
    read an earlier time, and the bucket does not expire. Then over any span of time those who are
    admitted and overlap with nobody are no more than a full bucket holds, and what comes in during
    the span. In all no more are admitted than that, and as many again as overlap with others. -/
theorem admitted_alone_le [BucketText ℚ] (hread : BucketText.Faithful ℚ)
    {limits : LimitSettings ℚ} (hs : limits.InForce) {user : UserId} {c : Cluster}
    (hhealthy : c.store.fault = none) (hosts : List Nat) {events : List Turn}
    (havoids : ∀ o, .outside o ∈ events → o.Avoids (Key.rateLimit user.text))
    {since upto : Int64} (hwindow : since ≤ upto) :
    let key := Key.rateLimit user.text
    let s := (Interplay.begin c
      (hosts.map fun host => ⟨host, RateLimiter.check limits user⟩)).run events
    let bound := limits.capacity.toNat +
      limits.rate * ((upto.toInt - since.toInt : Int) : ℚ) / 1000
    Record.InOrder key s.past → Record.Lasting key s.past →
      (((s.admitted since upto).filter fun i => s.isolated key i = true).card : ℚ) ≤ bound ∧
        ((s.admitted since upto).card : ℚ) ≤ bound + (s.lapped key since upto).card := by
  intro key s bound horder hlasting
  have h : Backing limits user since upto s :=
    (backing_begin hs hwindow hhealthy hosts).run hread hs havoids horder hlasting
  have halone : ((s.admitted since upto).filter fun i => s.isolated key i = true).card ≤
      (s.alone limits user since upto).card := by
    refine Finset.card_le_card fun i hi => ?_
    rcases Finset.mem_filter.1 hi with ⟨hadmitted, hisolated⟩
    exact h.mem_alone hadmitted hisolated
  have hlapped : ((s.admitted since upto).filter fun i => ¬s.isolated key i = true).card ≤
      (s.lapped key since upto).card := by
    refine Finset.card_le_card fun i hi => ?_
    rcases Finset.mem_filter.1 hi with ⟨hadmitted, hisolated⟩
    rcases Finset.mem_filter.1 hadmitted with ⟨hlt, hwithin, _⟩
    exact Finset.mem_filter.2 ⟨hlt, hwithin, Bool.eq_false_iff.2 hisolated⟩
  have hbound : (((s.admitted since upto).filter fun i => s.isolated key i = true).card : ℚ) ≤
      bound := le_trans (Nat.cast_le.2 halone) h.total
  refine ⟨hbound, ?_⟩
  rw [← Finset.card_filter_add_card_filter_not (fun i => s.isolated key i = true), Nat.cast_add]
  exact add_le_add hbound (Nat.cast_le.2 hlapped)

/-- A user tries once, then twice at the same time, and once more after a while. -/
def crossing : List Turn :=
  List.replicate 4 (.step 0) ++
    [.step 1, .step 1, .step 2, .step 2, .step 1, .step 1, .step 2, .step 2,
      .outside (.setClock 1 1500)] ++ List.replicate 4 (.step 3)

/-- With two tokens to begin with and one more for each second, all four attempts are admitted
    within a second and a half. That is one too many, but two of them overlap. -/
theorem admitted_alone_le_crossing :
    let s := (Interplay.begin twoInstances ([0, 1, 0, 1].map fun host =>
      ⟨host, RateLimiter.check (Q := ℚ) (.perMinute 2 60) ⟨"u"⟩⟩)).run crossing
    s.admitted 0 1500 = {0, 1, 2, 3} ∧ s.lapped (Key.rateLimit "u") 0 1500 = {1, 2} ∧
      ((({0, 3} : Finset Nat).card : Nat) : ℚ) ≤ 2 + 1 * 1500 / 1000 ∧
      ((({0, 1, 2, 3} : Finset Nat).card : Nat) : ℚ) ≤
        2 + 1 * 1500 / 1000 + (({1, 2} : Finset Nat).card : Nat) := by
  intro s
  have hrate : (LimitSettings.perMinute 2 60 : LimitSettings ℚ).rate = 1 := by
    change ((60 : Nat) : ℚ) / ((60 : Nat) : ℚ) = 1
    norm_num
  have hs : (LimitSettings.perMinute 2 60 : LimitSettings ℚ).InForce :=
    ⟨rfl, by decide, by rw [hrate]; norm_num⟩
  have hadmitted : s.admitted 0 1500 = {0, 1, 2, 3} := by decide +kernel
  have hlapped : s.lapped (Key.rateLimit "u") 0 1500 = {1, 2} := by decide +kernel
  have halone : ((s.admitted 0 1500).filter fun i => s.isolated (Key.rateLimit "u") i = true) =
      {0, 3} := by
    decide +kernel
  have havoids : ∀ o, .outside o ∈ crossing →
      o.Avoids (Key.rateLimit (UserId.text ⟨"u"⟩)) := by
    simp [crossing, Outside.Avoids]
  have hwindow : (0 : Int64) ≤ 1500 := by decide
  have horder : Record.InOrder (Key.rateLimit "u") s.past := by decide +kernel
  have hlasting : Record.Lasting (Key.rateLimit "u") s.past := by decide +kernel
  have hbound := admitted_alone_le faithful_exact hs (c := twoInstances) rfl [0, 1, 0, 1] havoids
    hwindow horder hlasting
  rw [halone, hadmitted, hlapped, hrate] at hbound
  exact ⟨hadmitted, hlapped, hbound⟩

end ChatCluster
