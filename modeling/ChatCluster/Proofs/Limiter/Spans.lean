import ChatCluster.Proofs.Cluster.Interleaving
import ChatCluster.Proofs.Limiter.Admission
import Mathlib.Data.List.Infix

/-!
# Attempts That Overlap

An attempt looks at the bucket of its user, draws from what it has found, and writes back what is
left. Nothing is locked in between, so another attempt may look at the same bucket before it is
written back. From its look to its writing an attempt is open, and two attempts overlap if they were
open at the same time. All this can be read off the record of what was done.

An attempt goes through four phases, and each of its steps leads from one to the next or is a mere
report (`Advance`). What an attempt remembers in each phase is what the record says of it
(`Recalls`).

## Main definitions

* `Record.reading?`, `Record.isOpen`, `Record.overlap`: What the record says of attempts.
* `Record.InOrder`, `Record.Lasting`: The clock never goes back, and the bucket does not expire.
* `Phase`, `checking`: The phases of an attempt, and its rules.
* `Advance`: What a step can do.
* `Attending`: Attempts are under way.

## Theorems

* `checking_check`: An attempt keeps the rules, and is answered from the bucket that it has found.
* `advance_of_allows`: Whatever the rules allow is a step of one of the four kinds.
* `Attending.step_cases`, `Attending.step`: What a turn does, and what it preserves.
-/

namespace ChatCluster

open Operation

/-! ## On record -/

/-- The step looks at a key. -/
def Effect.loads (key : String) : Effect → Bool
  | .store (.get other) => other == key
  | _ => false

/-- The step writes a text at a key. -/
def Effect.saves (key : String) : Effect → Bool
  | .store (.set other _ _) => other == key
  | _ => false

/-- What the clock showed, if the step was a look at it. -/
def Moment.shown? (m : Moment) : Option Int64 :=
  match m.effect with
  | .clock => some (m.before.clockOf m.host)
  | _ => none

namespace Record

/-- What the clock showed when an operation looked at it. -/
def reading? (past : List Moment) (i : Nat) : Option Int64 :=
  past.findSome? fun m => if m.errand = i then m.shown? else none

/-- An operation has taken a step of some kind. -/
def did (kind : Effect → Bool) (past : List Moment) (i : Nat) : Bool :=
  past.any fun m => m.errand == i && kind m.effect

/-- An operation has looked at a key and has not written there yet. -/
def isOpen (key : String) (past : List Moment) (i : Nat) : Bool :=
  did (Effect.loads key) past i && !did (Effect.saves key) past i

/-- Two operations were open at the same time. -/
def overlap (key : String) (past : List Moment) (i j : Nat) : Bool :=
  past.inits.any fun earlier => isOpen key earlier i && isOpen key earlier j

/-- Of two operations that look at a key, the one that does so later has read no earlier time. -/
def InOrder (key : String) (past : List Moment) : Prop :=
  past.Pairwise fun first later => first.effect.loads key = true → later.effect.loads key = true →
    (reading? past first.errand).all (fun time =>
      (reading? past later.errand).all fun time' => decide (time ≤ time')) = true

/-- What is written at a key is there for whoever looks later. -/
def Lasting (key : String) (past : List Moment) : Prop :=
  past.Pairwise fun first later => first.effect.saves key = true → later.effect.loads key = true →
    (later.before.seen key).isSome = true

instance (key : String) (past : List Moment) : Decidable (InOrder key past) :=
  inferInstanceAs (Decidable (List.Pairwise _ _))

instance (key : String) (past : List Moment) : Decidable (Lasting key past) :=
  inferInstanceAs (Decidable (List.Pairwise _ _))

variable {key : String} {past : List Moment} {m : Moment} {i j : Nat}

theorem reading?_concat (past : List Moment) (m : Moment) (i : Nat) :
    reading? (past ++ [m]) i =
      (reading? past i).or (if m.errand = i then m.shown? else none) := by
  rw [reading?, List.findSome?_append, List.findSome?_singleton]
  rfl

theorem did_concat (kind : Effect → Bool) (past : List Moment) (m : Moment) (i : Nat) :
    did kind (past ++ [m]) i = (did kind past i || m.errand == i && kind m.effect) := by
  rw [did, List.any_append, List.any_cons, List.any_nil, Bool.or_false]
  rfl

theorem exists_of_did {kind : Effect → Bool} (h : did kind past i = true) :
    ∃ m ∈ past, m.errand = i ∧ kind m.effect = true := by
  rcases List.any_eq_true.1 h with ⟨m, hm, hboth⟩
  rw [Bool.and_eq_true, beq_iff_eq] at hboth
  exact ⟨m, hm, hboth⟩

theorem overlap_of_isOpen (hi : isOpen key past i = true) (hj : isOpen key past j = true)
    (later : List Moment) : overlap key (past ++ later) i j = true :=
  List.any_eq_true.2 ⟨past, (List.mem_inits _ _).2 (List.prefix_append past later),
    Bool.and_eq_true_iff.2 ⟨hi, hj⟩⟩

theorem overlap_append (h : overlap key past i j = true) (later : List Moment) :
    overlap key (past ++ later) i j = true := by
  rcases List.any_eq_true.1 h with ⟨earlier, hearlier, hboth⟩
  have hprefix := ((List.mem_inits _ _).1 hearlier).trans (List.prefix_append past later)
  exact List.any_eq_true.2 ⟨earlier, (List.mem_inits _ _).2 hprefix, hboth⟩

theorem reading?_append {time : Int64} (h : reading? past i = some time) (m : Moment) :
    reading? (past ++ [m]) i = some time := by
  rw [reading?_concat, h, Option.some_or]

theorem InOrder.of_concat (h : InOrder key (past ++ [m])) : InOrder key past := by
  refine (List.pairwise_append.1 h).1.imp fun {first later} hle hfirst hlater => ?_
  have hall := hle hfirst hlater
  cases htime : reading? past first.errand with
  | none => rfl
  | some time =>
    cases htime' : reading? past later.errand with
    | none => rfl
    | some time' =>
      rw [reading?_append htime, reading?_append htime'] at hall
      exact hall

theorem InOrder.le_concat (h : InOrder key (past ++ [m])) (hlooks : m.effect.loads key = true)
    (hlooked : did (Effect.loads key) past i = true) {time time' : Int64}
    (htime : reading? past i = some time)
    (htime' : reading? past m.errand = some time') : time ≤ time' := by
  rcases exists_of_did hlooked with ⟨first, hfirst, rfl, hloads⟩
  have hall := (List.pairwise_append.1 h).2.2 first hfirst m List.mem_cons_self hloads hlooks
  rw [reading?_append htime, reading?_append htime'] at hall
  exact of_decide_eq_true hall

theorem Lasting.of_concat (h : Lasting key (past ++ [m])) : Lasting key past :=
  (List.pairwise_append.1 h).1

theorem Lasting.isSome_concat (h : Lasting key (past ++ [m])) (hlooks : m.effect.loads key = true)
    (hwrote : did (Effect.saves key) past i = true) : (m.before.seen key).isSome = true := by
  rcases exists_of_did hwrote with ⟨first, hfirst, _, hsaves⟩
  exact (List.pairwise_append.1 h).2.2 first hfirst m List.mem_cons_self hsaves hlooks

end Record

namespace Interplay

variable {α : Type}

/-- An operation overlaps no other. -/
def isolated (key : String) (s : Interplay α) (i : Nat) : Bool :=
  (List.range s.errands.length).all fun j => j == i || !Record.overlap key s.past i j

/-- An operation has read a time between two others. -/
def within (since upto : Int64) (s : Interplay α) (i : Nat) : Bool :=
  (Record.reading? s.past i).any fun time => decide (since ≤ time) && decide (time ≤ upto)

theorem isolated_iff {key : String} {s : Interplay α} {i : Nat} :
    s.isolated key i = true ↔
      ∀ j < s.errands.length, j ≠ i → Record.overlap key s.past i j = false := by
  rw [isolated, List.all_eq_true]
  refine forall_congr' fun j => ?_
  rw [List.mem_range, Bool.or_eq_true, beq_iff_eq, Bool.not_eq_true', or_iff_not_imp_left]

end Interplay

/-! ## Rules -/

/-- How far an attempt has got. -/
inductive Phase where
  /-- It has done nothing. -/
  | fresh
  /-- It has read the time. -/
  | timed (time : Int64)
  /-- It has found a bucket. -/
  | holding (time : Int64) (found : Bucket ℚ)
  /-- It has written back what is left of the bucket. -/
  | written (time : Int64) (found : Bucket ℚ)

namespace Phase

def time? : Phase → Option Int64
  | .fresh => none
  | .timed time | .holding time _ | .written time _ => some time

def hasLooked : Phase → Bool
  | .fresh | .timed _ => false
  | .holding _ _ | .written _ _ => true

def hasWritten : Phase → Bool
  | .fresh | .timed _ | .holding _ _ => false
  | .written _ _ => true

end Phase

section Rules

variable [BucketText ℚ]

/-- The bucket that an attempt takes a reply for. -/
def LimitSettings.bucketTold (limits : LimitSettings ℚ) (time : Int64)
    (reply : Except StoreError (Option String)) : Bucket ℚ :=
  (reply.toOption.join.bind BucketText.read?).getD (limits.fullBucket time)

/-- The rules of an attempt. It reads the time, looks at the bucket, and writes back what is left.
    The store answers. -/
def checking (limits : LimitSettings ℚ) (user : UserId) : Rules Phase where
  allows
    | .fresh, e => e = .clock
    | .timed _, e => e = .store (.get (Key.rateLimit user.text))
    | .holding time found, e =>
      (∃ w, e = .warn w) ∨
        e = .store (.set (Key.rateLimit user.text) (BucketText.write (found.draw limits time).2)
          limits.idleTtl)
    | .written _ _, e => (∃ w, e = .warn w) ∨ ∃ metric n, e = .count metric n
  possible
    | .store (.get _), reply => ∃ found, reply = .ok found
    | _, _ => True
  after
    | .fresh, .clock, time => .timed time
    | .timed time, .store (.get _), reply => .holding time (limits.bucketTold time reply)
    | .holding time found, .store (.set _ _ _), _ => .written time found
    | p, _, _ => p

/-- An attempt has been answered from the bucket that it has found. -/
def Answered (limits : LimitSettings ℚ) (p : Phase) (admission : Admission) : Prop :=
  ∃ time found, p = .written time found ∧ admission = (found.draw limits time).1

variable {limits : LimitSettings ℚ} {user : UserId}

theorem checking_drawAndSave (time : Int64) (found : Bucket ℚ) :
    (checking limits user).Obeys (.holding time found)
      (RateLimiter.drawAndSave limits user time found) (Answered limits) := by
  rw [RateLimiter.drawAndSave]
  rcases hdraw : found.draw limits time with ⟨admission, left⟩
  have hanswered : Answered limits (.written time found) admission :=
    ⟨time, found, rfl, by rw [hdraw]⟩
  have hcount : ∀ metric, (checking limits user).Obeys (.written time found)
      (count metric >>= fun _ => (pure admission : Operation Admission)) (Answered limits) :=
    fun _ => ⟨Or.inr ⟨_, _, rfl⟩, fun _ _ => hanswered⟩
  have hsave : (checking limits user).Obeys (.holding time found)
      (RateLimiter.save limits user left) fun p _ => p = .written time found :=
    ⟨Or.inr (by rw [hdraw]), fun _ _ => rfl⟩
  refine Rules.obeys_bind hsave ?_
  rintro _ reply rfl
  rcases reply with e | _
  · refine ⟨Or.inl ⟨_, rfl⟩, fun _ _ => ?_⟩
    cases admission <;> exact hcount _
  · cases admission <;> exact hcount _

theorem checking_load (time : Int64) :
    (checking limits user).Obeys (.timed time) (RateLimiter.load user) fun p reply =>
      ∃ stored, reply = .ok stored ∧ p = .holding time (stored.getD (limits.fullBucket time)) := by
  have hget : (checking limits user).Obeys (.timed time) (store (.get (Key.rateLimit user.text)))
      fun p reply => ∃ found, reply = .ok found ∧
        p = .holding time ((found.bind BucketText.read?).getD (limits.fullBucket time)) := by
    refine ⟨rfl, fun reply hreply => ?_⟩
    rcases hreply with ⟨found, rfl⟩
    exact ⟨found, rfl, rfl⟩
  rw [RateLimiter.load]
  refine Rules.obeys_bind hget ?_
  rintro _ _ ⟨_ | text, rfl, rfl⟩
  · exact ⟨none, rfl, rfl⟩
  · rw [Option.bind_some]
    cases hbucket : (BucketText.read? text : Option (Bucket ℚ)) with
    | some bucket =>
      simp only [hbucket]
      exact ⟨some bucket, rfl, rfl⟩
    | none =>
      simp only [hbucket]
      exact ⟨Or.inl ⟨_, rfl⟩, fun _ _ => ⟨none, rfl, rfl⟩⟩

/-- An attempt keeps the rules, and is answered from the bucket that it has found. -/
theorem checking_check (hlimits : limits.limits = true) :
    (checking limits user).Obeys .fresh (RateLimiter.check limits user) (Answered limits) := by
  have hclock : (checking limits user).Obeys .fresh (perform .clock)
      fun p time => p = .timed time := ⟨rfl, fun _ _ => rfl⟩
  rw [RateLimiter.check, if_pos hlimits]
  refine Rules.obeys_bind hclock ?_
  rintro _ time rfl
  refine Rules.obeys_bind (checking_load time) ?_
  rintro _ _ ⟨stored, rfl, rfl⟩
  exact checking_drawAndSave time _

/-! ## What a step does -/

/-- What an attempt does at a step, and how far it gets. -/
inductive Advance (limits : LimitSettings ℚ) (user : UserId) (m : Moment) :
    Phase → Phase → Prop
  | reads : m.effect = .clock → m.after.seen = m.before.seen →
      Advance limits user m .fresh (.timed (m.before.clockOf m.host))
  | looks (time : Int64) : m.effect = .store (.get (Key.rateLimit user.text)) →
      m.after.seen = m.before.seen →
      Advance limits user m (.timed time) (.holding time
        ((bucketIn (m.before.seen (Key.rateLimit user.text))).getD (limits.fullBucket time)))
  | writes (time : Int64) (found : Bucket ℚ) :
      (∃ text ttl, m.effect = .store (.set (Key.rateLimit user.text) text ttl)) →
      m.after.seen (Key.rateLimit user.text) =
        limits.written (found.draw limits time).2 m.before.now →
      Advance limits user m (.holding time found) (.written time found)
  | reports (p : Phase) :
      (∃ w, m.effect = .warn w) ∨ (∃ metric n, m.effect = .count metric n) →
      m.after.seen = m.before.seen → Advance limits user m p p

/-- Whatever the rules allow is one of these, on a store that answers. -/
theorem advance_of_allows {m : Moment} {p : Phase} (hhealthy : m.before.store.fault = none)
    (h : (checking limits user).allows p m.effect) :
    Advance limits user m p ((checking limits user).after p m.effect m.reply) := by
  rcases m with ⟨i, host, c, e⟩
  -- Reports may be made in two of the phases, and leave both as they are.
  have hreports : ∀ p : Phase, (∃ w, e = .warn w) ∨ (∃ metric n, e = .count metric n) →
      Advance limits user ⟨i, host, c, e⟩ p
        ((checking limits user).after p e (Moment.mk i host c e).reply) := by
    rintro p (⟨w, rfl⟩ | ⟨metric, n, rfl⟩)
    · cases p <;> exact .reports _ (Or.inl ⟨w, rfl⟩) rfl
    · cases p <;> exact .reports _ (Or.inr ⟨metric, n, rfl⟩) rfl
  cases p with
  | fresh =>
    cases h
    exact .reads rfl rfl
  | timed time =>
    cases h
    rcases Cluster.runAlone_get_seen host (Key.rateLimit user.text) hhealthy with ⟨hreply, hseen⟩
    have htold : (checking limits user).after (.timed time)
        (.store (.get (Key.rateLimit user.text)))
        (Moment.mk i host c (.store (.get (Key.rateLimit user.text)))).reply =
          .holding time (limits.bucketTold time
            (.ok ((c.seen (Key.rateLimit user.text)).bind Slot.text?))) :=
      congrArg (fun reply => Phase.holding time (limits.bucketTold time reply)) hreply
    rw [htold]
    exact .looks time rfl hseen
  | holding time found =>
    rcases h with hwarn | rfl
    · exact hreports _ (Or.inl hwarn)
    · refine .writes time found ⟨_, _, rfl⟩ ?_
      have hseen := Cluster.seen_set host (Key.rateLimit user.text)
        (BucketText.write (found.draw limits time).2) limits.idleTtl hhealthy
      exact (congrFun hseen _).trans (Function.update_self _ _ _)
  | written time found => exact hreports _ h

theorem possible_checking {c : Cluster} (hhealthy : c.store.fault = none) (host : Nat)
    (e : Effect) : (checking limits user).possible e (c.perform host e).1 := by
  cases e with
  | store call =>
    cases call with
    | get key => exact ⟨_, (Cluster.runAlone_get_seen host key hhealthy).1⟩
    | set | delete | keys | expire | addMember | removeMember | members => exact trivial
  | publish | clock | postmark | spareId | insertSession | findSession | removeSession
  | removeSessionIf | listSessions | countSessions | isOpen | offer | lifecycle | comeAlive | stop
  | setReady | warn | count | gaugeSessions => exact trivial

/-! ## Attempts under way -/

/-- What an attempt remembers is what the record says of it. -/
structure Recalls (key : String) (past : List Moment) (i : Nat) (p : Phase) : Prop where
  reading : Record.reading? past i = p.time?
  looked : Record.did (Effect.loads key) past i = p.hasLooked
  wrote : Record.did (Effect.saves key) past i = p.hasWritten

section Recalls

variable {key : String} {past : List Moment} {i : Nat} {m : Moment} {p p' : Phase}

omit [BucketText ℚ] in
theorem Recalls.concat_other (h : Recalls key past i p) (hne : m.errand ≠ i) :
    Recalls key (past ++ [m]) i p := by
  refine ⟨?_, ?_, ?_⟩
  · rw [Record.reading?_concat, if_neg hne, Option.or_none, h.reading]
  · rw [Record.did_concat, beq_false_of_ne hne, Bool.false_and, Bool.or_false, h.looked]
  · rw [Record.did_concat, beq_false_of_ne hne, Bool.false_and, Bool.or_false, h.wrote]

theorem Recalls.concat_own (h : Recalls (Key.rateLimit user.text) past m.errand p)
    (hadvance : Advance limits user m p p') :
    Recalls (Key.rateLimit user.text) (past ++ [m]) m.errand p' := by
  have htells : p.time?.or m.shown? = p'.time? ∧
      (p.hasLooked || m.effect.loads (Key.rateLimit user.text)) = p'.hasLooked ∧
      (p.hasWritten || m.effect.saves (Key.rateLimit user.text)) = p'.hasWritten := by
    cases hadvance with
    | reads heffect | looks _ heffect =>
      simp [Moment.shown?, Effect.loads, Effect.saves, heffect, Phase.time?,
        Phase.hasLooked, Phase.hasWritten]
    | writes _ _ heffect =>
      rcases heffect with ⟨text, ttl, heffect⟩
      simp [Effect.loads, Effect.saves, heffect, Phase.time?, Phase.hasLooked,
        Phase.hasWritten]
    | reports _ heffect =>
      rcases heffect with ⟨w, heffect⟩ | ⟨metric, n, heffect⟩ <;>
        simp [Moment.shown?, Effect.loads, Effect.saves, heffect]
  refine ⟨?_, ?_, ?_⟩
  · rw [Record.reading?_concat, if_pos rfl, h.reading, htells.1]
  · rw [Record.did_concat, beq_self_eq_true, Bool.true_and, h.looked, htells.2.1]
  · rw [Record.did_concat, beq_self_eq_true, Bool.true_and, h.wrote, htells.2.2]

end Recalls

/-- How far an attempt has got. -/
def Interplay.phase (limits : LimitSettings ℚ) (user : UserId) (s : Interplay Admission)
    (i : Nat) : Phase :=
  (checking limits user).notes .fresh i s.past

/-- All operations are attempts of a user, on a store that answers. -/
structure Attending (limits : LimitSettings ℚ) (user : UserId) (s : Interplay Admission) :
    Prop where
  healthy : s.cluster.store.fault = none
  checks : ∀ i < s.errands.length,
    ∃ host, s.Conducts i host (checking limits user) .fresh (Answered limits)
  recalls : ∀ i < s.errands.length,
    Recalls (Key.rateLimit user.text) s.past i (s.phase limits user i)

/-- An attempt has taken a step. -/
structure Stepped (limits : LimitSettings ℚ) (user : UserId) (s t : Interplay Admission)
    (m : Moment) : Prop where
  lt : m.errand < s.errands.length
  length : t.errands.length = s.errands.length
  before : m.before = s.cluster
  cluster : t.cluster = m.after
  past : t.past = s.past ++ [m]
  advance : Advance limits user m (s.phase limits user m.errand)
    (t.phase limits user m.errand)
  others : ∀ i, i ≠ m.errand → t.phase limits user i = s.phase limits user i

section Turns

variable {s : Interplay Admission} {i : Nat}

theorem Attending.step_cases (h : Attending limits user s) (i : Nat) :
    s.step i = s ∨ ∃ m, Stepped limits user s (s.step i) m := by
  rcases s.step_cases i with hsame | ⟨host, e, next, herrand, hstep⟩
  · exact Or.inl hsame
  · have hi : i < s.errands.length := (List.getElem?_eq_some_iff.1 herrand).1
    -- What is still to be done obeys the rules, and the step is its first one.
    have hallows : (checking limits user).allows (s.phase limits user i) e := by
      rcases h.checks i hi with ⟨_, hconducts⟩
      rcases hconducts.rest with ⟨rest, hrest, hobeys⟩
      cases herrand.symm.trans hrest
      exact hobeys.1
    refine Or.inr ⟨⟨i, host, s.cluster, e⟩, hi, s.length_step i, rfl, congrArg _ hstep,
      congrArg _ hstep, ?_, fun j hj => ?_⟩
    · have hafter : (s.step i).phase limits user i =
          (checking limits user).after (s.phase limits user i) e
            (Moment.mk i host s.cluster e).reply := by
        rw [hstep, Interplay.phase, Rules.notes_concat, if_pos rfl]
        rfl
      rw [hafter]
      exact advance_of_allows (m := ⟨i, host, s.cluster, e⟩) h.healthy hallows
    · rw [hstep, Interplay.phase, Rules.notes_concat, if_neg (Ne.symm hj)]
      rfl

theorem Attending.step (h : Attending limits user s) (i : Nat) :
    Attending limits user (s.step i) := by
  refine ⟨(s.fault_step i).trans h.healthy, fun j hj => ?_, fun j hj => ?_⟩
  · rw [s.length_step i] at hj
    rcases h.checks j hj with ⟨host, hconducts⟩
    exact ⟨host, hconducts.step (possible_checking h.healthy host) i⟩
  · rw [s.length_step i] at hj
    rcases h.step_cases i with hsame | ⟨m, hm⟩
    · rw [hsame]
      exact h.recalls j hj
    · rw [hm.past]
      by_cases heq : j = m.errand
      · subst heq
        exact (h.recalls _ hj).concat_own hm.advance
      · rw [hm.others j heq]
        exact (h.recalls j hj).concat_other (Ne.symm heq)

theorem Attending.outside (h : Attending limits user s) (o : Outside) :
    Attending limits user { s with cluster := s.cluster.befall o } where
  healthy := (Cluster.fault_befall o).trans h.healthy
  checks i hi := (h.checks i hi).imp fun _ hconducts => hconducts.outside o
  recalls := h.recalls

theorem Attending.isOpen (h : Attending limits user s) (hi : i < s.errands.length) {time : Int64}
    {found : Bucket ℚ} (hp : s.phase limits user i = .holding time found) :
    Record.isOpen (Key.rateLimit user.text) s.past i = true := by
  rw [Record.isOpen, (h.recalls i hi).looked, (h.recalls i hi).wrote, hp]
  rfl

theorem attending_begin (hlimits : limits.limits = true) {c : Cluster}
    (hhealthy : c.store.fault = none) (hosts : List Nat) :
    Attending limits user
      (.begin c (hosts.map fun host => ⟨host, RateLimiter.check limits user⟩)) := by
  refine ⟨hhealthy, fun i hi => ?_, fun i _ => ⟨rfl, rfl, rfl⟩⟩
  have hlt : i < hosts.length := by simpa [Interplay.begin] using hi
  refine ⟨hosts[i], Interplay.conducts_begin ?_ (checking_check hlimits)⟩
  rw [List.getElem?_map, List.getElem?_eq_getElem hlt]
  rfl

/-- An attempt that has ended has written, and was answered from the bucket that it had found. -/
theorem Attending.answered (h : Attending limits user s) {admission : Admission}
    (hresult : s.result? i = some admission) :
    i < s.errands.length ∧ Answered limits (s.phase limits user i) admission := by
  have hi : i < s.errands.length := by
    by_contra hge
    rw [Interplay.result?, List.getElem?_eq_none (Nat.le_of_not_lt hge)] at hresult
    cases hresult
  rcases h.checks i hi with ⟨host, hconducts⟩
  rcases hconducts.rest with ⟨rest, hrest, hobeys⟩
  rw [Interplay.result?, hrest] at hresult
  cases rest with
  | done a =>
    cases hresult
    exact ⟨hi, hobeys⟩
  | ask e next => cases hresult

end Turns

end Rules

end ChatCluster
