import ChatCluster.Config.Settings

/-!
# Repaired Intervals

Whatever a file and the environment say, the intervals of an instance that starts fit together: its
record and its entries outlast the time from one heartbeat to the next.

## Main definitions

* `Settings.Sound`: The intervals fit together.
* `Settings.repairedWith`: The repaired settings, given two of the intervals.

## Theorems

* `Settings.lt_of_longEnough?`: The repair of one interval.
* `Settings.repaired?_eq_some_iff`: What a repair comes to.
* `Settings.sound_of_load`: The repair of all of them.
* `Settings.not_zeroLimits_of_load`: Where senders are limited, there is something to be had.
-/

namespace ChatCluster

namespace Settings

/-- Nothing that is alive expires between two heartbeats. -/
structure Sound (s : Settings) : Prop where
  heartbeat_pos : 0 < s.heartbeat
  heartbeat_lt_livenessTtl : s.heartbeat < s.livenessTtl
  heartbeat_lt_entryTtl : s.heartbeat < s.entryTtl

theorem lt_of_longEnough? {interval heartbeat times n : Nat}
    (h : longEnough? interval heartbeat times = some n) (hpos : 0 < heartbeat)
    (htimes : 1 < times) : heartbeat < n := by
  rw [longEnough?] at h
  split at h
  · split at h
    · cases h
      calc heartbeat = 1 * heartbeat := (Nat.one_mul heartbeat).symm
        _ < times * heartbeat := Nat.mul_lt_mul_of_pos_right htimes hpos
    · cases h
  · next hlong =>
    cases h
    omega

/-- The repaired settings, given the two intervals whose repair may fail. -/
def repairedWith (s : Settings) (livenessTtl entryTtl : Nat) : Settings :=
  { s with
    heartbeat := s.soundHeartbeat
    livenessTtl
    reap := max s.soundHeartbeat s.reap
    entryTtl
    opTimeout := if s.opTimeout = 0 then 500 else s.opTimeout
    limited := s.limited && !s.zeroLimits }

theorem repaired?_eq_some_iff {s repaired : Settings} :
    s.repaired? = some repaired ↔
      ∃ livenessTtl entryTtl, longEnough? s.livenessTtl s.soundHeartbeat 2 = some livenessTtl ∧
        longEnough? s.entryTtl s.soundHeartbeat 3 = some entryTtl ∧
        s.repairedWith livenessTtl entryTtl = repaired := by
  simp only [repaired?, Option.bind_eq_bind, Option.bind_eq_some_iff, Option.pure_def,
    Option.some.injEq, repairedWith, exists_and_left]

theorem soundHeartbeat_pos (s : Settings) : 0 < s.soundHeartbeat := by
  rw [soundHeartbeat]
  omega

theorem sound_of_repaired? {s repaired : Settings} (h : s.repaired? = some repaired) :
    repaired.Sound := by
  have hpos := s.soundHeartbeat_pos
  rcases repaired?_eq_some_iff.1 h with ⟨livenessTtl, entryTtl, hliveness, hentry, rfl⟩
  exact ⟨hpos, lt_of_longEnough? hliveness hpos (by omega),
    lt_of_longEnough? hentry hpos (by omega)⟩

/-- Limits that admit nothing are no limits. -/
theorem not_zeroLimits_of_repaired? {s repaired : Settings} (h : s.repaired? = some repaired)
    (hlimited : repaired.limited = true) :
    repaired.limitCapacity ≠ 0 ∧ repaired.refillPerMinute ≠ 0 := by
  rcases repaired?_eq_some_iff.1 h with ⟨livenessTtl, entryTtl, _, _, rfl⟩
  simp only [repairedWith, zeroLimits, Bool.and_eq_true, Bool.not_eq_true', Bool.or_eq_false_iff,
    decide_eq_false_iff_not] at hlimited
  exact hlimited.2

section Loaded

variable {content : FileContent} {env : Environment} {spare : InstanceId} {s : Settings}
  {warnings : List ConfigWarning}

/-- What is loaded has been repaired. -/
theorem exists_repaired_of_load (h : load content env spare = .ok (s, warnings)) :
    ∃ gathered : Settings, gathered.repaired? = some s := by
  rw [load] at h
  cases hfile : content.settings with
  | error e =>
    simp only [hfile, reduceCtorEq] at h
  | ok file =>
    simp only [hfile] at h
    cases hrepaired : (gathered file env spare).repaired? with
    | none => simp only [hrepaired, reduceCtorEq] at h
    | some repaired =>
      simp only [hrepaired, Except.ok.injEq, Prod.mk.injEq] at h
      exact ⟨gathered file env spare, h.1 ▸ hrepaired⟩

theorem sound_of_load (h : load content env spare = .ok (s, warnings)) : s.Sound :=
  have ⟨_, hrepaired⟩ := exists_repaired_of_load h
  sound_of_repaired? hrepaired

theorem not_zeroLimits_of_load (h : load content env spare = .ok (s, warnings))
    (hlimited : s.limited = true) : s.limitCapacity ≠ 0 ∧ s.refillPerMinute ≠ 0 :=
  have ⟨_, hrepaired⟩ := exists_repaired_of_load h
  not_zeroLimits_of_repaired? hrepaired hlimited

end Loaded

end Settings

end ChatCluster
