import ChatCluster.Proofs.Config.Intervals
import ChatCluster.Proofs.Config.Places

/-!
# What Loading Comes To

Settings are gathered from a file and from the environment, and then repaired. Loading fails on a
file that cannot be read and on one that does not say settings. Apart from that it fails only where
an interval is to be replaced by a multiple of the heartbeat that is no interval any more. In all
other cases the settings that come out are in order.

The heartbeat is repaired first, and the other intervals are measured against what it is then. As
the repaired heartbeat is its own repair, the repair of settings in order does nothing, so nothing
is left to be done by a second repair. Only what was out of order is altered in the first.

All intervals are whole numbers of 64 bits, before the repair and after it.

## Main definitions

* `FileSettings.InRange`, `Settings.InRange`: All intervals have 64 bits.
* `Settings.InOrder`: Nothing is in need of repair.
* `Settings.Overflows`: Some repair would be longer than an interval can be.
* `Settings.Mends`: A repair that alters only what is out of order.
* `Settings.GoesInto`: An instance is told the settings as they are.
* `Settings.Loads`: What comes of loading.

## Theorems

* `FileSettings.inRange_of_settings`, `Settings.inRange_gathered`: Where the intervals come from.
* `Settings.repaired?_eq_none_iff`, `Settings.mends_of_repaired?`: When a repair fails, and what it
  does if it does not.
* `Settings.repaired?_eq_some_self_iff`, `Settings.repaired?_idem`: What is in order stays as it is.
* `Settings.repairs_eq_nil_iff`: Nor is there anything to warn about.
* `Settings.loads_load`: What comes of loading.
* `Settings.loads_in_order`: Loading and repairing.
-/

namespace ChatCluster

open Toml

/-! ## Intervals of 64 bits -/

/-- Whatever is given is a whole number of 64 bits. -/
def IsWide (given : Option Nat) : Prop :=
  ∀ n ∈ given, n < UInt64.size

theorem IsWide.getD {given : Option Nat} (h : IsWide given) {otherwise : Nat}
    (hotherwise : otherwise < UInt64.size) : given.getD otherwise < UInt64.size := by
  cases given with
  | none => exact hotherwise
  | some n => exact h n rfl

theorem Environment.isWide_wide? (env : Environment) (name : String) : IsWide (env.wide? name) := by
  intro n hn
  rcases Option.bind_eq_some_iff.1 hn with ⟨_, _, hread⟩
  exact Decimal.unsigned?_lt hread

namespace FileSettings

/-- All intervals that a file gives have 64 bits. -/
structure InRange (file : FileSettings) : Prop where
  opTimeout : IsWide file.opTimeout
  entryTtl : IsWide file.entryTtl
  heartbeat : IsWide file.heartbeat
  livenessTtl : IsWide file.livenessTtl
  reap : IsWide file.reap
  idleTtl : IsWide file.idleTtl

theorem isWide_of_setting {v : Option Value} {given : Option Nat}
    (h : setting wide? v = some given) : IsWide given := by
  intro n hn
  rw [eq_bind_of_setting h] at hn
  rcases Option.bind_eq_some_iff.1 hn with ⟨_, _, hread⟩
  exact (natBelow?_eq_some_iff.1 hread).2

/-- Whatever is found where the file should be, it gives no other intervals. -/
theorem inRange_of_settings {content : FileContent} {file : FileSettings}
    (h : content.settings = .ok file) : file.InRange := by
  rcases FileContent.readFrom_of_settings h with ⟨_, _, hread⟩
  exact ⟨isWide_of_setting hread.opTimeout, isWide_of_setting hread.entryTtl,
    isWide_of_setting hread.heartbeat, isWide_of_setting hread.livenessTtl,
    isWide_of_setting hread.reap, isWide_of_setting hread.idleTtl⟩

end FileSettings

namespace Settings

/-- All intervals have 64 bits. -/
structure InRange (s : Settings) : Prop where
  opTimeout : s.opTimeout < UInt64.size
  entryTtl : s.entryTtl < UInt64.size
  heartbeat : s.heartbeat < UInt64.size
  livenessTtl : s.livenessTtl < UInt64.size
  reap : s.reap < UInt64.size
  idleTtl : s.idleTtl < UInt64.size

/-- So have all intervals that are gathered. -/
theorem inRange_gathered {file : FileSettings} (h : file.InRange) (env : Environment)
    (spare : InstanceId) : (gathered file env spare).InRange where
  opTimeout := (env.isWide_wide? _).getD (h.opTimeout.getD (by decide))
  entryTtl := (env.isWide_wide? _).getD (h.entryTtl.getD (by decide))
  heartbeat := (env.isWide_wide? _).getD (h.heartbeat.getD (by decide))
  livenessTtl := (env.isWide_wide? _).getD (h.livenessTtl.getD (by decide))
  reap := (env.isWide_wide? _).getD (h.reap.getD (by decide))
  idleTtl := (env.isWide_wide? _).getD (h.idleTtl.getD (by decide))

/-! ## The repair of one interval -/

theorem longEnough?_eq_none_iff {interval heartbeat times : Nat} :
    longEnough? interval heartbeat times = none ↔
      interval ≤ heartbeat ∧ UInt64.size ≤ times * heartbeat := by
  rw [longEnough?]
  split
  · next hshort =>
    split
    · next hfits => exact iff_of_false (Option.some_ne_none _) fun h => Nat.not_le.2 hfits h.2
    · next hlong => exact iff_of_true rfl ⟨hshort, Nat.not_lt.1 hlong⟩
  · next hlong => exact iff_of_false (Option.some_ne_none _) fun h => hlong h.1

/-- An interval that is long enough stays as it is. -/
theorem longEnough?_of_lt {interval heartbeat : Nat} (h : heartbeat < interval) (times : Nat) :
    longEnough? interval heartbeat times = some interval := by
  rw [longEnough?, if_neg (Nat.not_le.2 h)]

theorem lt_size_of_longEnough? {interval heartbeat times n : Nat}
    (hinterval : interval < UInt64.size) (h : longEnough? interval heartbeat times = some n) :
    n < UInt64.size := by
  rw [longEnough?] at h
  split at h
  · split at h
    · next hfits =>
      cases h
      exact hfits
    · cases h
  · cases h
    exact hinterval

/-! ## The repair of all settings -/

/-- Nothing is in need of repair. -/
structure InOrder (s : Settings) : Prop extends s.Sound where
  heartbeat_le_reap : s.heartbeat ≤ s.reap
  opTimeout_pos : 0 < s.opTimeout
  /-- Where senders are limited, there is something to be had. -/
  admits : s.limited = true → 0 < s.limitCapacity ∧ 0 < s.refillPerMinute

/-- Some interval is in need of repair, and what it would have to be is longer than an interval can
    be. -/
def Overflows (s : Settings) : Prop :=
  (s.livenessTtl ≤ max 1 s.heartbeat ∧ UInt64.size ≤ 2 * max 1 s.heartbeat) ∨
    (s.entryTtl ≤ max 1 s.heartbeat ∧ UInt64.size ≤ 3 * max 1 s.heartbeat)

/-- The settings have been repaired, and nothing has been altered that was in order when measured
    against the repaired heartbeat. -/
structure Mends (s repaired : Settings) : Prop where
  inOrder : repaired.InOrder
  heartbeat : repaired.heartbeat = max 1 s.heartbeat
  livenessTtl : repaired.heartbeat < s.livenessTtl → repaired.livenessTtl = s.livenessTtl
  reap : repaired.heartbeat ≤ s.reap → repaired.reap = s.reap
  entryTtl : repaired.heartbeat < s.entryTtl → repaired.entryTtl = s.entryTtl
  opTimeout : 0 < s.opTimeout → repaired.opTimeout = s.opTimeout
  limited : (s.limited = true → 0 < s.limitCapacity ∧ 0 < s.refillPerMinute) →
    repaired.limited = s.limited
  /-- Nothing else is ever altered. -/
  rest : repaired = { s with
    heartbeat := repaired.heartbeat, livenessTtl := repaired.livenessTtl, reap := repaired.reap
    entryTtl := repaired.entryTtl, opTimeout := repaired.opTimeout, limited := repaired.limited }

/-- A repair fails just if it overflows. -/
theorem repaired?_eq_none_iff (s : Settings) : s.repaired? = none ↔ s.Overflows := by
  rw [Overflows, ← soundHeartbeat, ← longEnough?_eq_none_iff, ← longEnough?_eq_none_iff, repaired?]
  cases longEnough? s.livenessTtl s.soundHeartbeat 2 with
  | none => exact iff_of_true rfl (Or.inl rfl)
  | some livenessTtl =>
    cases longEnough? s.entryTtl s.soundHeartbeat 3 with
    | none => exact iff_of_true rfl (Or.inr rfl)
    | some entryTtl =>
      refine iff_of_false (Option.some_ne_none _) fun h => ?_
      exact h.elim (Option.some_ne_none _) (Option.some_ne_none _)

/-- There is something to be had just if the limits are not zero. -/
theorem zeroLimits_eq_false_iff (s : Settings) :
    s.zeroLimits = false ↔ 0 < s.limitCapacity ∧ 0 < s.refillPerMinute := by
  rw [zeroLimits, Bool.or_eq_false_iff, decide_eq_false_iff_not, decide_eq_false_iff_not,
    UInt32.pos_iff_ne_zero, UInt32.pos_iff_ne_zero]

theorem mends_of_repaired? {s repaired : Settings} (h : s.repaired? = some repaired) :
    s.Mends repaired := by
  have hsound := sound_of_repaired? h
  rcases repaired?_eq_some_iff.1 h with ⟨livenessTtl, entryTtl, hliveness, hentry, rfl⟩
  refine ⟨⟨hsound, Nat.le_max_left _ _, ?_, ?_⟩, rfl, fun hlong => ?_, fun hlong => ?_,
    fun hlong => ?_, fun hpos => if_neg (Nat.ne_of_gt hpos), fun hadmits => ?_, rfl⟩
  · change 0 < if s.opTimeout = 0 then 500 else s.opTimeout
    split
    · decide
    · next hne => exact Nat.pos_of_ne_zero hne
  · intro hlimited
    have hlimits : (s.limited && !s.zeroLimits) = true := hlimited
    rw [Bool.and_eq_true, Bool.not_eq_true'] at hlimits
    exact s.zeroLimits_eq_false_iff.1 hlimits.2
  -- From here on: what was in order before the repair.
  · exact Option.some.inj (hliveness.symm.trans (longEnough?_of_lt hlong 2))
  · exact Nat.max_eq_right hlong
  · exact Option.some.inj (hentry.symm.trans (longEnough?_of_lt hlong 3))
  · change (s.limited && !s.zeroLimits) = s.limited
    cases hlimited : s.limited with
    | false => rfl
    | true => rw [s.zeroLimits_eq_false_iff.2 (hadmits hlimited)]; rfl

-- A record may outlast the heartbeat that is asked for and not the repaired one.
example :
    ((gathered { FileSettings.empty with heartbeat := some 0, livenessTtl := some 1 }
      (fun _ => none) ⟨"a"⟩).repaired?.map fun s => (s.heartbeat, s.livenessTtl)) = some (1, 2) := by
  decide

/-- The repair of settings leaves them as they are just if they are in order. -/
theorem repaired?_eq_some_self_iff (s : Settings) : s.repaired? = some s ↔ s.InOrder := by
  refine ⟨fun h => (mends_of_repaired? h).inOrder, fun h => ?_⟩
  have hheartbeat : s.soundHeartbeat = s.heartbeat := Nat.max_eq_right h.heartbeat_pos
  cases hrepaired : s.repaired? with
  | none =>
    rcases (s.repaired?_eq_none_iff).1 hrepaired with hshort | hshort
    · exact absurd (hheartbeat ▸ hshort.1) (Nat.not_le.2 h.heartbeat_lt_livenessTtl)
    · exact absurd (hheartbeat ▸ hshort.1) (Nat.not_le.2 h.heartbeat_lt_entryTtl)
  | some repaired =>
    -- The heartbeat stays, so everything else is measured against the same heartbeat as before.
    have hmends := mends_of_repaired? hrepaired
    have hsame : repaired.heartbeat = s.heartbeat := hmends.heartbeat.trans hheartbeat
    have hlimited := hmends.limited h.admits
    have hrest := hmends.rest
    rw [hlimited, hmends.opTimeout h.opTimeout_pos,
      hmends.livenessTtl (hsame ▸ h.heartbeat_lt_livenessTtl),
      hmends.reap (hsame ▸ h.heartbeat_le_reap),
      hmends.entryTtl (hsame ▸ h.heartbeat_lt_entryTtl), hsame] at hrest
    rw [hrest]

/-- A second repair does nothing. -/
theorem repaired?_idem (s : Settings) : s.repaired?.bind repaired? = s.repaired? := by
  cases h : s.repaired? with
  | none => rfl
  | some repaired => exact repaired.repaired?_eq_some_self_iff.2 (mends_of_repaired? h).inOrder

/-- The repair finds nothing to warn about just if the settings are in order. -/
theorem repairs_eq_nil_iff (s : Settings) : s.repairs = [] ↔ s.InOrder := by
  simp only [repairs, List.append_eq_nil_iff, ite_eq_right_iff, reduceCtorEq, imp_false,
    decide_eq_true_eq, Nat.not_lt, Nat.not_le, Bool.and_eq_true]
  constructor
  · rintro ⟨⟨⟨⟨⟨hheartbeat, hliveness⟩, hreap⟩, hentry⟩, htimeout⟩, hlimits⟩
    rw [soundHeartbeat, Nat.max_eq_right hheartbeat] at hliveness hreap hentry
    refine ⟨⟨hheartbeat, hliveness, hentry⟩, hreap, Nat.pos_of_ne_zero htimeout, fun hlimited => ?_⟩
    exact s.zeroLimits_eq_false_iff.1 (Bool.eq_false_iff.2 fun hzero => hlimits ⟨hlimited, hzero⟩)
  · intro h
    rw [soundHeartbeat, Nat.max_eq_right h.heartbeat_pos]
    refine ⟨⟨⟨⟨⟨h.heartbeat_pos, h.heartbeat_lt_livenessTtl⟩, h.heartbeat_le_reap⟩,
      h.heartbeat_lt_entryTtl⟩, Nat.ne_of_gt h.opTimeout_pos⟩, ?_⟩
    rintro ⟨hlimited, hzero⟩
    cases hzero.symm.trans (s.zeroLimits_eq_false_iff.2 (h.admits hlimited))

/-- The repair makes no interval longer than 64 bits. -/
theorem InRange.repaired {s repaired : Settings} (hrange : s.InRange)
    (h : s.repaired? = some repaired) : repaired.InRange := by
  have hheartbeat : s.soundHeartbeat < UInt64.size := Nat.max_lt.2 ⟨by decide, hrange.heartbeat⟩
  rcases repaired?_eq_some_iff.1 h with ⟨livenessTtl, entryTtl, hliveness, hentry, rfl⟩
  refine ⟨?_, lt_size_of_longEnough? hrange.entryTtl hentry, hheartbeat,
    lt_size_of_longEnough? hrange.livenessTtl hliveness, Nat.max_lt.2 ⟨hheartbeat, hrange.reap⟩,
    hrange.idleTtl⟩
  change (if s.opTimeout = 0 then 500 else s.opTimeout) < UInt64.size
  split
  · decide
  · exact hrange.opTimeout

/-! ## Loading -/

/-- An instance is told the settings as they are, with intervals in milliseconds. -/
structure GoesInto (s : Settings) (p : Profile) : Prop where
  id : p.id = s.id
  broadcastTopic : p.topics.broadcast = s.broadcastTopic
  instanceTopicStart : p.topics.instanceStart = s.instanceTopicStart
  entryTtl : p.entryTtl = 1000 * s.entryTtl
  heartbeat : p.liveness.heartbeat = 1000 * s.heartbeat
  livenessTtl : p.liveness.ttl = 1000 * s.livenessTtl
  reap : p.liveness.reap = 1000 * s.reap
  limited : p.limits.enabled = s.limited
  limitCapacity : p.limits.capacity = s.limitCapacity
  /-- The rate is one for seconds. -/
  refillPerMinute : p.limits.rate = Amount.ofNat s.refillPerMinute.toNat / Amount.ofNat 60
  idleTtl : p.limits.idleTtl = 1000 * s.idleTtl

theorem goesInto_profile (s : Settings) : s.GoesInto s.profile := by
  constructor <;> rfl

/-- What comes of loading settings, given what is found where the file should be. -/
structure Loads (content : FileContent) (env : Environment) (spare : InstanceId)
    (result : Except LoadError (Settings × List ConfigWarning)) : Prop where
  /-- It fails on what cannot be read as a text. -/
  unreadable : result = .error .unreadable ↔
    content = .unreadable ∨ ∃ bytes, content = .bytes bytes ∧ Text.ofUtf8? bytes = none
  /-- It fails on a text that does not say settings. -/
  malformed : result = .error .malformed ↔ ∃ bytes text, content = .bytes bytes ∧
    Text.ofUtf8? bytes = some text ∧ FileSettings.ofText? text = none
  /-- Otherwise it fails just if the repair overflows. -/
  overflow : ∀ file, content.settings = .ok file →
    (result = .error .overflow ↔ (gathered file env spare).Overflows)
  /-- In all other cases what has been gathered is repaired. -/
  loaded : ∀ file, content.settings = .ok file → ¬(gathered file env spare).Overflows →
    ∃ s warnings, result = .ok (s, warnings) ∧ (gathered file env spare).Mends s ∧ s.InRange

theorem settings_eq_unreadable_iff (content : FileContent) :
    content.settings = .error .unreadable ↔
      content = .unreadable ∨ ∃ bytes, content = .bytes bytes ∧ Text.ofUtf8? bytes = none := by
  cases content with
  | missing => simp only [FileContent.settings, reduceCtorEq, false_and, exists_false, or_false]
  | unreadable => simp only [FileContent.settings, true_or]
  | bytes content =>
    simp only [FileContent.settings, FileContent.bytes.injEq, exists_eq_left', reduceCtorEq,
      false_or]
    cases Text.ofUtf8? content with
    | none => exact iff_of_true rfl rfl
    | some text =>
      simp only [reduceCtorEq, iff_false]
      cases FileSettings.ofText? text <;> (intro h; cases h)

theorem settings_eq_malformed_iff (content : FileContent) :
    content.settings = .error .malformed ↔ ∃ bytes text, content = .bytes bytes ∧
      Text.ofUtf8? bytes = some text ∧ FileSettings.ofText? text = none := by
  cases content with
  | missing => simp only [FileContent.settings, reduceCtorEq, false_and, exists_false]
  | unreadable =>
    simp only [FileContent.settings, Except.error.injEq, reduceCtorEq, false_and, exists_false]
  | bytes content =>
    simp only [FileContent.settings, FileContent.bytes.injEq, exists_and_left, exists_eq_left']
    cases Text.ofUtf8? content with
    | none => simp only [Except.error.injEq, reduceCtorEq, false_and, exists_false]
    | some text =>
      simp only [Option.some.injEq, exists_eq_left']
      cases FileSettings.ofText? text with
      | none => exact iff_of_true rfl rfl
      | some settings => exact iff_of_false (fun h => by cases h) (Option.some_ne_none _)

/-- Loading fails for what is found in place of the file just as reading it does. -/
theorem load_eq_error_iff {content : FileContent} {env : Environment} {spare : InstanceId}
    {e : LoadError} (he : e ≠ .overflow) :
    load content env spare = .error e ↔ content.settings = .error e := by
  rw [load]
  cases content.settings with
  | error e' => simp only [Except.error.injEq]
  | ok file =>
    simp only [reduceCtorEq, iff_false]
    cases (gathered file env spare).repaired? with
    | none => exact fun h => he (Except.error.inj h).symm
    | some repaired =>
      intro h
      cases h

theorem loads_load (content : FileContent) (env : Environment) (spare : InstanceId) :
    Loads content env spare (load content env spare) where
  unreadable := (load_eq_error_iff (by decide)).trans (settings_eq_unreadable_iff content)
  malformed := (load_eq_error_iff (by decide)).trans (settings_eq_malformed_iff content)
  overflow file hfile := by
    rw [← repaired?_eq_none_iff, load, hfile]
    simp only
    cases (gathered file env spare).repaired? with
    | none => exact iff_of_true rfl rfl
    | some repaired => exact iff_of_false (fun h => by cases h) (Option.some_ne_none _)
  loaded file hfile hfits := by
    cases hrepaired : (gathered file env spare).repaired? with
    | none => exact absurd ((repaired?_eq_none_iff _).1 hrepaired) hfits
    | some repaired =>
      have hrange := inRange_gathered (FileSettings.inRange_of_settings hfile) env spare
      have hload : load content env spare = .ok (repaired, fileWarnings file ++
          environmentWarnings env ++ (gathered file env spare).repairs) := by
        simp only [load, hfile, hrepaired]
      exact ⟨repaired, _, hload, mends_of_repaired? hrepaired, hrange.repaired hrepaired⟩

/-- Loading fails on a file that is no text, on a text that does not say settings, and where the
    repair overflows. Otherwise it leads to settings in order. A repair, of whatever settings,
    alters only what is out of order; a second one does nothing and finds nothing to warn about; and
    an instance is told the settings as they are. -/
theorem loads_in_order (content : FileContent) (env : Environment) (spare : InstanceId) :
    Loads content env spare (load content env spare) ∧
      ∀ s : Settings, (s.repaired? = none ↔ s.Overflows) ∧
        (∀ repaired, s.repaired? = some repaired → s.Mends repaired ∧ repaired.repairs = []) ∧
        s.repaired?.bind repaired? = s.repaired? ∧ s.GoesInto s.profile := by
  refine ⟨loads_load content env spare, fun s => ⟨s.repaired?_eq_none_iff, fun repaired h => ?_,
    s.repaired?_idem, s.goesInto_profile⟩⟩
  have hmends := mends_of_repaired? h
  exact ⟨hmends, repaired.repairs_eq_nil_iff.2 hmends.inOrder⟩

end Settings

end ChatCluster
