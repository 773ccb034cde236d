import ChatCluster.Proofs.Cluster.Changes
import ChatCluster.Proofs.Config.Intervals
import ChatCluster.Proofs.Registry.Ownership

/-!
# A Live Owner Keeps Its Users

An instance that goes on showing itself does not lose the users it holds open sessions for,
whatever the others do, unless one of them takes a user in.

What carries this is a heartbeat that is not too long ago. It has written the record of the
instance, and extended the entry of every user whose session was open then. Since sessions do not
open, a session that is open now and was not refreshed then has been registered since. So the
record and the entry are good for their full times to live from that heartbeat on at least
(`Watched`), which lets no reap pass find the entry orphaned, and lets no wait outlast it before
the next heartbeat is due.

## Main definitions

* `Cluster.SharesConfig`: All instances are configured alike.
* `Cluster.ShownWithin`: An instance has shown itself not too long ago.
* `Disturbs`: Another instance takes the user in, or one of the same name gives it up.
* `Setting`: What does not change in a run.
* `Watched`: What a heartbeat is good for.

## Theorems

* `watched_happen`, `watched_course`: It stays good for that.
* `named_happen`: Nothing makes the entry name somebody else.
* `owner?_of_live_owner`: The owner keeps the user.
-/

namespace ChatCluster

namespace Cluster

/-- All instances are configured alike but for their names. -/
def SharesConfig (c : Cluster) (p : Profile) : Prop :=
  ∀ host self, c.profile? host = some self → self = { p with id := self.id }

theorem SharesConfig.entryTtl_eq {c : Cluster} {p self : Profile} {host : Nat}
    (h : c.SharesConfig p) (hself : c.profile? host = some self) : self.entryTtl = p.entryTtl := by
  rw [h host self hself]

theorem SharesConfig.liveness_eq {c : Cluster} {p self : Profile} {host : Nat}
    (h : c.SharesConfig p) (hself : c.profile? host = some self) : self.liveness = p.liveness := by
  rw [h host self hself]

theorem nameOf_happen (c : Cluster) (m : Happening) : (c.happen m).nameOf = c.nameOf := by
  funext host
  rw [nameOf, nameOf, profile?_happen]

theorem nameOf_course (c : Cluster) (run : List Happening) : (c.course run).nameOf = c.nameOf := by
  funext host
  rw [nameOf, nameOf, profile?_course]

/-- The instance has shown itself in the run, at most so many milliseconds before its end, and
    nobody of its name has taken leave since. -/
def ShownWithin (start : Cluster) (run : List Happening) (host : Nat) (gap : Nat) : Prop :=
  ∃ past rest, run = past ++ .does host .heartbeat :: rest ∧
    (start.course past).lifecycle host ≠ .stopped ∧
    (∀ other, .does other .withdraw ∈ rest → start.nameOf other ≠ start.nameOf host) ∧
    (start.course run).now ≤ (start.course past).now + gap

end Cluster

/-- An instance of another name takes the user in, or another one of the same name lets it go. -/
def Disturbs (c : Cluster) (host : Nat) (user : UserId) : Happening → Prop
  | .does other deed =>
    deed.TakesIn user ∧ c.nameOf other ≠ c.nameOf host ∨
      deed.LetsGo user ∧ other ≠ host ∧ c.nameOf other = c.nameOf host
  | .hangUp _ | .wait _ | .setClock _ _ => False

theorem disturbs_congr {c c' : Cluster} (h : c'.nameOf = c.nameOf) {host : Nat} {user : UserId}
    {m : Happening} : Disturbs c' host user m ↔ Disturbs c host user m := by
  cases m with
  | does other deed => rw [Disturbs, Disturbs, h]
  | hangUp | wait | setClock => exact Iff.rfl

/-- What is common to all states of a run of instances that are configured alike. -/
structure Setting (c : Cluster) (host : Nat) (id : InstanceId) (p : Profile) : Prop where
  healthy : c.store.fault = none
  config : c.SharesConfig p
  filed : c.SessionsFiled
  name : c.nameOf host = some id

/-- What a heartbeat of an instance is good for, as long as nobody of its name takes leave. -/
structure Watched (c : Cluster) (host : Nat) (id : InstanceId) (user : UserId) (p : Profile)
    (last : Nat) : Prop where
  /-- It is past. -/
  past : last ≤ c.now
  /-- The record of the instance can be seen for its full time to live from then on. -/
  sign : c.now < last + p.liveness.ttl →
    ∃ slot, c.seen (Key.liveness id.text) = some slot ∧ slot.text?.isSome = true ∧
      slot.LastsUntil (last + p.liveness.ttl)
  /-- So can the entry, if it names the instance and the session is open. -/
  entry : c.holdsOpen host user = true → ∀ slot, c.seen (Key.registry user.text) = some slot →
    ownerIn (some slot) = .ok (some id) → slot.LastsUntil (last + p.entryTtl)

section LiveOwner

open Cluster

variable {c : Cluster} {host : Nat} {id : InstanceId} {user : UserId} {p : Profile} {last : Nat}

theorem Setting.happen (h : Setting c host id p) (m : Happening) :
    Setting (c.happen m) host id p where
  healthy := (c.fault_happen m).trans h.healthy
  config := by
    rw [SharesConfig, profile?_happen]
    exact h.config
  filed := sessionsFiled_happen m h.filed
  name := by
    rw [nameOf_happen]
    exact h.name

theorem Setting.course (h : Setting c host id p) (run : List Happening) :
    Setting (c.course run) host id p := by
  induction run generalizing c with
  | nil => exact h
  | cons m run ih => exact ih (h.happen m)

/-! ## What a heartbeat is good for -/

theorem shownSign_lasts (self : Monitor) (text : String) (httl : 0 < self.recordTtl)
    (hpast : last ≤ c.now) :
    ∃ slot, c.shownSign self text = some slot ∧ slot.text?.isSome = true ∧
      slot.LastsUntil (last + self.recordTtl) := by
  have hshown : c.shownSign self text =
      some { held := .text text, expiresAt := some (c.now + self.recordTtl) } := by
    rw [shownSign, Slot.renewed, if_pos httl]
  exact ⟨_, hshown, rfl, lastsUntil_of_renewed hshown (by omega)⟩

theorem Watched.sign_happen {m : Happening} (h : Watched c host id user p last)
    (hsetting : Setting c host id p)
    (hstays : ∀ other, m = .does other .withdraw → c.nameOf other ≠ some id)
    (hnow : (c.happen m).now < last + p.liveness.ttl) :
    ∃ slot, (c.happen m).seen (Key.liveness id.text) = some slot ∧ slot.text?.isSome = true ∧
      slot.LastsUntil (last + p.liveness.ttl) := by
  have hpast := h.past
  have hbefore : c.now < last + p.liveness.ttl := by
    have := c.now_le_happen m
    omega
  rcases h.sign hbefore with ⟨slot, hslot, htext, hlasts⟩
  have hchange := signChange_happen id m hsetting.healthy
  generalize (c.happen m).seen (Key.liveness id.text) = after at hchange
  cases hchange with
  | kept => exact ⟨slot, hslot, htext, hlasts⟩
  | aged ms =>
    have hlive : slot.isLive (c.now + ms) = true := hlasts.isLive hnow
    refine ⟨slot, ?_, htext, hlasts⟩
    rw [hslot, Option.filter_some, if_pos hlive]
  | @shown other self text hself hname =>
    have httl : self.monitor.recordTtl = p.liveness.ttl :=
      congrArg LivenessSettings.ttl (hsetting.config.liveness_eq hself)
    rw [← httl] at hbefore ⊢
    exact shownSign_lasts self.monitor text (by omega) hpast
  | withdrawn hself hname =>
    refine absurd ?_ (hstays _ rfl)
    rw [nameOf, hself, Option.map_some, hname]

theorem Watched.entry_happen {m : Happening} (h : Watched c host id user p last)
    (hsetting : Setting c host id p) (hopen : (c.happen m).holdsOpen host user = true) {slot : Slot}
    (hslot : (c.happen m).seen (Key.registry user.text) = some slot)
    (hnamed : ownerIn (some slot) = .ok (some id)) : slot.LastsUntil (last + p.entryTtl) := by
  have hpast := h.past
  -- Whoever writes or extends the entry now gives it more time than there was then.
  have hrenewed : ∀ {other : Nat} {self : Profile} {before : Slot},
      c.profile? other = some self → before.renewed c.now self.entryTtl = some slot →
      slot.LastsUntil (last + p.entryTtl) := by
    intro other self before hself hrenewed
    have httl := hsetting.config.entryTtl_eq hself
    exact lastsUntil_of_renewed hrenewed (by omega)
  rcases holdsOpen_happen hsetting.healthy hopen with hbefore | ⟨self, session, hself, rfl, rfl⟩
  · rcases seen_or_renewed_happen hsetting.healthy hslot with hseen | ⟨_, _, _, hself, hwritten⟩
    · exact h.entry hbefore slot hseen hnamed
    · exact hrenewed hself hwritten
  · -- The session has just been taken in, and the entry has been written with it.
    rcases seen_register self.registrar host session hsetting.healthy with ⟨e, _, hseen⟩
    rw [happen_does hself, carryOut, hseen, Function.update_self] at hslot
    exact hrenewed hself hslot

theorem watched_happen {m : Happening} (h : Watched c host id user p last)
    (hsetting : Setting c host id p)
    (hstays : ∀ other, m = .does other .withdraw → c.nameOf other ≠ some id) :
    Watched (c.happen m) host id user p last where
  past := Nat.le_trans h.past (c.now_le_happen m)
  sign := h.sign_happen hsetting hstays
  entry hopen _ hslot hnamed := h.entry_happen hsetting hopen hslot hnamed

/-- The heartbeat itself writes the record, and extends the entry of a user whose session is
    open. -/
theorem watched_heartbeat (user : UserId) (hsetting : Setting c host id p)
    (hgoing : c.lifecycle host ≠ .stopped) :
    Watched (c.happen (.does host .heartbeat)) host id user p c.now := by
  rcases hsetting with ⟨hhealthy, hconfig, hfiled, hname⟩
  rw [nameOf, Option.map_eq_some_iff] at hname
  rcases hname with ⟨self, hself, rfl⟩
  have hrun := happen_does hself .heartbeat
  have hnow : (c.happen (.does host .heartbeat)).now = c.now := c.now_happen _
  refine ⟨Nat.le_of_eq hnow.symm, fun hsoon => ?_, fun hopen slot hslot _ => ?_⟩
  · have httl : self.monitor.recordTtl = p.liveness.ttl :=
      congrArg LivenessSettings.ttl (hconfig.liveness_eq hself)
    rcases seen_heartbeat_sign self.monitor host hhealthy hgoing with ⟨text, hsign⟩
    have hshown : (c.happen (.does host .heartbeat)).seen (Key.liveness self.id.text) =
        c.shownSign self.monitor text := by
      rw [hrun]
      exact hsign
    rw [hnow, ← httl] at hsoon
    rw [hshown, ← httl]
    exact shownSign_lasts self.monitor text (by omega) (Nat.le_refl _)
  · rcases holdsOpen_happen hhealthy hopen with hbefore | ⟨_, session, _, hdeed, _⟩
    · rcases holdsOpen_eq_true_iff.1 hbefore with ⟨session, hfind, _⟩
      -- The session stands under its user, and is among those that are gone through.
      have hlisted : user ∈ (c.directory host).values.map SessionHandle.user := by
        rw [List.mem_map]
        exact ⟨session, Table.mem_values_of_find? hfind, hfiled host user session hfind⟩
      have hrefreshed := (refreshed_heartbeat self.monitor host hhealthy user).2 hgoing hbefore
        hlisted slot
      rw [hrun] at hslot
      intro deadline hdeadline
      rw [hrefreshed hslot, Option.some.injEq] at hdeadline
      have httl : self.monitor.entryTtl = p.entryTtl := hconfig.entryTtl_eq hself
      omega
    · cases hdeed

/-- What a heartbeat is good for, it is good for until somebody of that name takes leave. -/
theorem watched_course (run : List Happening) (h : Watched c host id user p last)
    (hsetting : Setting c host id p)
    (hstays : ∀ other, .does other .withdraw ∈ run → c.nameOf other ≠ some id) :
    Watched (c.course run) host id user p last := by
  induction run generalizing c with
  | nil => exact h
  | cons m run ih =>
    have hstep : ∀ other, m = .does other .withdraw → c.nameOf other ≠ some id :=
      fun other hm => hstays other (hm ▸ List.mem_cons_self)
    refine ih (watched_happen h hsetting hstep) (hsetting.happen m) fun other hother => ?_
    rw [nameOf_happen]
    exact hstays other (List.mem_cons_of_mem m hother)

theorem watched_since {start : Cluster} {past rest : List Happening}
    (h : Setting start host id p) (hgoing : (start.course past).lifecycle host ≠ .stopped)
    (hstays : ∀ other, .does other .withdraw ∈ rest → start.nameOf other ≠ start.nameOf host)
    (user : UserId) :
    Watched (start.course (past ++ .does host .heartbeat :: rest)) host id user p
      (start.course past).now := by
  have hpast := h.course past
  have hbeat := watched_heartbeat user hpast hgoing
  rw [course_append]
  refine watched_course rest hbeat (hpast.happen _) fun other hother => ?_
  rw [nameOf_happen, nameOf_course]
  exact h.name ▸ hstays other hother

theorem exists_watched {start : Cluster} {run : List Happening} {gap : Nat}
    (h : Setting start host id p) (hshown : start.ShownWithin run host gap) (user : UserId) :
    ∃ last, Watched (start.course run) host id user p last ∧
      (start.course run).now ≤ last + gap := by
  rcases hshown with ⟨past, rest, rfl, hgoing, hstays, hnow⟩
  exact ⟨_, watched_since h hgoing hstays user, hnow⟩

/-- An instance that will not have been silent for too long after a wait is watched before. -/
theorem exists_watched_before_wait {start : Cluster} {run : List Happening} {ms gap : Nat}
    (h : Setting start host id p) (hshown : start.ShownWithin (run ++ [.wait ms]) host gap)
    (user : UserId) :
    ∃ last, Watched (start.course run) host id user p last ∧
      (start.course run).now + ms ≤ last + gap := by
  rcases hshown with ⟨past, rest, hrun, hgoing, hstays, hnow⟩
  rw [course_concat] at hnow
  -- The wait comes after the heartbeat, so that the heartbeat is part of what was before.
  rcases List.eq_nil_or_concat rest with rfl | ⟨rest, m, rfl⟩
  · cases List.append_inj_right' hrun rfl
  · rw [List.concat_eq_append, ← List.cons_append, ← List.append_assoc] at hrun
    rcases List.append_inj' hrun rfl with ⟨rfl, _⟩
    refine ⟨_, watched_since h hgoing (fun other hother => ?_) user, hnow⟩
    refine hstays other ?_
    rw [List.concat_eq_append]
    exact List.mem_append_left [m] hother

/-! ## Nothing makes the entry name somebody else -/

/-- An entry of an instance with a record is not orphaned, whoever looks. -/
theorem Cluster.Names.not_orphaned {watcher : InstanceId} (h : c.Names user id)
    (hsign : ∃ slot, c.seen (Key.liveness id.text) = some slot ∧ slot.text?.isSome = true) :
    c.orphaned watcher (Key.registry user.text) = false := by
  rcases hsign with ⟨sign, hsign, htext⟩
  have halive : c.countsAlive watcher id = true := by
    simp only [countsAlive, hsign, Option.bind_some, htext, Bool.or_true]
  rcases ownerIn_eq_some_iff.1 h with ⟨text, entry, hslot, hentry, howner⟩
  simp only [orphaned, deadText, hslot, Option.any_some, hentry, Option.all_some, howner, halive,
    Bool.not_true, Bool.and_false]

theorem named_happen {m : Happening} (h : Setting c host id p) (httl : 0 < p.entryTtl)
    (hnamed : c.Names user id) (hopen : (c.happen m).holdsOpen host user = true)
    (hsign : ∃ slot, c.seen (Key.liveness id.text) = some slot ∧ slot.text?.isSome = true)
    (hlasts : ∀ ms, m = .wait ms → ∀ slot, c.seen (Key.registry user.text) = some slot →
      slot.isLive (c.now + ms) = true)
    (hcalm : ¬Disturbs c host user m) : (c.happen m).Names user id := by
  rcases hnamed.exists_slot with ⟨slot, hslot, hslot_named⟩
  have hrenewed : ∀ {other : Nat} {self : Profile} (before : Slot), c.profile? other = some self →
      ownerIn (before.renewed c.now self.entryTtl) = ownerIn (some before) := by
    intro other self before hself
    exact ownerIn_renewed before _ (by rw [h.config.entryTtl_eq hself]; exact httl)
  have hchange := entryChange_happen user m h.healthy
  rw [Names]
  generalize (c.happen m).seen (Key.registry user.text) = after at hchange
  cases hchange with
  | kept => exact hnamed
  | aged ms =>
    rw [hslot, Option.filter_some, if_pos (hlasts ms rfl slot hslot)]
    exact hslot_named
  | @registered other self deed e hself hdeed howner =>
    have hother : c.nameOf other = c.nameOf host := by
      by_contra hne
      exact hcalm (Or.inl ⟨hdeed, hne⟩)
    rw [h.name, nameOf, hself, Option.map_some, Option.some.injEq] at hother
    rw [hrenewed e.slot hself, ownerIn_entry, howner, hother]
  | @extended other self deed slot' hself hdeed hopen' hslot' =>
    rw [hrenewed slot' hself, ← hslot']
    exact hnamed
  | rewritten hself hdeed hopen hnone howner =>
    rw [hslot] at hnone
    cases hnone
  | @released other self deed hself hdeed hown hgone =>
    -- The instance itself would hold no session any more.
    have hother : other ≠ host := by
      rintro rfl
      rw [hgone] at hopen
      exact Bool.false_ne_true hopen
    rw [show ownerIn _ = _ from hnamed] at hown
    rcases hown with hown | hown
    · rw [Except.ok.injEq, Option.some.injEq] at hown
      have hsame : c.nameOf other = c.nameOf host := by
        rw [h.name, nameOf, hself, Option.map_some, hown]
      exact absurd (Or.inr ⟨hdeed, hother, hsame⟩) hcalm
    · cases hown
  | reaped hself horphaned =>
    rw [hnamed.not_orphaned hsign] at horphaned
    cases horphaned

/-- In a cluster whose instances all start with the same settings, an instance goes on owning a user
    as long as it holds an open session for it and goes on showing itself, each time no later than
    its settings say, and nobody takes the user in or takes leave under its name. -/
theorem owner?_of_live_owner {content : FileContent} {env : Environment} {spare : InstanceId}
    {s : Settings} {warnings : List ConfigWarning}
    (hload : Settings.load content env spare = .ok (s, warnings)) {start : Cluster} {x : Nat}
    (hhealthy : start.store.fault = none) (hconfig : start.SharesConfig s.profile)
    (hfiled : start.SessionsFiled) (hname : start.nameOf x = some id)
    (before after : List Happening)
    (howner : ((start.course before).runAlone x (Registrar.owner? user)).1 = .ok (some id))
    (hshown : ∀ past, past <+: after →
      start.ShownWithin (before ++ past) x s.profile.liveness.heartbeat)
    (hopen : ∀ past, past <+: after → (start.course (before ++ past)).holdsOpen x user = true)
    (hcalm : ∀ m ∈ after, ¬Disturbs start x user m) (asker : Nat) :
    ((start.course (before ++ after)).runAlone asker (Registrar.owner? user)).1 =
      .ok (some id) := by
  have hsetting : Setting start x id s.profile := ⟨hhealthy, hconfig, hfiled, hname⟩
  have hsound := Settings.sound_of_load hload
  have hliveness : s.profile.liveness.heartbeat < s.profile.liveness.ttl := by
    have := hsound.heartbeat_lt_livenessTtl
    change 1000 * s.heartbeat < 1000 * s.livenessTtl
    omega
  have hentry : s.profile.liveness.heartbeat < s.profile.entryTtl := by
    have := hsound.heartbeat_lt_entryTtl
    change 1000 * s.heartbeat < 1000 * s.entryTtl
    omega
  have hall : ∀ past, past <+: after → (start.course (before ++ past)).Names user id := by
    intro past
    induction past using List.reverseRecOn with
    | nil =>
      intro _
      rw [List.append_nil]
      exact (names_iff_runAlone_owner? x (hsetting.course before).healthy).1 howner
    | append_singleton past m ih =>
      intro hpast
      have hearlier : past <+: after := (List.prefix_append past [m]).trans hpast
      have hm : m ∈ after := hpast.subset (List.mem_append_right past List.mem_cons_self)
      have hlater := hopen _ hpast
      have hshown_later := hshown _ hpast
      rw [← List.append_assoc] at hlater hshown_later ⊢
      rw [course_concat] at hlater ⊢
      have hthere := hsetting.course (before ++ past)
      have hquiet : ¬Disturbs (start.course (before ++ past)) x user m := by
        rw [disturbs_congr (start.nameOf_course _)]
        exact hcalm m hm
      rcases exists_watched hsetting (hshown past hearlier) user with ⟨last, hwatched, hnow⟩
      rcases hwatched.sign (by omega) with ⟨sign, hsign, htext, _⟩
      refine named_happen hthere (by omega) (ih hearlier) hlater ⟨sign, hsign, htext⟩ ?_ hquiet
      -- Until the wait is over, the entry is good from a heartbeat that was not long before.
      rintro ms rfl slot hslot
      rcases exists_watched_before_wait hsetting hshown_later user with ⟨last, hwatched, hnow⟩
      have hnamed : ownerIn (some slot) = .ok (some id) := hslot ▸ ih hearlier
      exact (hwatched.entry (hopen past hearlier) slot hslot hnamed).isLive (by omega)
  have hend := (hsetting.course (before ++ after)).healthy
  exact (names_iff_runAlone_owner? asker hend).2 (hall after List.prefix_rfl)

end LiveOwner

/-- The settings of an instance that is told nothing. -/
def untoldSettings : Settings :=
  Settings.gathered .empty (fun _ => none) ⟨"spare"⟩

/-- Two instances that are told nothing, with one client. -/
def untoldPair : Cluster :=
  { Cluster.new 1000 16 0 with
    hosts := (Table.empty.insert 0 (.new { untoldSettings.profile with id := ⟨"a"⟩ } 0)).insert 1
      (.new { untoldSettings.profile with id := ⟨"b"⟩ } 0)
    queues := Table.empty.insert 0 (.new 4) }

theorem untoldPair_sharesConfig : untoldPair.SharesConfig untoldSettings.profile := by
  intro host self hself
  by_cases h0 : host = 0
  · subst h0
    cases hself
    rfl
  · by_cases h1 : host = 1
    · subst h1
      cases hself
      rfl
    · simp only [untoldPair, Cluster.profile?, Table.find?_insert, h0, h1, if_false,
        Table.find?_empty, Option.map_none, reduceCtorEq] at hself

/-- The first instance keeps the user while the second one clears away what is orphaned. -/
theorem owner?_of_live_owner_untold :
    ((untoldPair.course
        ([.does 0 .heartbeat, .does 0 (.register ⟨0, ⟨1⟩, ⟨"u"⟩⟩)] ++
          [.wait 30000, .does 0 .heartbeat, .does 1 .reap])).runAlone 1
      (Registrar.owner? ⟨"u"⟩)).1 = .ok (some ⟨"a"⟩) := by
  have hload : Settings.load .missing (fun _ => none) ⟨"spare"⟩ = .ok (untoldSettings, []) := by
    rfl
  have hprefix : ∀ past : List Happening,
      past <+: [.wait 30000, .does 0 .heartbeat, .does 1 .reap] →
      past = [] ∨ past = [.wait 30000] ∨ past = [.wait 30000, .does 0 .heartbeat] ∨
        past = [.wait 30000, .does 0 .heartbeat, .does 1 .reap] := by
    intro past hpast
    simpa only [List.mem_inits, List.inits, List.map_cons, List.map_nil, List.mem_cons,
      List.not_mem_nil, or_false] using (List.mem_inits past _).2 hpast
  refine owner?_of_live_owner hload (x := 0) rfl untoldPair_sharesConfig ?_ rfl _ _ ?_ ?_ ?_ ?_ 1
  · intro host user session hfind
    simp only [Cluster.directory, untoldPair, Table.find?_insert] at hfind
    split at hfind
    · cases hfind
    · split at hfind <;> cases hfind
  · decide +kernel
  · intro past hpast
    rcases hprefix past hpast with rfl | rfl | rfl | rfl
    · exact ⟨[], [.does 0 (.register ⟨0, ⟨1⟩, ⟨"u"⟩⟩)], rfl, by decide, by simp, by decide +kernel⟩
    · exact ⟨[], [.does 0 (.register ⟨0, ⟨1⟩, ⟨"u"⟩⟩), .wait 30000], rfl, by decide, by simp,
        by decide +kernel⟩
    · exact ⟨[.does 0 .heartbeat, .does 0 (.register ⟨0, ⟨1⟩, ⟨"u"⟩⟩), .wait 30000], [], rfl,
        by decide +kernel, by simp, by decide +kernel⟩
    · exact ⟨[.does 0 .heartbeat, .does 0 (.register ⟨0, ⟨1⟩, ⟨"u"⟩⟩), .wait 30000],
        [.does 1 .reap], rfl, by decide +kernel, by simp, by decide +kernel⟩
  · intro past hpast
    rcases hprefix past hpast with rfl | rfl | rfl | rfl <;> decide +kernel
  · intro m hm
    simp only [List.mem_cons, List.not_mem_nil, or_false] at hm
    rcases hm with rfl | rfl | rfl <;>
      simp only [Disturbs, Deed.TakesIn, Deed.LetsGo, false_and, or_self, not_false_eq_true]

end ChatCluster
