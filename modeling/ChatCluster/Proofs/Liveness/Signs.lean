import ChatCluster.Proofs.Instance.Footprint
import ChatCluster.Proofs.Registry.Entries

/-!
# Signs of Life

What a heartbeat does on a store that answers, left alone. An instance that has stopped does
nothing. Any other writes its record with its full time to live, and then refreshes the users it
holds sessions of. Taking leave deletes the record.

## Main definitions

* `Cluster.lifecycle`: How an instance sees itself.

## Theorems

* `Cluster.runAlone_heartbeat`: The record is written, and then users are refreshed.
* `Cluster.seen_heartbeat_sign`, `Cluster.refreshed_heartbeat`: What is seen after it.
* `Cluster.mem_listed_iff`, `Cluster.seen_of_mem_liveInstances`: Who is found alive.
* `Cluster.seen_withdraw`: What is seen after an instance has taken its leave.
-/

namespace ChatCluster

namespace Cluster

/-- How an instance sees itself. One that is not there has stopped. -/
def lifecycle (c : Cluster) (host : Nat) : Lifecycle :=
  ((c.hosts.find? host).map Host.lifecycle).getD .stopped

variable (self : Monitor) (host : Nat) {c : Cluster}

theorem runAlone_heartbeat_of_stopped (h : c.lifecycle host = .stopped) :
    (runAlone host self.heartbeat c).2 = c := by
  rw [Monitor.heartbeat, runAlone_bind, runAlone_perform]
  rw [lifecycle] at h
  simp only [perform, h, if_true]
  rfl

/-- The record of an instance that has just shown itself, whatever it says. -/
def shownSign (c : Cluster) (self : Monitor) (text : String) : Option Slot :=
  Slot.renewed { held := .text text, expiresAt := none } c.now self.recordTtl

/-- When the record has been written, users are refreshed, by an instance that may have come alive
    in between. -/
theorem runAlone_heartbeat (hhealthy : c.store.fault = none) (h : c.lifecycle host ≠ .stopped) :
    ∃ (text : String) (signed : Cluster),
      signed.seen = Function.update c.seen (Key.liveness self.id.text) (c.shownSign self text) ∧
      signed.now = c.now ∧ signed.store.fault = none ∧
      (∀ other, signed.directory other = c.directory other) ∧ signed.queues = c.queues ∧
      (runAlone host self.heartbeat c).2 = (runAlone host self.refreshAll signed).2 := by
  let sign : LivenessRecord := { instanceId := self.id, lastSeen := (c.perform host .clock).1 }
  let written := c.withSlots
    (c.store.slots.call c.now (.set (Key.liveness self.id.text) sign.toJson self.recordTtl)).2
  have hset : runAlone host (Operation.store (.set (Key.liveness self.id.text) sign.toJson
      self.recordTtl)) c = (.ok (), written) := runAlone_store host _ hhealthy
  have hseen : written.seen =
      Function.update c.seen (Key.liveness self.id.text) (c.shownSign self sign.toJson) :=
    Slots.visible_set _ _ _ _ _
  have hgoing : (c.perform host .lifecycle).1 ≠ .stopped := h
  -- Neither look at the instance has changed anything.
  have hlooked : ((c.perform host .lifecycle).2.perform host .clock).2 = c := rfl
  have hclock : ((c.perform host .lifecycle).2.perform host .clock).1 =
      (c.perform host .clock).1 := rfl
  rw [Monitor.heartbeat, runAlone_bind, runAlone_perform, if_neg hgoing, runAlone_bind,
    runAlone_perform, runAlone_bind, hlooked, hclock, hset]
  simp only
  rw [runAlone_bind, runAlone_perform]
  by_cases hstarting : (written.hosts.find? host).map Host.lifecycle = some .starting
  · -- The first sign of life makes the instance a live one.
    let alive := written.updateHost host fun h => { h with lifecycle := .alive }
    let ready := alive.updateHost host fun h => { h with ready := true }
    have hcame : written.perform host .comeAlive = (true, alive) := by
      rw [perform, if_pos hstarting]
    refine ⟨sign.toJson, ready, hseen, rfl, hhealthy, fun other => ?_, rfl, ?_⟩
    · rw [directory_updateHost _ host other (f := fun h => { h with ready := true }) fun _ => rfl,
        directory_updateHost _ host other (f := fun h => { h with lifecycle := .alive })
          fun _ => rfl]
      rfl
    · rw [hcame]
      simp only [if_true]
      rw [runAlone_bind, runAlone_perform, runAlone_bind]
      rfl
  · refine ⟨sign.toJson, written, hseen, rfl, hhealthy, fun other => rfl, rfl, ?_⟩
    have hstays : written.perform host .comeAlive = (false, written) := by
      rw [perform, if_neg hstarting]
    rw [hstays]
    simp only [Bool.false_eq_true, if_false]
    rw [runAlone_bind]
    rfl

theorem seen_heartbeat_sign (hhealthy : c.store.fault = none) (h : c.lifecycle host ≠ .stopped) :
    ∃ text, (runAlone host self.heartbeat c).2.seen (Key.liveness self.id.text) =
      c.shownSign self text := by
  rcases runAlone_heartbeat self host hhealthy h with ⟨text, signed, hseen, _, _, _, _, hafter⟩
  have hentries : Within (fun key => ∃ user : UserId, key = Key.registry user.text)
      self.refreshAll := within_refreshAll self.toRegistrar fun user => ⟨user, rfl⟩
  have hsign : ¬∃ user : UserId, Key.liveness self.id.text = Key.registry user.text := by
    rintro ⟨user, hkey⟩
    exact Key.registry_ne_liveness user.text self.id.text hkey.symm
  refine ⟨text, ?_⟩
  rw [hafter, hentries.seen_runAlone host signed hsign, hseen, Function.update_self]

theorem holdsOpen_congr {c' : Cluster} (user : UserId) (hdirectory : c'.directory host =
    c.directory host) (hqueues : c'.queues = c.queues) :
    c'.holdsOpen host user = c.holdsOpen host user := by
  have hopen : c'.isOpen = c.isOpen := by
    funext session
    simp only [isOpen, hqueues]
  rw [holdsOpen, holdsOpen, hdirectory, hopen]

/-- A heartbeat does to entries what refreshing does. Where the instance has not stopped, the entry
    of a user it holds an open session for gets its full time to live. -/
theorem refreshed_heartbeat (hhealthy : c.store.fault = none) (user : UserId) :
    Refreshed c host self.toRegistrar user (c.seen (Key.registry user.text))
        ((runAlone host self.heartbeat c).2.seen (Key.registry user.text)) ∧
      (c.lifecycle host ≠ .stopped → c.holdsOpen host user = true →
        user ∈ (c.directory host).values.map SessionHandle.user →
        ∀ slot, (runAlone host self.heartbeat c).2.seen (Key.registry user.text) = some slot →
          slot.expiresAt = some (c.now + self.entryTtl)) := by
  by_cases h : c.lifecycle host = .stopped
  · rw [runAlone_heartbeat_of_stopped self host h]
    exact ⟨.kept _, fun hgoing => absurd h hgoing⟩
  · rcases runAlone_heartbeat self host hhealthy h with
      ⟨text, signed, hseen, hnow, hfault, hdirectory, hqueues, hafter⟩
    have hall := entriesRefreshed_refreshAll host self.toRegistrar hfault
    have hopen := holdsOpen_congr host user (hdirectory host) hqueues
    have hentry : signed.seen (Key.registry user.text) = c.seen (Key.registry user.text) := by
      rw [hseen, Function.update_of_ne (Key.registry_ne_liveness user.text self.id.text)]
    rw [hafter]
    refine ⟨?_, fun _ hheld hlisted slot hslot => ?_⟩
    · rw [← hentry]
      exact (hall.refreshed user).congr hnow hopen
    · rw [← hnow]
      refine hall.renewed user ?_ (hopen.trans hheld) slot hslot
      rw [hdirectory]
      exact hlisted

/-- Who is listed among the keys of records has a record, or at least something in its place. -/
theorem mem_listed_iff {names : List String} {id : InstanceId}
    (h : (c.perform host (.store (.keys Key.livenessStart))).1 = .ok names) :
    id ∈ names.filterMap Monitor.ofLivenessKey? ↔
      (c.seen (Key.liveness id.text)).isSome = true ∧ Text.isBlank id.text = false := by
  have hnames : names.Perm (c.store.slots.visibleKeys c.now Key.livenessStart) := by
    simp only [perform, MemoryStore.call] at h
    split at h
    · cases h
    · cases h
      exact Slots.keys_call_perm _ _ _
  simp only [List.mem_filterMap, hnames.mem_iff, Slots.mem_visibleKeys_iff,
    Monitor.ofLivenessKey?_eq_some_iff]
  constructor
  · rintro ⟨key, ⟨hseen, _⟩, rfl, hblank⟩
    exact ⟨hseen, hblank⟩
  · rintro ⟨hseen, hblank⟩
    exact ⟨_, ⟨hseen, Text.startsWith_append _ _⟩, rfl, hblank⟩

/-- Who is found alive has a record. -/
theorem seen_of_mem_liveInstances {live : List InstanceId} {id : InstanceId}
    (h : (runAlone host Monitor.liveInstances c).1 = .ok live) (hmem : id ∈ live) :
    ∃ slot, c.seen (Key.liveness id.text) = some slot := by
  rw [Monitor.liveInstances, runAlone_bind, Operation.store, runAlone_perform] at h
  cases hreply : (c.perform host (.store (.keys Key.livenessStart))).1 with
  | error e =>
    rw [hreply] at h
    cases h
  | ok names =>
    rw [hreply] at h
    cases h
    exact Option.isSome_iff_exists.1 ((mem_listed_iff host hreply).1 hmem).1

theorem seen_withdraw (hhealthy : c.store.fault = none) :
    (runAlone host self.withdraw c).2.seen =
      Function.update c.seen (Key.liveness self.id.text) none := by
  let stopped := (((c.perform host .stop).2).perform host (.setReady false)).2
  have hdelete := seen_delete host (Key.liveness self.id.text) (c := stopped) hhealthy
  have hdone := runAlone_store host (.delete (Key.liveness self.id.text)) (c := stopped) hhealthy
  rw [hdone] at hdelete
  rw [Monitor.withdraw, runAlone_bind, runAlone_perform, runAlone_bind, runAlone_perform,
    runAlone_bind, hdone]
  exact hdelete

end Cluster

end ChatCluster
