import ChatCluster.Proofs.Cluster.Alone
import ChatCluster.Proofs.Json.Records

/-!
# What the Registry Does

The operations of the registry on a store that answers, each left alone. What is known of the
slot of a user is stated by `Filed`: it is empty if nobody owns the user, and otherwise holds the
written form of an entry that names the owner. No reader looks at anything else in it, so the
number of the key or the time in the entry never comes up.

Reading changes nothing as long as the entry has not expired (`Cluster.Lasting`). That makes the
result of an operation one or two changes of the cluster, which is what the theorems say: a change
of the directory, and one slot written, extended or erased.

## Main definitions

* `Cluster.entrySlot`, `Cluster.entryOf`: What the store holds for a user.
* `Cluster.Lasting`: No entry has expired.
* `Filed`: A slot names an owner.

## Theorems

* `Cluster.runAlone_readEntry`, `Cluster.runAlone_owner?`: What is filed is found.
* `Cluster.runAlone_register`: A registration writes an entry.
* `Cluster.runAlone_release`: Giving up erases only what is one's own.
* `Cluster.runAlone_unregister`, `Cluster.runAlone_unregisterIf`: Letting go ends in giving up.
* `Cluster.runAlone_refresh_of_open`: A refresh extends, and writes only where nothing is.
-/

namespace ChatCluster

/-- The slot of a user holds the written form of an entry that names the owner, and nothing if
    there is no owner. -/
inductive Filed : Option Slot → Option InstanceId → Prop where
  | vacant : Filed none none
  | entry (e : RegistryEntry) (expiresAt : Option Nat) :
    Filed (some { held := .text e.toJson, expiresAt }) (some e.owner)

theorem Filed.eq_none_iff {slot : Option Slot} {owner : Option InstanceId} (h : Filed slot owner) :
    slot = none ↔ owner = none := by
  cases h with
  | vacant => exact ⟨fun _ => rfl, fun _ => rfl⟩
  | entry e expiresAt => simp only [reduceCtorEq]

theorem Filed.owner_eq {slot : Option Slot} {owner : Option InstanceId} (h : Filed slot owner) :
    ((slot.bind Slot.text?).bind RegistryEntry.ofJson?).map RegistryEntry.owner = owner := by
  cases h with
  | vacant => rfl
  | entry e expiresAt =>
    simp only [Option.bind_some, Slot.text?, RegistryEntry.ofJson?_toJson, Option.map_some]

theorem Filed.extend {slot : Option Slot} {owner : Option InstanceId} (h : Filed slot owner)
    (deadline : Nat) :
    Filed (slot.map fun slot => { slot with expiresAt := some deadline }) owner := by
  cases h with
  | vacant => exact .vacant
  | entry e expiresAt => exact .entry e (some deadline)

theorem Key.registry_inj {a b : UserId} : Key.registry a.text = Key.registry b.text ↔ a = b := by
  rw [Key.registry, Key.registry, String.append_right_inj]
  exact ⟨fun h => congrArg UserId.mk h, fun h => congrArg UserId.text h⟩

namespace Cluster

/-- What the store holds for a user. -/
def entrySlot (c : Cluster) (user : UserId) : Option Slot :=
  c.store.slots.find? (Key.registry user.text)

/-- The entry of a user, if there is one that can be read. -/
def entryOf (c : Cluster) (user : UserId) : Option RegistryEntry :=
  ((c.entrySlot user).bind Slot.text?).bind RegistryEntry.ofJson?

/-- No entry has expired. -/
def Lasting (c : Cluster) : Prop :=
  ∀ user slot, c.entrySlot user = some slot → slot.isLive c.now = true

-- What becomes of the entries when one slot is changed. Users have keys of their own.
theorem entrySlot_insert (c : Cluster) (user other : UserId) (slot : Slot) :
    (c.withSlots (c.store.slots.insert (Key.registry user.text) slot)).entrySlot other =
      if other = user then some slot else c.entrySlot other := by
  simp only [entrySlot, withSlots_slots, Table.find?_insert, Key.registry_inj]

theorem entrySlot_erase (c : Cluster) (user other : UserId) :
    (c.withSlots (c.store.slots.erase (Key.registry user.text))).entrySlot other =
      if other = user then none else c.entrySlot other := by
  simp only [entrySlot, withSlots_slots, Table.find?_erase, Key.registry_inj]

theorem entrySlot_update (c : Cluster) (user other : UserId) (f : Slot → Slot) :
    (c.withSlots (c.store.slots.update (Key.registry user.text) f)).entrySlot other =
      if other = user then (c.entrySlot other).map f else c.entrySlot other := by
  simp only [entrySlot, withSlots_slots, Table.find?_update, Key.registry_inj]

/-! ## What the operations do -/

variable (self : Registrar) (user : UserId) (host : Nat) {c : Cluster}

/-- An instance writes an entry that names itself. -/
theorem runAlone_writeEntry (h : c.store.fault = none) :
    ∃ e : RegistryEntry, e.owner = self.id ∧
      runAlone host (self.writeEntry user) c =
        (.ok (), c.withSlots (c.store.slots.insert (Key.registry user.text)
          { held := .text e.toJson, expiresAt := some (c.now + self.entryTtl) })) := by
  refine ⟨{ user, owner := self.id, establishedAt := (c.perform host .clock).1 }, rfl, ?_⟩
  rw [Registrar.writeEntry, runAlone_bind, runAlone_perform]
  exact runAlone_store host _ h

/-- Reading an entry finds what is filed, and changes nothing. -/
theorem runAlone_readEntry {owner : Option InstanceId} (h : c.store.fault = none)
    (hlast : c.Lasting) (hfiled : Filed (c.entrySlot user) owner) :
    ∃ entry : Option RegistryEntry, entry.map RegistryEntry.owner = owner ∧
      runAlone host (Registrar.readEntry user) c = (.ok entry, c) := by
  have hget := runAlone_get host h (hlast user)
  -- The slot is what the reply is made of, and what is filed is known of it.
  generalize hslot : c.entrySlot user = slot at hfiled
  rw [entrySlot] at hslot
  rw [hslot] at hget
  cases hfiled with
  | vacant =>
    refine ⟨none, rfl, ?_⟩
    rw [Registrar.readEntry, runAlone_bind, hget]
    rfl
  | entry e expiresAt =>
    refine ⟨some e, rfl, ?_⟩
    rw [Registrar.readEntry, runAlone_bind, hget]
    simp only [Option.bind_some, Slot.text?, RegistryEntry.ofJson?_toJson]
    rfl

/-- The owner that is looked up is the one that is filed. -/
theorem runAlone_owner? {owner : Option InstanceId} (h : c.store.fault = none)
    (hlast : c.Lasting) (hfiled : Filed (c.entrySlot user) owner) :
    runAlone host (Registrar.owner? user) c = (.ok owner, c) := by
  rcases runAlone_readEntry user host h hlast hfiled with ⟨entry, howner, hread⟩
  rw [Registrar.owner?, runAlone_bind, hread, ← howner]
  rfl

/-- An instance gives up the entry of a user exactly if it is its own. -/
theorem runAlone_release {owner : Option InstanceId} (h : c.store.fault = none)
    (hlast : c.Lasting) (hfiled : Filed (c.entrySlot user) owner) :
    runAlone host (self.release user) c =
      ((), if owner = some self.id then
        c.withSlots (c.store.slots.erase (Key.registry user.text)) else c) := by
  rcases runAlone_readEntry user host h hlast hfiled with ⟨entry, rfl, hread⟩
  -- Deleting a key sweeps it first, and a key that has not expired stays.
  have hdelete : runAlone host (Operation.store (.delete (Key.registry user.text))) c =
      (.ok (c.store.slots.contains (Key.registry user.text)),
        c.withSlots (c.store.slots.erase (Key.registry user.text))) := by
    rw [runAlone_store host _ h]
    simp only [Slots.call, Slots.sweep_eq_self (hlast user)]
  rw [Registrar.release, runAlone_bind, Registrar.deleteOwnEntry, runAlone_bind, hread]
  cases entry with
  | none => rfl
  | some e =>
    by_cases hown : e.owner = self.id
    · simp only [hown, ne_eq, not_true_eq_false, if_false, hdelete, Option.map_some, if_true]
      rfl
    · simp only [hown, ne_eq, not_false_eq_true, if_true, Option.map_some, Option.some.injEq,
        if_false]
      rfl

/-- The instance as it is after a change of its directory has been reported. -/
def keeping (c : Cluster) (host : Nat)
    (f : Table UserId SessionHandle → Table UserId SessionHandle) (reports : Reports) : Cluster :=
  { c.updateDirectory host f with reports }

/-- A registration takes in the session and writes an entry, whatever there was. -/
theorem runAlone_register (session : SessionHandle) (h : c.store.fault = none) :
    ∃ (e : RegistryEntry) (reports : Reports), e.owner = self.id ∧
      (runAlone host (self.register session) c).2 =
        (c.keeping host (fun d => d.insert session.user session) reports).withSlots
          (c.store.slots.insert (Key.registry session.user.text)
            { held := .text e.toJson, expiresAt := some (c.now + self.entryTtl) }) := by
  -- The gauge changes the reports only, and so the entry is written into the same slots.
  let inserted := c.updateDirectory host fun d => d.insert session.user session
  let gauged := (runAlone host Registrar.gauge inserted).2
  rcases runAlone_writeEntry self session.user host (c := gauged) h with ⟨e, howner, hwrite⟩
  refine ⟨e, gauged.reports, howner, ?_⟩
  rw [Registrar.register, runAlone_bind, runAlone_perform, runAlone_bind, runAlone_bind,
    show (runAlone host Registrar.gauge (c.perform host (.insertSession session)).2).2 = gauged
    from rfl, hwrite]
  rfl

/-- Letting a user go empties the directory and then gives the entry up. -/
theorem runAlone_unregister (c : Cluster) :
    ∃ reports, (runAlone host (self.unregister user) c).2 =
      (runAlone host (self.release user)
        (c.keeping host (fun d => d.erase user) reports)).2 := by
  rw [Registrar.unregister, runAlone_bind, runAlone_perform]
  cases hfound : (c.directory host).find? user with
  | none =>
    refine ⟨c.reports, ?_⟩
    simp only [perform, hfound, Option.isSome_none]
    rfl
  | some session =>
    let erased := c.updateDirectory host fun d => d.erase user
    refine ⟨(runAlone host Registrar.gauge erased).2.reports, ?_⟩
    simp only [perform, hfound, Option.isSome_some]
    rfl

/-- Letting go of a session that is not the user's current one does nothing, and otherwise is
    letting the user go. -/
theorem runAlone_unregisterIf (id : SessionId) (c : Cluster) :
    ((c.directory host).find? user).map SessionHandle.id ≠ some id ∧
        (runAlone host (self.unregisterIf user id) c).2 = c ∨
      ((c.directory host).find? user).map SessionHandle.id = some id ∧
        ∃ reports, (runAlone host (self.unregisterIf user id) c).2 =
          (runAlone host (self.release user)
            (c.keeping host (fun d => d.erase user) reports)).2 := by
  rw [Registrar.unregisterIf, runAlone_bind, runAlone_perform]
  cases hfound : (c.directory host).find? user with
  | none =>
    refine Or.inl ⟨by simp only [Option.map_none, ne_eq, reduceCtorEq, not_false_eq_true], ?_⟩
    simp only [perform, hfound]
    rfl
  | some session =>
    by_cases hid : session.id = id
    · refine Or.inr ⟨by rw [Option.map_some, hid], ?_⟩
      let erased := c.updateDirectory host fun d => d.erase user
      refine ⟨(runAlone host Registrar.gauge erased).2.reports, ?_⟩
      simp only [perform, hfound, hid, if_true]
      rw [runAlone_bind, runAlone_bind]
      rfl
    · refine Or.inl ⟨by simpa only [Option.map_some, ne_eq, Option.some.injEq] using hid, ?_⟩
      simp only [perform, hfound, hid, if_false]
      rfl

/-- Without an open session there is nothing to refresh. -/
theorem runAlone_refresh_of_closed
    (hclosed : ((c.directory host).find? user).any c.isOpen = false) :
    runAlone host (self.refresh user) c = (.ok false, c) := by
  rw [Registrar.refresh, runAlone_bind, runAlone_perform]
  cases hfound : (c.directory host).find? user with
  | none =>
    simp only [perform, hfound]
    rfl
  | some session =>
    rw [hfound, Option.any_some] at hclosed
    simp only [perform, hfound]
    rw [runAlone_bind, runAlone_perform]
    simp only [perform, hclosed]
    rfl

/-- Refreshing the user of an open session extends the entry that there is, whoever wrote it, and
    writes one where there is none. -/
theorem runAlone_refresh_of_open (h : c.store.fault = none) (hlast : c.Lasting)
    (hopen : ((c.directory host).find? user).any c.isOpen = true) :
    (c.entrySlot user).isSome = true ∧
        (runAlone host (self.refresh user) c).2 =
          c.withSlots (c.store.slots.update (Key.registry user.text)
            fun slot => { slot with expiresAt := some (c.now + self.entryTtl) }) ∨
      c.entrySlot user = none ∧ ∃ e : RegistryEntry, e.owner = self.id ∧
        (runAlone host (self.refresh user) c).2 =
          c.withSlots (c.store.slots.insert (Key.registry user.text)
            { held := .text e.toJson, expiresAt := some (c.now + self.entryTtl) }) := by
  -- The reply of this call says whether there was an entry to extend.
  have hexpire := runAlone_store host (.expire (Key.registry user.text) self.entryTtl) h
  simp only [Slots.call, Slots.sweep_eq_self (hlast user)] at hexpire
  rw [Registrar.refresh, runAlone_bind, runAlone_perform]
  cases hfound : (c.directory host).find? user with
  | none =>
    rw [hfound, Option.any_none] at hopen
    exact absurd hopen (by decide)
  | some session =>
    rw [hfound, Option.any_some] at hopen
    simp only [perform, hfound]
    rw [runAlone_bind, runAlone_perform]
    simp only [perform, hopen, if_true]
    rw [runAlone_bind, hexpire]
    cases hslot : c.entrySlot user with
    | none =>
      -- Extending nothing has changed nothing, and an entry is written as for a new session.
      rcases runAlone_writeEntry self user host h with ⟨e, howner, hwrite⟩
      refine Or.inr ⟨rfl, e, howner, ?_⟩
      rw [entrySlot] at hslot
      simp only [Table.contains, hslot, Option.isSome_none, Table.update_eq_self hslot,
        withSlots_self]
      rw [runAlone_bind, hwrite]
      rfl
    | some slot =>
      refine Or.inl ⟨rfl, ?_⟩
      rw [entrySlot] at hslot
      simp only [Table.contains, hslot, Option.isSome_some]
      rfl

end Cluster

end ChatCluster
