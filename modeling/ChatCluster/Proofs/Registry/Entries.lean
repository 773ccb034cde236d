import ChatCluster.Proofs.Cluster.Seen
import ChatCluster.Proofs.Registry.Operations

/-!
# Entries That May Expire

The operations of the registry on a store that answers, told by what is seen of the entry of one
user. An entry may have expired without anybody having noticed, and may hold any text.

A look-up says who the entry names. A registration writes one. Letting a user go deletes it if it
names the instance that lets go, or cannot be read. A refresh extends it, whoever wrote it, and
writes one only where none is seen.

## Main definitions

* `ownerIn`: What a look-up says of what it sees.
* `Cluster.holdsOpen`: An instance holds an open session for a user.
* `Cluster.Names`: The entry of a user names an instance.
* `Refreshed`: What refreshing makes of an entry.
* `EntriesRefreshed`: What refreshing some users makes of all entries.

## Theorems

* `Cluster.runAlone_owner?_seen`: A look-up.
* `Cluster.seen_register`, `Cluster.seen_release`: Taking a user and giving one up.
* `Cluster.runAlone_refresh_of_holdsOpen`: A refresh.
* `entriesRefreshed_refreshAll`: Refreshing all users of an instance.
-/

namespace ChatCluster

/-- What a look-up says of what it sees: whom the entry names, or that it cannot be read. -/
def ownerIn (slot : Option Slot) : Except StoreError (Option InstanceId) :=
  match slot.bind Slot.text? with
  | none => .ok none
  | some text =>
    match RegistryEntry.ofJson? text with
    | none => .error .codec
    | some entry => .ok (some entry.owner)

theorem ownerIn_eq_some_iff {slot : Option Slot} {id : InstanceId} :
    ownerIn slot = .ok (some id) ↔
      ∃ text entry, slot.bind Slot.text? = some text ∧ RegistryEntry.ofJson? text = some entry ∧
        entry.owner = id := by
  rw [ownerIn]
  cases slot.bind Slot.text? with
  | none =>
    simp only [Except.ok.injEq, reduceCtorEq, false_and, exists_false]
  | some text =>
    cases hentry : RegistryEntry.ofJson? text with
    | none =>
      simp only [hentry, Option.some.injEq, reduceCtorEq, false_iff, not_exists, not_and]
      rintro other entry rfl hother
      rw [hentry] at hother
      cases hother
    | some entry =>
      simp only [hentry, Except.ok.injEq, Option.some.injEq]
      constructor
      · intro howner
        exact ⟨text, entry, rfl, hentry, howner⟩
      · rintro ⟨other, found, rfl, hfound, howner⟩
        rw [hentry, Option.some.injEq] at hfound
        rw [hfound, howner]

/-- An entry that has just been written, before it is given a time to live. -/
def RegistryEntry.slot (e : RegistryEntry) : Slot :=
  { held := .text e.toJson, expiresAt := none }

/-- What an entry says does not depend on when it expires. -/
theorem ownerIn_of_renewed {slot after : Slot} {now ttl : Nat}
    (h : slot.renewed now ttl = some after) : ownerIn (some after) = ownerIn (some slot) := by
  rw [eq_of_renewed h]
  rfl

theorem ownerIn_renewed (slot : Slot) (now : Nat) {ttl : Nat} (h : 0 < ttl) :
    ownerIn (slot.renewed now ttl) = ownerIn (some slot) := by
  have hrenewed : slot.renewed now ttl = some { slot with expiresAt := some (now + ttl) } := by
    rw [Slot.renewed, if_pos h]
  rw [hrenewed, ownerIn_of_renewed hrenewed]

theorem ownerIn_entry (e : RegistryEntry) : ownerIn (some e.slot) = .ok (some e.owner) := by
  simp only [ownerIn, RegistryEntry.slot, Option.bind_some, Slot.text?,
    RegistryEntry.ofJson?_toJson]

namespace Cluster

/-- The instance holds an open session for the user. -/
def holdsOpen (c : Cluster) (host : Nat) (user : UserId) : Bool :=
  ((c.directory host).find? user).any c.isOpen

variable (self : Registrar) (user : UserId) (host : Nat) {c : Cluster}

/-! ## Reading -/

theorem runAlone_readEntry_seen (h : c.store.fault = none) :
    ((runAlone host (Registrar.readEntry user) c).1.map
        fun entry => entry.map RegistryEntry.owner) =
        ownerIn (c.seen (Key.registry user.text)) ∧
      (runAlone host (Registrar.readEntry user) c).2.seen = c.seen := by
  rcases runAlone_get_seen host (Key.registry user.text) h with ⟨hreply, hseen⟩
  rw [Registrar.readEntry, runAlone_bind, hreply, ownerIn]
  cases (c.seen (Key.registry user.text)).bind Slot.text? with
  | none => exact ⟨rfl, hseen⟩
  | some text =>
    simp only
    cases RegistryEntry.ofJson? text with
    | none => exact ⟨rfl, hseen⟩
    | some entry => exact ⟨rfl, hseen⟩

theorem runAlone_owner?_seen (h : c.store.fault = none) :
    (runAlone host (Registrar.owner? user) c).1 = ownerIn (c.seen (Key.registry user.text)) := by
  rw [← (runAlone_readEntry_seen user host h).1, Registrar.owner?, runAlone_bind]
  cases (runAlone host (Registrar.readEntry user) c).1 <;> rfl

/-- The entry of the user can be seen and names the instance. -/
def Names (c : Cluster) (user : UserId) (id : InstanceId) : Prop :=
  ownerIn (c.seen (Key.registry user.text)) = .ok (some id)

theorem names_iff_runAlone_owner? {user : UserId} {id : InstanceId} (host : Nat)
    (h : c.store.fault = none) :
    (runAlone host (Registrar.owner? user) c).1 = .ok (some id) ↔ c.Names user id := by
  rw [runAlone_owner?_seen user host h, Names]

theorem Names.exists_slot {user : UserId} {id : InstanceId} (h : c.Names user id) :
    ∃ slot, c.seen (Key.registry user.text) = some slot ∧ ownerIn (some slot) = .ok (some id) := by
  rw [Names] at h
  cases hslot : c.seen (Key.registry user.text) with
  | none =>
    rw [hslot] at h
    cases h
  | some slot => exact ⟨slot, rfl, hslot ▸ h⟩

/-! ## Writing and deleting -/

theorem seen_insert_entry (e : RegistryEntry) (ttl : Nat) :
    (c.withSlots (c.store.slots.insert (Key.registry user.text)
        { held := .text e.toJson, expiresAt := some (c.now + ttl) })).seen =
      Function.update c.seen (Key.registry user.text) (e.slot.renewed c.now ttl) := by
  have hlive := Slots.isLive_renewal c.now e.slot ttl
  rw [seen_withSlots, Slots.visible_insert, Option.filter_some]
  simp only [RegistryEntry.slot] at hlive ⊢
  rw [hlive]
  simp only [decide_eq_true_eq]
  rfl

theorem seen_register (session : SessionHandle) (h : c.store.fault = none) :
    ∃ e : RegistryEntry, e.owner = self.id ∧
      (runAlone host (self.register session) c).2.seen =
        Function.update c.seen (Key.registry session.user.text)
          (e.slot.renewed c.now self.entryTtl) := by
  rcases runAlone_register self host session h with ⟨e, reports, howner, hafter⟩
  refine ⟨e, howner, ?_⟩
  rw [hafter]
  exact seen_insert_entry (c := c.keeping host (fun d => d.insert session.user session) reports)
    session.user e self.entryTtl

/-- Nothing is deleted but an entry that names the instance or cannot be read. -/
theorem seen_release (h : c.store.fault = none) :
    (runAlone host (self.release user) c).2.seen = c.seen ∨
      (ownerIn (c.seen (Key.registry user.text)) = .ok (some self.id) ∨
        ownerIn (c.seen (Key.registry user.text)) = .error .codec) ∧
      (runAlone host (self.release user) c).2.seen =
        Function.update c.seen (Key.registry user.text) none := by
  rcases runAlone_readEntry_seen user host h with ⟨hread, hseen⟩
  have hhealthy : (runAlone host (Registrar.readEntry user) c).2.store.fault = none := by
    rw [fault_runAlone, h]
  have hdelete := seen_delete host (Key.registry user.text) hhealthy
  rw [hseen] at hdelete
  have hdone := runAlone_store host (.delete (Key.registry user.text)) hhealthy
  rw [← hread, Registrar.release, runAlone_bind, Registrar.deleteOwnEntry, runAlone_bind]
  cases hreply : (runAlone host (Registrar.readEntry user) c).1 with
  | error e =>
    cases e with
    | codec =>
      refine Or.inr ⟨Or.inr rfl, ?_⟩
      simp only [hdone] at hdelete ⊢
      exact hdelete
    | unavailable | timeout => exact Or.inl hseen
  | ok entry =>
    cases entry with
    | none => exact Or.inl hseen
    | some entry =>
      by_cases hown : entry.owner = self.id
      · refine Or.inr ⟨Or.inl (by rw [Except.map, Option.map_some, hown]), ?_⟩
        simp only [hown, ne_eq, not_true_eq_false, if_false]
        simp only [hdone] at hdelete ⊢
        exact hdelete
      · refine Or.inl ?_
        simp only [hown, ne_eq, not_false_eq_true, if_true]
        exact hseen

/-! ## Refreshing -/

/-- Refreshing the user of an open session extends the entry that is seen, whoever wrote it, and
    writes one where none is. -/
theorem runAlone_refresh_of_holdsOpen (h : c.store.fault = none)
    (hopen : c.holdsOpen host user = true) :
    ∃ slots, runAlone host (self.refresh user) c = (.ok true, c.withSlots slots) ∧
      ((∃ slot, c.seen (Key.registry user.text) = some slot ∧
          (c.withSlots slots).seen = Function.update c.seen (Key.registry user.text)
            (slot.renewed c.now self.entryTtl)) ∨
        c.seen (Key.registry user.text) = none ∧ ∃ e : RegistryEntry, e.owner = self.id ∧
          (c.withSlots slots).seen = Function.update c.seen (Key.registry user.text)
            (e.slot.renewed c.now self.entryTtl)) := by
  have hexpire := runAlone_store host (.expire (Key.registry user.text) self.entryTtl) h
  have hextended := seen_expire host (Key.registry user.text) self.entryTtl h
  rw [hexpire] at hextended
  -- The reply of the first call says whether there was an entry to extend.
  have hreply : (c.store.slots.call c.now (.expire (Key.registry user.text) self.entryTtl)).1 =
      (c.seen (Key.registry user.text)).isSome := Slots.call_expire _ _ _ _
  rw [holdsOpen] at hopen
  rw [Registrar.refresh, runAlone_bind, runAlone_perform]
  cases hfound : (c.directory host).find? user with
  | none =>
    rw [hfound, Option.any_none] at hopen
    exact absurd hopen Bool.false_ne_true
  | some session =>
    rw [hfound, Option.any_some] at hopen
    simp only [perform, hfound]
    rw [runAlone_bind, runAlone_perform]
    simp only [perform, hopen, if_true]
    rw [runAlone_bind, hexpire, hreply]
    cases hslot : c.seen (Key.registry user.text) with
    | some slot =>
      refine ⟨_, rfl, Or.inl ⟨slot, rfl, ?_⟩⟩
      rw [hslot, Option.bind_some] at hextended
      exact hextended
    | none =>
      let c1 := c.withSlots
        (c.store.slots.call c.now (.expire (Key.registry user.text) self.entryTtl)).2
      rcases runAlone_writeEntry self user host (c := c1) h with ⟨e, howner, hwrite⟩
      simp only [Option.isSome_none]
      rw [runAlone_bind, hwrite]
      refine ⟨_, rfl, Or.inr ⟨trivial, e, howner, ?_⟩⟩
      -- Extending nothing has changed nothing.
      have hseen : c1.seen = c.seen := by
        rw [hslot, Option.bind_none, ← hslot, Function.update_eq_self] at hextended
        exact hextended
      rw [← hseen]
      exact seen_insert_entry (c := c1) user e self.entryTtl

end Cluster

/-- What refreshing makes of an entry. It is extended or written only by an instance that holds an
    open session for the user. -/
inductive Refreshed (c : Cluster) (host : Nat) (r : Registrar) (user : UserId) :
    Option Slot → Option Slot → Prop where
  | kept (slot : Option Slot) : Refreshed c host r user slot slot
  | extended (slot : Slot) (hopen : c.holdsOpen host user = true) :
    Refreshed c host r user (some slot) (slot.renewed c.now r.entryTtl)
  | written (e : RegistryEntry) (howner : e.owner = r.id) (hopen : c.holdsOpen host user = true) :
    Refreshed c host r user none (e.slot.renewed c.now r.entryTtl)

section Refreshing

open Cluster

variable {c : Cluster} {host : Nat} {self : Registrar} {user : UserId}

/-- Refreshing for a second time at the same instant adds nothing. -/
theorem Refreshed.eq_of_renewed {slot : Slot} {after : Option Slot}
    (h : Refreshed c host self user (slot.renewed c.now self.entryTtl) after) :
    after = slot.renewed c.now self.entryTtl := by
  have htwice := renewed_renewed slot c.now self.entryTtl
  generalize hbefore : slot.renewed c.now self.entryTtl = before at h
  rw [hbefore] at htwice
  cases h with
  | kept => rfl
  | extended again hopen => exact htwice
  | written e howner hopen =>
    -- An entry that was extended and is gone was given no time to live, and nor is the next one.
    rw [Slot.renewed] at hbefore ⊢
    split at hbefore
    · cases hbefore
    · next httl => rw [if_neg httl]

theorem Refreshed.trans {before between after : Option Slot}
    (h : Refreshed c host self user before between)
    (h' : Refreshed c host self user between after) : Refreshed c host self user before after := by
  cases h with
  | kept => exact h'
  | extended slot hopen =>
    rw [h'.eq_of_renewed]
    exact .extended slot hopen
  | written e howner hopen =>
    rw [h'.eq_of_renewed]
    exact .written e howner hopen

theorem Refreshed.congr {c' : Cluster} {before after : Option Slot}
    (h : Refreshed c' host self user before after) (hnow : c'.now = c.now)
    (hopen : c'.holdsOpen host user = c.holdsOpen host user) :
    Refreshed c host self user before after := by
  cases h with
  | kept => exact .kept _
  | extended slot hopen' =>
    rw [hnow]
    exact .extended slot (hopen ▸ hopen')
  | written e howner hopen' =>
    rw [hnow]
    exact .written e howner (hopen ▸ hopen')

/-- What is seen when some users have been refreshed. The entry of a user among them who is
    attached has been given its full time to live. -/
structure EntriesRefreshed (c : Cluster) (host : Nat) (r : Registrar) (users : List UserId)
    (after : Cluster) : Prop where
  /-- Nothing but the store has changed. -/
  slots : ∃ slots, after = c.withSlots slots
  refreshed : ∀ user, Refreshed c host r user (c.seen (Key.registry user.text))
    (after.seen (Key.registry user.text))
  renewed : ∀ user ∈ users, c.holdsOpen host user = true →
    ∀ slot, after.seen (Key.registry user.text) = some slot →
      slot.expiresAt = some (c.now + r.entryTtl)

theorem entriesRefreshed_refresh (host : Nat) (self : Registrar) (user : UserId)
    (h : c.store.fault = none) :
    EntriesRefreshed c host self [user] (runAlone host (self.refresh user) c).2 := by
  cases hopen : c.holdsOpen host user with
  | false =>
    rw [runAlone_refresh_of_closed self user host hopen]
    refine ⟨⟨c.store.slots, rfl⟩, fun other => .kept _, fun other hother hopen' => ?_⟩
    rw [List.mem_singleton.1 hother, hopen] at hopen'
    exact absurd hopen' Bool.false_ne_true
  | true =>
    rcases runAlone_refresh_of_holdsOpen self user host h hopen with ⟨slots, hrun, hseen⟩
    rw [hrun]
    refine ⟨⟨slots, rfl⟩, fun other => ?_, fun other hother _ slot hslot => ?_⟩
    · by_cases hother : other = user
      · subst hother
        rcases hseen with ⟨slot, hslot, hseen⟩ | ⟨hslot, e, howner, hseen⟩
        · rw [hseen, Function.update_self, hslot]
          exact .extended slot hopen
        · rw [hseen, Function.update_self, hslot]
          exact .written e howner hopen
      · have hne : Key.registry other.text ≠ Key.registry user.text :=
          fun hkey => hother (Key.registry_inj.1 hkey)
        have hsame : (c.withSlots slots).seen (Key.registry other.text) =
            c.seen (Key.registry other.text) := by
          rcases hseen with ⟨_, _, hseen⟩ | ⟨_, _, _, hseen⟩ <;>
            rw [hseen, Function.update_of_ne hne]
        rw [hsame]
        exact .kept _
    · rw [List.mem_singleton.1 hother] at hslot
      rcases hseen with ⟨_, _, hseen⟩ | ⟨_, _, _, hseen⟩
      · rw [hseen, Function.update_self] at hslot
        exact expiresAt_of_renewed hslot
      · rw [hseen, Function.update_self] at hslot
        exact expiresAt_of_renewed hslot

/-- Users are refreshed one after another. What has been renewed before is renewed at most once
    more. -/
theorem EntriesRefreshed.append {users rest : List UserId} {c1 after : Cluster}
    (h : EntriesRefreshed c host self users c1) (h' : EntriesRefreshed c1 host self rest after) :
    EntriesRefreshed c host self (users ++ rest) after := by
  rcases h.slots with ⟨slots, rfl⟩
  rcases h'.slots with ⟨slots', rfl⟩
  refine ⟨⟨slots', rfl⟩, fun user => (h.refreshed user).trans ((h'.refreshed user).congr rfl rfl),
    ?_⟩
  intro user huser hopen slot hslot
  rcases List.mem_append.1 huser with hmem | hmem
  · have hlater := h'.refreshed user
    rw [hslot] at hlater
    generalize hbetween : (c.withSlots slots).seen (Key.registry user.text) = between at hlater
    generalize hafter : some slot = after at hlater
    cases hlater with
    | kept => exact h.renewed user hmem hopen slot (hbetween.trans hafter.symm)
    | extended again _ => exact expiresAt_of_renewed hafter.symm
    | written e _ _ => exact expiresAt_of_renewed hafter.symm
  · exact h'.renewed user hmem hopen slot hslot

theorem entriesRefreshed_refreshEach (host : Nat) (self : Registrar)
    (sessions : List SessionHandle) (refreshed : Nat) (h : c.store.fault = none) :
    EntriesRefreshed c host self (sessions.map SessionHandle.user)
      (runAlone host (self.refreshEach sessions refreshed) c).2 := by
  induction sessions generalizing c refreshed with
  | nil =>
    exact ⟨⟨c.store.slots, rfl⟩, fun user => .kept _, fun _ hmem => absurd hmem List.not_mem_nil⟩
  | cons session rest ih =>
    have hfirst := entriesRefreshed_refresh host self session.user h
    have hhealthy : (runAlone host (self.refresh session.user) c).2.store.fault = none := by
      rw [fault_runAlone, h]
    -- A store that answers lets every refresh succeed, so nothing is warned about or counted.
    have hresult : ∃ done, (runAlone host (self.refresh session.user) c).1 = .ok done := by
      cases hopen : c.holdsOpen host session.user with
      | false => exact ⟨false, by rw [runAlone_refresh_of_closed self session.user host hopen]⟩
      | true =>
        rcases runAlone_refresh_of_holdsOpen self session.user host h hopen with ⟨_, hrun, _⟩
        exact ⟨true, by rw [hrun]⟩
    rcases hresult with ⟨done, hresult⟩
    rw [Registrar.refreshEach, runAlone_bind, hresult]
    cases done with
    | false => exact hfirst.append (ih refreshed hhealthy)
    | true => exact hfirst.append (ih (refreshed + 1) hhealthy)

theorem entriesRefreshed_refreshAll (host : Nat) (self : Registrar) (h : c.store.fault = none) :
    EntriesRefreshed c host self ((c.directory host).values.map SessionHandle.user)
      (runAlone host self.refreshAll c).2 := by
  rw [Registrar.refreshAll, runAlone_bind, runAlone_perform]
  exact entriesRefreshed_refreshEach host self _ 0 h

end Refreshing

end ChatCluster
