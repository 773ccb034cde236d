import ChatCluster.Proofs.Store.Slots
import Mathlib.Logic.Function.Basic

/-!
# What Calls See

The store keeps expired keys until a call happens to touch them, so what it holds is not what
anybody can see of it. `Slots.visible` is what can be seen: for each key the slot that a call at
the given instant would find. In these terms expiry is not an event. A key just stops being
visible, and sweeping never shows.

Every reply is a function of what is visible, and every call changes what is visible at one key at
most, however much it sweeps on the way. What is laid down here for each kind of call is all that
is needed of the store where keys may expire.

## Main definitions

* `Slots.visible`: What calls at an instant see.
* `Slot.renewed`: A slot with a time to live that begins now.
* `Slot.LastsUntil`, `Slot.GoneBy`: A slot expires no earlier or no later than an instant.
* `StoreCall.writes?`: The key that a call may change.
* `Slots.visibleKeys`: The visible keys that begin with a text.

## Theorems

* `Slots.visible_get`, `Slots.visible_set`, `Slots.visible_delete`, `Slots.visible_expire`: What is
  visible after a call.
* `Slots.visible_call_of_ne`: Other keys are left alone.
* `Slots.text_call`: What can be read after a call could be read before, or has been written.
* `Slots.visible_later`: What is visible later was visible before.
* `Slots.keys_call_perm`, `Slots.mem_visibleKeys_iff`: What is listed is what is visible.
-/

namespace ChatCluster

/-- The slot with a time to live that begins now. One that lives for no time is gone at once. -/
def Slot.renewed (slot : Slot) (now ttl : Nat) : Option Slot :=
  if 0 < ttl then some { slot with expiresAt := some (now + ttl) } else none

/-- The slot does not expire before an instant. -/
def Slot.LastsUntil (slot : Slot) (instant : Nat) : Prop :=
  ∀ deadline, slot.expiresAt = some deadline → instant ≤ deadline

/-- The slot expires, and not after an instant. -/
def Slot.GoneBy (slot : Slot) (instant : Nat) : Prop :=
  ∃ deadline, slot.expiresAt = some deadline ∧ deadline ≤ instant

/-- The key that a call may change what is visible at. -/
def StoreCall.writes? : StoreCall → Option String
  | .set key _ _ | .delete key | .expire key _ | .addMember key _ | .removeMember key _ => some key
  | .get _ | .keys _ | .members _ => none

/-! ## Deadlines -/

section Deadlines

variable {slot after : Slot} {now ttl instant : Nat}

theorem eq_of_renewed (h : slot.renewed now ttl = some after) :
    after = { slot with expiresAt := some (now + ttl) } := by
  rw [Slot.renewed] at h
  split at h
  · exact (Option.some.inj h).symm
  · cases h

theorem expiresAt_of_renewed (h : slot.renewed now ttl = some after) :
    after.expiresAt = some (now + ttl) := by
  rw [eq_of_renewed h]

/-- Renewing at the same instant for a second time changes nothing. -/
theorem renewed_renewed (slot : Slot) (now ttl : Nat) :
    ((slot.renewed now ttl).bind fun s => s.renewed now ttl) = slot.renewed now ttl := by
  rw [Slot.renewed]
  by_cases h : 0 < ttl
  · rw [if_pos h, Option.bind_some, Slot.renewed, if_pos h]
  · rw [if_neg h, Option.bind_none]

theorem Slot.LastsUntil.isLive (h : slot.LastsUntil instant) (hnow : now < instant) :
    slot.isLive now = true := by
  rw [Slot.isLive]
  cases hdeadline : slot.expiresAt with
  | none => rfl
  | some deadline =>
    have hlast := h deadline hdeadline
    simp only [Option.all_some, decide_eq_true_eq]
    omega

theorem lastsUntil_of_renewed (h : slot.renewed now ttl = some after)
    (hinstant : instant ≤ now + ttl) : after.LastsUntil instant := by
  intro deadline hdeadline
  rw [expiresAt_of_renewed h, Option.some.injEq] at hdeadline
  omega

theorem Slot.GoneBy.mono {later : Nat} (h : slot.GoneBy instant) (hlater : instant ≤ later) :
    slot.GoneBy later := by
  rcases h with ⟨deadline, hdeadline, hle⟩
  exact ⟨deadline, hdeadline, Nat.le_trans hle hlater⟩

theorem Slot.GoneBy.lt (h : slot.GoneBy instant) (hlive : slot.isLive now = true) :
    now < instant := by
  rcases h with ⟨deadline, hdeadline, hle⟩
  simp only [Slot.isLive, hdeadline, Option.all_some, decide_eq_true_eq] at hlive
  omega

theorem goneBy_of_renewed (h : slot.renewed now ttl = some after) : after.GoneBy (now + ttl) :=
  ⟨now + ttl, expiresAt_of_renewed h, Nat.le_refl _⟩

/-- A slot that was renewed is gone only when its time to live is over. -/
theorem le_of_renewed_gone {later : Nat} (hle : now ≤ later)
    (h : ((slot.renewed now ttl).filter fun s => s.isLive later) = none) : now + ttl ≤ later := by
  rw [Slot.renewed] at h
  by_cases httl : 0 < ttl
  · rw [if_pos httl, Option.filter_some] at h
    by_contra hlate
    have hlive : ({ slot with expiresAt := some (now + ttl) } : Slot).isLive later = true := by
      rw [Slot.isLive, Option.all_some, decide_eq_true_eq]
      omega
    rw [if_pos hlive] at h
    cases h
  · omega

end Deadlines

namespace Slots

variable (slots : Slots) (now : Nat)

/-- What a call at a given instant sees at a key. -/
def visible (key : String) : Option Slot :=
  (slots.find? key).filter fun slot => slot.isLive now

/-- The visible keys that begin with a text. -/
def visibleKeys (start : String) : List String :=
  (slots.sweepAll now).keys.filter (Text.startsWith start)

theorem visible_eq_some_iff {key : String} {slot : Slot} :
    slots.visible now key = some slot ↔ slots.find? key = some slot ∧ slot.isLive now = true := by
  rw [visible, Option.filter_eq_some_iff]

/-- Time does no more than hide what was visible. -/
theorem visible_later {later : Nat} (h : now ≤ later) (key : String) :
    slots.visible later key = (slots.visible now key).filter fun slot => slot.isLive later := by
  rw [visible, visible, Option.filter_filter]
  congr 1
  funext slot
  -- Whatever outlasts the later instant outlasts the earlier one.
  have hlive : slot.isLive later = true → slot.isLive now = true := by
    intro hlater
    rw [Slot.isLive] at hlater ⊢
    cases hdeadline : slot.expiresAt with
    | none => rfl
    | some deadline =>
      simp only [hdeadline, Option.all_some, decide_eq_true_eq] at hlater ⊢
      omega
  cases hlater : slot.isLive later with
  | false => rw [Bool.and_false]
  | true => rw [hlive hlater, Bool.and_self]

theorem isLive_renewal (slot : Slot) (ttl : Nat) :
    ({ slot with expiresAt := some (now + ttl) } : Slot).isLive now = decide (0 < ttl) := by
  simp only [Slot.isLive, Option.all_some]
  congr 1
  exact propext ⟨fun h => by omega, fun h => by omega⟩

/-! ## What the parts of calls do -/

theorem find?_sweep_self (key : String) :
    (slots.sweep now key).find? key = slots.visible now key := by
  rw [sweep, Table.find?_filter, visible]
  simp only [ne_eq, not_true_eq_false, decide_false, Bool.false_or]

theorem visible_sweep (key : String) : (slots.sweep now key).visible now = slots.visible now := by
  funext other
  rw [visible, sweep, Table.find?_filter, Option.filter_filter, visible]
  congr 1
  funext slot
  cases slot.isLive now with
  | false => simp only [Bool.and_false]
  | true => simp only [Bool.or_true, Bool.and_self]

theorem visible_sweepAll : (slots.sweepAll now).visible now = slots.visible now := by
  funext other
  rw [visible, sweepAll, Table.find?_filter, Option.filter_filter, visible]
  simp only [Bool.and_self]

theorem visible_insert (key : String) (slot : Slot) :
    visible (Table.insert slots key slot) now =
      Function.update (slots.visible now) key ((some slot).filter fun s => s.isLive now) := by
  funext other
  rw [visible, Table.find?_insert, Function.update_apply]
  split <;> rfl

theorem visible_erase (key : String) :
    visible (Table.erase slots key) now = Function.update (slots.visible now) key none := by
  funext other
  rw [visible, Table.find?_erase, Function.update_apply]
  split <;> rfl

/-! ## Calls -/

theorem visible_get (key : String) :
    (slots.call now (.get key)).2.visible now = slots.visible now :=
  slots.visible_sweep now key

theorem call_get (key : String) :
    (slots.call now (.get key)).1 = (slots.visible now key).bind Slot.text? := by
  simp only [call, find?_sweep_self]

theorem visible_set (key value : String) (ttl : Nat) :
    (slots.call now (.set key value ttl)).2.visible now =
      Function.update (slots.visible now) key
        (Slot.renewed { held := .text value, expiresAt := none } now ttl) := by
  have hlive := isLive_renewal now { held := .text value, expiresAt := none } ttl
  simp only [call, visible_insert, Option.filter_some, hlive, decide_eq_true_eq]
  rfl

theorem visible_delete (key : String) :
    (slots.call now (.delete key)).2.visible now =
      Function.update (slots.visible now) key none := by
  simp only [call, visible_erase, visible_sweep]

theorem call_delete (key : String) :
    (slots.call now (.delete key)).1 = (slots.visible now key).isSome := by
  simp only [call, Table.contains, find?_sweep_self]

theorem visible_expire (key : String) (ttl : Nat) :
    (slots.call now (.expire key ttl)).2.visible now =
      Function.update (slots.visible now) key
        ((slots.visible now key).bind fun slot => slot.renewed now ttl) := by
  funext other
  simp only [call, visible, Table.find?_update, Function.update_apply]
  by_cases ho : other = key
  · subst ho
    rw [if_pos rfl, if_pos rfl, find?_sweep_self, visible]
    cases (slots.find? other).filter fun slot => slot.isLive now with
    | none => rfl
    | some slot =>
      simp only [Option.map_some, Option.filter_some, isLive_renewal, decide_eq_true_eq]
      rfl
  · rw [if_neg ho, if_neg ho]
    exact congrFun (slots.visible_sweep now key) other

theorem call_expire (key : String) (ttl : Nat) :
    (slots.call now (.expire key ttl)).1 = (slots.visible now key).isSome := by
  simp only [call, Table.contains, find?_sweep_self]

theorem visible_keys (start : String) :
    (slots.call now (.keys start)).2.visible now = slots.visible now :=
  slots.visible_sweepAll now

theorem visible_call_of_ne (call : StoreCall) {key : String} (h : call.writes? ≠ some key) :
    (slots.call now call).2.visible now key = slots.visible now key := by
  -- Adding to a set and removing from one end in an insertion or an erasure after a sweep.
  have hinsert : ∀ written slot, written ≠ key →
      visible (Table.insert (slots.sweep now written) written slot) now key =
        slots.visible now key := by
    intro written slot hne
    rw [visible_insert, Function.update_of_ne hne.symm, visible_sweep]
  have herase : ∀ written, written ≠ key →
      visible (Table.erase (slots.sweep now written) written) now key =
        slots.visible now key := by
    intro written hne
    rw [visible_erase, Function.update_of_ne hne.symm, visible_sweep]
  cases call with
  | get read => rw [visible_get]
  | keys start => rw [visible_keys]
  | members read => exact congrFun (slots.visible_sweep now read) key
  | set written value ttl =>
    have hne : key ≠ written := fun heq => h (congrArg some heq.symm)
    rw [visible_set, Function.update_of_ne hne]
  | delete written =>
    have hne : key ≠ written := fun heq => h (congrArg some heq.symm)
    rw [visible_delete, Function.update_of_ne hne]
  | expire written ttl =>
    have hne : key ≠ written := fun heq => h (congrArg some heq.symm)
    rw [visible_expire, Function.update_of_ne hne]
  | addMember written member =>
    have hne : written ≠ key := fun heq => h (congrArg some heq)
    simp only [Slots.call]
    split
    · exact hinsert written _ hne
    · exact hinsert written _ hne
  | removeMember written member =>
    have hne : written ≠ key := fun heq => h (congrArg some heq)
    simp only [Slots.call]
    split
    · split
      · exact herase written hne
      · exact hinsert written _ hne
    · rw [visible_sweep]

/-- A text that can be read after a call could be read before, or has just been written. -/
theorem text_call {call : StoreCall} {key text : String}
    (h : ((slots.call now call).2.visible now key).bind Slot.text? = some text) :
    (slots.visible now key).bind Slot.text? = some text ∧ call ≠ .delete key ∨
      ∃ ttl, call = .set key text ttl := by
  by_cases hwrites : call.writes? = some key
  · cases call with
    | get | keys | members => cases hwrites
    | set written value ttl =>
      cases hwrites
      rw [visible_set, Function.update_self, Slot.renewed] at h
      split at h
      · exact Or.inr ⟨ttl, by rw [← Option.some.inj h]⟩
      · cases h
    | delete written =>
      cases hwrites
      rw [visible_delete, Function.update_self] at h
      cases h
    | expire written ttl =>
      cases hwrites
      rw [visible_expire, Function.update_self] at h
      refine Or.inl ⟨?_, by simp⟩
      cases hslot : slots.visible now key with
      | none =>
        rw [hslot] at h
        cases h
      | some slot =>
        rw [hslot, Option.bind_some, Slot.renewed] at h
        split at h
        · exact h
        · cases h
    | addMember written member =>
      cases hwrites
      -- What a set is put in place of is no text any more.
      have hset : ∀ slot : Slot, slot.text? = none →
          (visible (Table.insert (slots.sweep now key) key slot) now key).bind Slot.text? =
            none := by
        intro slot hnone
        rw [visible_insert, Function.update_self, Option.filter_some]
        split
        · exact hnone
        · rfl
      have hnone : ((slots.call now (.addMember key member)).2.visible now key).bind Slot.text? =
          none := by
        simp only [call]
        split
        · exact hset _ rfl
        · refine hset _ ?_
          rw [Slot.withMember]
          split <;> rfl
      rw [hnone] at h
      cases h
    | removeMember written member =>
      cases hwrites
      refine Or.inl ⟨?_, by simp⟩
      simp only [call] at h
      split at h
      · split at h
        · rw [visible_erase, Function.update_self] at h
          cases h
        · rw [visible_insert, Function.update_self, Option.filter_some] at h
          split at h <;> cases h
      · rwa [visible_sweep] at h
  · rw [visible_call_of_ne _ _ call hwrites] at h
    refine Or.inl ⟨h, ?_⟩
    rintro rfl
    exact hwrites rfl

/-! ## Lists of keys -/

theorem mem_visibleKeys_iff {start key : String} :
    key ∈ slots.visibleKeys now start ↔
      (slots.visible now key).isSome = true ∧ Text.startsWith start key = true := by
  rw [visibleKeys, List.mem_filter, Table.mem_keys_iff, sweepAll, Table.find?_filter]
  rfl

theorem nodup_visibleKeys (start : String) : (slots.visibleKeys now start).Nodup :=
  (slots.sweepAll now).nodup_keys.filter _

/-- The keys that are listed are the visible ones, in order. -/
theorem keys_call_perm (start : String) :
    ((slots.call now (.keys start)).1 : List String).Perm (slots.visibleKeys now start) :=
  sortTexts_perm _

end Slots

end ChatCluster
