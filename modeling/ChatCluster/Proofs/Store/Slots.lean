import ChatCluster.Store.Memory
import Mathlib.Data.List.Nodup

/-!
# Calls and Slots

What calls to the store leave as it is. A key that has not expired is not swept, so a look at it
changes nothing. A set never holds a name twice, whatever calls are made.

## Main definitions

* `Slots.SetsNodup`: No set holds a name twice.

## Theorems

* `Slots.sweep_eq_self`: A key that is visible or absent is not swept.
* `Slots.SetsNodup.call`: Sets go on holding nobody twice.
* `Slots.SetsNodup.nodup_members`: Nobody is listed twice.
-/

namespace ChatCluster

/-- The same texts are listed, in another order. -/
theorem sortTexts_perm (texts : List String) : (sortTexts texts).Perm texts :=
  List.mergeSort_perm texts _

namespace Slots

theorem sweep_eq_self {slots : Slots} {now : Nat} {key : String}
    (h : ∀ slot, slots.find? key = some slot → slot.isLive now = true) :
    slots.sweep now key = slots := by
  apply Table.ext
  simp only [sweep, Table.filter]
  rw [List.filter_eq_self]
  rintro ⟨k, slot⟩ hmem
  -- Other keys are not swept, and the key itself has not expired.
  by_cases hk : k = key
  · subst hk
    simp only [h slot ((Table.mem_iff_find? slots k slot).1 hmem), Bool.or_true]
  · simp only [ne_eq, hk, not_false_eq_true, decide_true, Bool.true_or]

/-- No set holds a name twice. -/
def SetsNodup (slots : Slots) : Prop :=
  ∀ key slot, slots.find? key = some slot → slot.members.Nodup

theorem setsNodup_empty : SetsNodup (.empty : Slots) :=
  fun _ _ h => absurd h (by simp only [Table.find?_empty, reduceCtorEq, not_false_eq_true])

variable {slots : Slots}

theorem SetsNodup.filter (h : slots.SetsNodup) (p : String → Slot → Bool) :
    SetsNodup (Table.filter p slots) := by
  intro key slot hslot
  rw [Table.find?_filter] at hslot
  exact h key slot (Option.eq_some_of_filter_eq_some hslot)

theorem SetsNodup.insert (h : slots.SetsNodup) (key : String) {slot : Slot}
    (hslot : slot.members.Nodup) : SetsNodup (Table.insert slots key slot) := by
  intro other found hfound
  rw [Table.find?_insert] at hfound
  split at hfound
  · exact Option.some.inj hfound ▸ hslot
  · exact h other found hfound

theorem members_withMember {slot : Slot} (h : slot.members.Nodup) (member : String) :
    (Slot.withMember slot member).members.Nodup := by
  rw [Slot.withMember]
  split
  · exact h
  · next hnot =>
    change (slot.members ++ [member]).Nodup
    rw [List.nodup_append]
    refine ⟨h, List.nodup_singleton _, fun a ha b hb => ?_⟩
    rw [List.mem_singleton.1 hb]
    exact fun heq => hnot (heq ▸ ha)

/-- Sets go on holding nobody twice. -/
theorem SetsNodup.call (h : slots.SetsNodup) (now : Nat) (call : StoreCall) :
    (slots.call now call).2.SetsNodup := by
  cases call with
  | get key => exact h.filter _
  | set key value ttl => exact h.insert key List.nodup_nil
  | delete key => exact (h.filter _).filter _
  | expire key ttl =>
    intro other slot hslot
    simp only [Slots.call, Table.find?_update] at hslot
    split at hslot
    · rcases Option.map_eq_some_iff.1 hslot with ⟨old, hold, rfl⟩
      exact h.filter _ other old hold
    · exact h.filter _ other slot hslot
  | keys start => exact h.filter _
  | addMember key member =>
    simp only [Slots.call]
    split
    · exact (h.filter _).insert key (List.nodup_singleton _)
    · next slot hslot =>
      exact (h.filter _).insert key (members_withMember (h.filter _ key slot hslot) _)
  | removeMember key member =>
    simp only [Slots.call]
    split
    · next names expiresAt hslot =>
      have hnames : names.Nodup := h.filter _ key _ hslot
      split
      · exact (h.filter _).filter _
      · exact (h.filter _).insert key (hnames.filter _)
    · exact h.filter _
  | members key => exact h.filter _

/-- Nobody is listed twice. -/
theorem SetsNodup.nodup_members (h : slots.SetsNodup) (now : Nat) (key : String) :
    ((slots.call now (.members key)).1 : List String).Nodup := by
  -- The members are listed in order, which is another order than that of the set.
  refine (sortTexts_perm _).nodup_iff.2 ?_
  cases hslot : Table.find? (Slots.sweep slots now key) key with
  | none => exact List.nodup_nil
  | some slot => exact h.filter _ key slot hslot

/-- A call that may fail puts nobody into a set twice either. -/
theorem SetsNodup.storeCall {store : MemoryStore} (h : store.slots.SetsNodup) (now : Nat)
    (call : StoreCall) : (store.call now call).2.slots.SetsNodup := by
  rw [MemoryStore.call]
  split
  · exact h
  · exact h.call now call

theorem SetsNodup.nodup_storeCall {store : MemoryStore} (h : store.slots.SetsNodup) {now : Nat}
    {key : String} {names : List String} (hcall : (store.call now (.members key)).1 = .ok names) :
    names.Nodup := by
  rw [MemoryStore.call] at hcall
  split at hcall
  · simp only [reduceCtorEq] at hcall
  · rw [← Except.ok.inj hcall]
    exact h.nodup_members now key

end Slots

end ChatCluster
