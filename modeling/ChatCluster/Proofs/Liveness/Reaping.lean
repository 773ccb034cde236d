import ChatCluster.Instance.Liveness
import ChatCluster.Proofs.Cluster.Faults
import ChatCluster.Proofs.Cluster.Seen

/-!
# What a Reap Pass Deletes

An entry is orphaned if it cannot be read, or names an instance that is neither the one that looks
nor has a record that can be seen. A pass that is left alone deletes exactly the orphaned entries.

The set of live instances that the pass begins with is not what decides. It leaves out instances
with blank names, and the pass asks for the owner's record again before it condemns an entry. What
matters is only that whoever is in the set is alive, which stays true while entries are deleted,
since no key of an entry is the key of a record.

Any call of a pass may fail. The pass then gives up, and has deleted some of the orphaned entries
and nothing else. Both ends of a pass are shown in one go, with `Cluster.Attempts`.

## Main definitions

* `Cluster.countsAlive`: Who counts as alive.
* `Cluster.deadText`, `Cluster.orphaned`: Which entries are orphaned.
* `Cluster.SignsReadable`: Records of liveness are texts.
* `Cluster.Reaped`, `Cluster.PartlyReaped`: What is seen when a pass ends well or gives up.
* `Cluster.RightVerdict`: What can be said of a verdict.
* `Cluster.LoopEnds`, `Cluster.PassEnds`: How the loop and the pass end.

## Theorems

* `Cluster.attempts_judge`: An entry is condemned if it is orphaned.
* `Cluster.attempts_reapEach`: The loop, by induction on the keys that are left.
* `Cluster.attempts_reap`: The pass.
* `reap_deletes_exactly_orphaned`: The pass, on a store that answers and on one that fails.
-/

namespace ChatCluster

open Operation

theorem Text.exists_of_startsWith {start s : String} (h : Text.startsWith start s = true) :
    ∃ rest, s = start ++ rest := by
  rw [Text.startsWith, Option.isSome_iff_exists] at h
  rcases h with ⟨cs, hcs⟩
  refine ⟨String.ofList cs, String.toList_injective ?_⟩
  rw [(Text.charsAfter?_eq_some_iff _ _ _).1 hcs, String.toList_append, String.toList_ofList]

namespace Cluster

/-- The instance counts as alive for `self`, which is alive whatever its record says. Others have to
    have a record, and a key that holds anything but a text is none. -/
def countsAlive (c : Cluster) (self id : InstanceId) : Bool :=
  id = self || ((c.seen (Key.liveness id.text)).bind Slot.text?).isSome

/-- An entry with the given text cannot be read, or names an instance that does not count as
    alive. -/
def deadText (c : Cluster) (self : InstanceId) (text : String) : Bool :=
  (RegistryEntry.ofJson? text).all fun entry => !c.countsAlive self entry.owner

/-- The key is that of such an entry. -/
def orphaned (c : Cluster) (self : InstanceId) (key : String) : Bool :=
  Text.startsWith Key.registryStart key && ((c.seen key).bind Slot.text?).any (c.deadText self)

/-- Whatever can be seen at the keys of records is a text, be it a record or not. -/
def SignsReadable (c : Cluster) : Prop :=
  ∀ id slot, c.seen (Key.liveness id) = some slot → slot.text?.isSome = true

/-- The visible keys that begin with a text. -/
def seenKeys (c : Cluster) (start : String) : List String :=
  c.store.slots.visibleKeys c.now start

/-- What is seen when the orphaned entries at some keys have been deleted. -/
def Reaped (c : Cluster) (self : InstanceId) (keys : List String) (after : Cluster) : Prop :=
  ∀ key, after.seen key = if key ∈ keys ∧ c.orphaned self key = true then none else c.seen key

/-- What is seen when some of the orphaned entries at some keys have been deleted. -/
def PartlyReaped (c : Cluster) (self : InstanceId) (keys : List String) (after : Cluster) : Prop :=
  ∀ key, after.seen key = c.seen key ∨
    key ∈ keys ∧ c.orphaned self key = true ∧ after.seen key = none

variable {c c' after : Cluster} {self : InstanceId} {host : Nat} {key : String}
  {keys : List String} {live : List InstanceId}

theorem mem_seenKeys_iff {start : String} :
    key ∈ c.seenKeys start ↔ (c.seen key).isSome = true ∧ Text.startsWith start key = true :=
  Slots.mem_visibleKeys_iff _ _

/-- Where the same is seen, the same keys are. -/
theorem seenKeys_perm (h : c'.seen = c.seen) (start : String) :
    (c'.seenKeys start).Perm (c.seenKeys start) := by
  refine (List.perm_ext_iff_of_nodup (Slots.nodup_visibleKeys _ _ _)
    (Slots.nodup_visibleKeys _ _ _)).2 fun key => ?_
  exact mem_seenKeys_iff.trans ((by rw [h] : _ ↔ _).trans mem_seenKeys_iff.symm)

theorem partlyReaped_of_seen_eq (h : after.seen = c.seen) : c.PartlyReaped self keys after :=
  fun key => Or.inl (congrFun h key)

theorem countsAlive_of_deleted (hstart : Text.startsWith Key.registryStart key = true)
    (h : c'.seen = Function.update c.seen key none) : c'.countsAlive self = c.countsAlive self := by
  rcases Text.exists_of_startsWith hstart with ⟨user, rfl⟩
  funext id
  have hsign : c'.seen (Key.liveness id.text) = c.seen (Key.liveness id.text) := by
    rw [h]
    exact Function.update_of_ne (Key.registry_ne_liveness user id.text).symm _ _
  simp only [countsAlive, hsign]

/-- When an entry is deleted, whether another one is orphaned does not change. -/
theorem orphaned_of_deleted (hstart : Text.startsWith Key.registryStart key = true)
    (h : c'.seen = Function.update c.seen key none) {other : String} (hne : other ≠ key) :
    c'.orphaned self other = c.orphaned self other := by
  have hdead : c'.deadText self = c.deadText self := by
    funext text
    rw [deadText, deadText, countsAlive_of_deleted hstart h]
  rw [orphaned, orphaned, hdead, h, Function.update_of_ne hne]

/-! ## One entry -/

/-- Whoever is in the list of live instances counts as alive. -/
def AllAlive (c : Cluster) (self : InstanceId) (live : List InstanceId) : Prop :=
  ∀ id ∈ live, c.countsAlive self id = true

/-- What can be said of a verdict. Only an owner whose record was missing is condemned, and an owner
    in a list of instances that are alive is alive. -/
def RightVerdict (c : Cluster) (self : InstanceId) (live : List InstanceId) (text : String) :
    Monitor.Verdict → Prop
  | .keep => c.AllAlive self live → c.deadText self text = false
  | .revived owner => c.deadText self text = false ∧ c.countsAlive self owner = true
  | .condemn => c.deadText self text = true

/-- A look at a key tells what is seen there, and changes nothing that can be seen. -/
theorem attempts_get (h : c'.seen = c.seen) (key : String) :
    Attempts host (Operation.store (.get key)) c'
      (fun reply after => reply = (c.seen key).bind Slot.text? ∧ after.seen = c.seen)
      (fun after => after.seen = c.seen) := by
  have hreply : (c'.store.slots.call c'.now (.get key)).1 = (c.seen key).bind Slot.text? := by
    rw [Slots.call_get, ← h]
    rfl
  have hseen := (Slots.visible_get c'.store.slots c'.now key).trans h
  exact attempts_store ⟨hreply, hseen⟩ h hseen

theorem attempts_judge (h : c'.seen = c.seen) (hself : self ∈ live) (text : String) :
    Attempts host (Monitor.judge live text) c'
      (fun v after => c.RightVerdict self live text v ∧ after.seen = c.seen)
      (fun after => after.seen = c.seen) := by
  rw [Monitor.judge]
  cases hentry : RegistryEntry.ofJson? text with
  | none =>
    -- A text that is no entry names nobody, and the warning changes nothing that can be seen.
    refine attempts_perform (fun call heq => by cases heq) (attempts_pure ⟨?_, h⟩)
    simp only [RightVerdict, deadText, hentry, Option.all_none]
  | some entry =>
    simp only
    by_cases hmem : entry.owner ∈ live
    · rw [if_pos hmem]
      refine attempts_pure ⟨fun hlive => ?_, h⟩
      simp only [deadText, hentry, Option.all_some, hlive _ hmem, Bool.not_true]
    · rw [if_neg hmem]
      -- The list need not be complete, and so it is the record that tells.
      have hne : entry.owner ≠ self := fun heq => hmem (heq ▸ hself)
      refine attempts_bind (attempts_get h _) (fun e => rfl) ?_
      rintro reply after ⟨hreply, hseen⟩
      cases hsign : (c.seen (Key.liveness entry.owner.text)).bind Slot.text? with
      | none =>
        rw [hreply, hsign]
        refine attempts_pure ⟨?_, hseen⟩
        simp only [RightVerdict, deadText, hentry, Option.all_some, countsAlive, hsign, hne,
          decide_false, Option.isSome_none, Bool.or_self, Bool.not_false]
      | some sign =>
        have halive : c.countsAlive self entry.owner = true := by
          simp only [countsAlive, hsign, Option.isSome_some, Bool.or_true]
        rw [hreply, hsign]
        refine attempts_pure ⟨⟨?_, halive⟩, hseen⟩
        simp only [deadText, hentry, Option.all_some, halive, Bool.not_true]

/-- An entry that still reads as it did is deleted. -/
theorem attempts_deleteUnchanged {text : String} (h : c'.seen = c.seen)
    (htext : (c.seen key).bind Slot.text? = some text) :
    Attempts host (Monitor.deleteUnchanged key text) c'
      (fun removed after => removed = true ∧ after.seen = Function.update c.seen key none)
      (fun after => after.seen = c.seen ∨ after.seen = Function.update c.seen key none) := by
  rw [Monitor.deleteUnchanged]
  refine attempts_bind ((attempts_get h key).mono (fun _ _ hdone => hdone) fun _ => Or.inl)
    (fun e => rfl) ?_
  rintro reply after ⟨hreply, hseen⟩
  rw [htext] at hreply
  simp only [hreply, if_true]
  have hthere : (after.seen key).isSome = true := by
    rw [hseen]
    cases hslot : c.seen key with
    | none =>
      rw [hslot, Option.bind_none] at htext
      exact absurd htext (by simp only [reduceCtorEq, not_false_eq_true])
    | some slot => rfl
  have hdeleted : (after.withSlots (after.store.slots.call after.now (.delete key)).2).seen =
      Function.update c.seen key none := by
    rw [← hseen]
    exact Slots.visible_delete _ _ key
  exact attempts_store ⟨(Slots.call_delete _ _ key).trans hthere, hdeleted⟩ (Or.inl hseen)
    (Or.inr hdeleted)

/-! ## The loop -/

theorem Reaped.cons_of_kept (horphaned : c.orphaned self key = false)
    (h : c.Reaped self keys after) : c.Reaped self (key :: keys) after := by
  intro other
  rw [h other]
  by_cases hother : other = key
  · subst hother
    simp only [horphaned, Bool.false_eq_true, and_false]
  · simp only [List.mem_cons, hother, false_or]

theorem PartlyReaped.cons (h : c.PartlyReaped self keys after) :
    c.PartlyReaped self (key :: keys) after := by
  intro other
  rcases h other with hsame | ⟨hmem, horphaned, hgone⟩
  · exact Or.inl hsame
  · exact Or.inr ⟨List.mem_cons_of_mem key hmem, horphaned, hgone⟩

/-- An entry that is orphaned is deleted, and then the others are gone through. -/
theorem Reaped.cons_of_deleted (hstart : Text.startsWith Key.registryStart key = true)
    (horphaned : c.orphaned self key = true) (hdeleted : c'.seen = Function.update c.seen key none)
    (h : c'.Reaped self keys after) : c.Reaped self (key :: keys) after := by
  intro other
  rw [h other, hdeleted]
  by_cases hother : other = key
  · subst hother
    simp only [Function.update_self, List.mem_cons_self, horphaned, and_self, if_true, ite_self]
  · rw [orphaned_of_deleted hstart hdeleted hother, Function.update_of_ne hother]
    simp only [List.mem_cons, hother, false_or]

theorem PartlyReaped.cons_of_deleted (hstart : Text.startsWith Key.registryStart key = true)
    (horphaned : c.orphaned self key = true) (hdeleted : c'.seen = Function.update c.seen key none)
    (h : c'.PartlyReaped self keys after) : c.PartlyReaped self (key :: keys) after := by
  intro other
  by_cases hother : other = key
  · subst hother
    have hgone : after.seen other = none := by
      rcases h other with hsame | ⟨_, _, hgone⟩
      · rw [hsame, hdeleted, Function.update_self]
      · exact hgone
    exact Or.inr ⟨List.mem_cons_self, horphaned, hgone⟩
  · rcases h other with hsame | ⟨hmem, hother_orphaned, hgone⟩
    · rw [hdeleted, Function.update_of_ne hother] at hsame
      exact Or.inl hsame
    · rw [orphaned_of_deleted hstart hdeleted hother] at hother_orphaned
      exact Or.inr ⟨List.mem_cons_of_mem key hmem, hother_orphaned, hgone⟩

/-- How the loop ends where no call fails. Nothing but orphaned entries is deleted in any case, and
    all of them are if nobody in the list is dead. -/
structure LoopEnds (c : Cluster) (watcher : InstanceId) (live : List InstanceId)
    (keys : List String) (removed n : Nat) (after : Cluster) : Prop where
  partly : c.PartlyReaped watcher keys after
  all : c.AllAlive watcher live →
    n = removed + keys.countP (c.orphaned watcher) ∧ c.Reaped watcher keys after

/-- An entry is kept, and the others are gone through with a list that has perhaps grown. -/
theorem LoopEnds.cons_of_kept {live' : List InstanceId} {removed n : Nat}
    (hkept : c.AllAlive self live → c.orphaned self key = false ∧ c.AllAlive self live')
    (h : c.LoopEnds self live' keys removed n after) :
    c.LoopEnds self live (key :: keys) removed n after := by
  refine ⟨h.partly.cons, fun hlive => ?_⟩
  rcases hkept hlive with ⟨horphaned, hlive'⟩
  rcases h.all hlive' with ⟨hn, hreaped⟩
  refine ⟨?_, hreaped.cons_of_kept horphaned⟩
  have hnot : ¬c.orphaned self key = true := by
    rw [horphaned]
    exact Bool.false_ne_true
  rw [hn, List.countP_cons_of_neg hnot]

theorem LoopEnds.cons_of_deleted {removed n : Nat}
    (hstart : Text.startsWith Key.registryStart key = true) (hnotin : key ∉ keys)
    (horphaned : c.orphaned self key = true) (hdeleted : c'.seen = Function.update c.seen key none)
    (h : c'.LoopEnds self live keys (removed + 1) n after) :
    c.LoopEnds self live (key :: keys) removed n after := by
  refine ⟨h.partly.cons_of_deleted hstart horphaned hdeleted, fun hlive => ?_⟩
  have hlive' : c'.AllAlive self live := by
    intro id hid
    rw [countsAlive_of_deleted hstart hdeleted]
    exact hlive id hid
  rcases h.all hlive' with ⟨hn, hreaped⟩
  refine ⟨?_, hreaped.cons_of_deleted hstart horphaned hdeleted⟩
  -- The key stands once, so no other entry at it is counted.
  have hcount : keys.countP (c'.orphaned self) = keys.countP (c.orphaned self) := by
    refine List.countP_congr fun other hother => ?_
    have hne : other ≠ key := fun heq => hnotin (heq ▸ hother)
    rw [orphaned_of_deleted hstart hdeleted hne]
  rw [hn, hcount, List.countP_cons_of_pos horphaned]
  omega

/-- The loop, by induction on the keys that are left. Every entry is judged by what was there when
    the loop came to it, which is what was there before, less what has been deleted. -/
theorem attempts_reapEach {removed : Nat} (h : c'.seen = c.seen)
    (hstart : ∀ key ∈ keys, Text.startsWith Key.registryStart key = true) (hnodup : keys.Nodup)
    (hself : self ∈ live) :
    Attempts host (Monitor.reapEach keys live removed) c' (c.LoopEnds self live keys removed)
      (c.PartlyReaped self keys) := by
  induction keys generalizing c c' live removed with
  | nil =>
    refine attempts_pure ⟨partlyReaped_of_seen_eq h, fun _ => ⟨rfl, fun key => ?_⟩⟩
    rw [h, if_neg fun hmem => List.not_mem_nil hmem.1]
  | cons key rest ih =>
    rw [List.nodup_cons] at hnodup
    have hrest : ∀ key ∈ rest, Text.startsWith Key.registryStart key = true :=
      fun other hother => hstart other (List.mem_cons_of_mem key hother)
    have hhere := hstart key List.mem_cons_self
    have hhalf : ∀ after : Cluster, after.seen = c.seen → c.PartlyReaped self (key :: rest) after :=
      fun after hseen => partlyReaped_of_seen_eq hseen
    have hkept : ∀ (c1 : Cluster) live', c1.seen = c.seen → self ∈ live' →
        (c.AllAlive self live → c.orphaned self key = false ∧ c.AllAlive self live') →
        Attempts host (Monitor.reapEach rest live' removed) c1
          (c.LoopEnds self live (key :: rest) removed) (c.PartlyReaped self (key :: rest)) :=
      fun c1 live' hseen hself' hlive' => (ih hseen hrest hnodup.2 hself').mono
        (fun _ _ hends => hends.cons_of_kept hlive') fun _ hpartly => hpartly.cons
    rw [Monitor.reapEach]
    refine attempts_bind ((attempts_get h key).mono (fun _ _ hdone => hdone) hhalf)
      (fun e => rfl) ?_
    rintro reply c1 ⟨hreply, hseen1⟩
    subst hreply
    cases htext : (c.seen key).bind Slot.text? with
    | none =>
      have horphaned : c.orphaned self key = false := by
        simp only [orphaned, htext, Option.any_none, Bool.and_false]
      exact hkept c1 live hseen1 hself fun hlive => ⟨horphaned, hlive⟩
    | some text =>
      have horphaned : c.orphaned self key = c.deadText self text := by
        simp only [orphaned, hhere, htext, Option.any_some, Bool.true_and]
      refine attempts_bind ((attempts_judge hseen1 hself text).mono (fun _ _ hdone => hdone) hhalf)
        (fun e => rfl) ?_
      rintro verdict c2 ⟨hverdict, hseen2⟩
      cases verdict with
      | keep =>
        exact hkept c2 live hseen2 hself fun hlive => ⟨horphaned.trans (hverdict hlive), hlive⟩
      | revived owner =>
        refine hkept c2 (owner :: live) hseen2 (List.mem_cons_of_mem owner hself) fun hlive =>
          ⟨horphaned.trans hverdict.1, fun id hid => ?_⟩
        rcases List.mem_cons.1 hid with rfl | hid
        · exact hverdict.2
        · exact hlive id hid
      | condemn =>
        have horphaned' := horphaned.trans hverdict
        refine attempts_bind ((attempts_deleteUnchanged hseen2 htext).mono
          (fun _ _ hdone => hdone) ?_) (fun e => rfl) ?_
        · rintro c3 (hsame | hdeleted)
          · exact hhalf c3 hsame
          · exact (partlyReaped_of_seen_eq rfl).cons_of_deleted hhere horphaned' hdeleted
        · rintro deleted c3 ⟨rfl, hdeleted⟩
          exact (ih (c := c3) rfl hrest hnodup.2 hself).mono
            (fun _ _ hends => hends.cons_of_deleted hhere hnodup.1 horphaned' hdeleted)
            fun _ hpartly => hpartly.cons_of_deleted hhere horphaned' hdeleted

/-! ## The pass -/

theorem attempts_keys (start : String) :
    Attempts host (Operation.store (.keys start)) c
      (fun keys after => (keys : List String).Perm (c.seenKeys start) ∧ after.seen = c.seen)
      (fun after => after.seen = c.seen) :=
  attempts_store ⟨Slots.keys_call_perm _ _ start, Slots.visible_keys _ _ start⟩ rfl
    (Slots.visible_keys _ _ start)

/-- Whoever the keys of the records name has a record. -/
theorem attempts_liveInstances (self : InstanceId) :
    Attempts host Monitor.liveInstances c
      (fun live after => (c.SignsReadable → c.AllAlive self (self :: live)) ∧ after.seen = c.seen)
      (fun after => after.seen = c.seen) := by
  rw [Monitor.liveInstances]
  refine attempts_bind (attempts_keys _) (fun e => rfl) ?_
  rintro keys after ⟨hkeys, hseen⟩
  refine attempts_pure ⟨fun htexts id hid => ?_, hseen⟩
  rcases List.mem_cons.1 hid with rfl | hid
  · simp only [countsAlive, decide_true, Bool.true_or]
  · rcases List.mem_filterMap.1 hid with ⟨key, hkey, hname⟩
    have hkey_eq : key = Key.liveness id.text := (Monitor.ofLivenessKey?_eq_some_iff.1 hname).1
    have hsign := ((Slots.mem_visibleKeys_iff _ _).1 (hkeys.mem_iff.1 hkey)).1
    rcases Option.isSome_iff_exists.1 hsign with ⟨slot, hslot⟩
    have hslot' : c.seen (Key.liveness id.text) = some slot := hkey_eq ▸ hslot
    simp only [countsAlive, hslot', Option.bind_some, htexts _ slot hslot', Bool.or_true]

/-- How a pass ends where no call fails. -/
structure PassEnds (c : Cluster) (watcher : InstanceId) (report : ReapReport) (after : Cluster) :
    Prop where
  partly : c.PartlyReaped watcher (c.seenKeys Key.registryStart) after
  all : c.SignsReadable →
    report = { scanned := (c.seenKeys Key.registryStart).length,
               removed := (c.seenKeys Key.registryStart).countP (c.orphaned watcher) } ∧
      c.Reaped watcher (c.seenKeys Key.registryStart) after

/-- The pass deletes the orphaned entries, and says how many entries it found and how many of them
    it deleted. -/
theorem attempts_reap (c : Cluster) (host : Nat) (self : Monitor) :
    Attempts host self.reap c (c.PassEnds self.id)
      (c.PartlyReaped self.id (c.seenKeys Key.registryStart)) := by
  have hhalf : ∀ after : Cluster, after.seen = c.seen →
      c.PartlyReaped self.id (c.seenKeys Key.registryStart) after :=
    fun after hseen => partlyReaped_of_seen_eq hseen
  rw [Monitor.reap]
  refine attempts_bind ((attempts_liveInstances self.id).mono (fun _ _ hdone => hdone) hhalf)
    (fun e => rfl) ?_
  rintro live c1 ⟨hlive, hseen1⟩
  refine attempts_bind ((attempts_keys _).mono (fun _ _ hdone => hdone)
    fun after hseen => hhalf after (hseen.trans hseen1)) (fun e => rfl) ?_
  rintro keys c2 ⟨hkeys, hseen⟩
  have hseen2 : c2.seen = c.seen := hseen.trans hseen1
  -- The list is that of the beginning, if in another order: nothing has been written meanwhile.
  have hperm : keys.Perm (c.seenKeys Key.registryStart) :=
    hkeys.trans (seenKeys_perm hseen1 Key.registryStart)
  have hmem : ∀ key, key ∈ keys ↔ key ∈ c.seenKeys Key.registryStart := fun key => hperm.mem_iff
  have hstart : ∀ key ∈ keys, Text.startsWith Key.registryStart key = true :=
    fun key hkey => (mem_seenKeys_iff.1 ((hmem key).1 hkey)).2
  have hnodup : keys.Nodup := hperm.nodup_iff.2 (Slots.nodup_visibleKeys _ _ _)
  have hpartly : ∀ after, c.PartlyReaped self.id keys after →
      c.PartlyReaped self.id (c.seenKeys Key.registryStart) after := by
    intro after hpartly key
    rw [← hmem]
    exact hpartly key
  refine attempts_bind ((attempts_reapEach hseen2 hstart hnodup List.mem_cons_self).mono
    (fun _ _ hends => hends) hpartly) (fun e => rfl) ?_
  rintro removed c3 hends
  refine attempts_perform (fun call heq => by cases heq) (attempts_pure ⟨hpartly c3 hends.partly,
    fun htexts => ?_⟩)
  rcases hends.all (hlive htexts) with ⟨hremoved, hreaped⟩
  refine ⟨?_, fun key => ?_⟩
  · rw [hremoved, hperm.length_eq, hperm.countP_eq, Nat.zero_add]
  · have hkey := hreaped key
    simp only [hmem] at hkey
    exact hkey

theorem mem_seenKeys_of_orphaned (h : c.orphaned self key = true) :
    key ∈ c.seenKeys Key.registryStart := by
  rw [orphaned, Bool.and_eq_true] at h
  refine mem_seenKeys_iff.2 ⟨?_, h.1⟩
  cases hslot : c.seen key with
  | none =>
    rw [hslot, Option.bind_none, Option.any_none] at h
    exact absurd h.2 Bool.false_ne_true
  | some slot => rfl

end Cluster

open Cluster in
/-- A pass that is left alone deletes exactly the orphaned entries. It reports how many entries it
    found and how many it deleted, and everything else stays as it was, deadlines included. If a
    call fails, the pass ends there with its failure, and some orphaned entries are gone and
    nothing else. -/
theorem reap_deletes_exactly_orphaned (self : Monitor) (host : Nat) (c : Cluster)
    (htexts : c.SignsReadable) :
    (c.store.fault = none →
      (c.runAlone host self.reap).1 =
        .ok { scanned := (c.seenKeys Key.registryStart).length,
              removed := (c.seenKeys Key.registryStart).countP (c.orphaned self.id) } ∧
      ∀ key, (c.runAlone host self.reap).2.seen key =
        if c.orphaned self.id key then none else c.seen key) ∧
    ∀ faults,
      ((c.runUnder host self.reap faults).failures = [] →
        (c.runUnder host self.reap faults).result =
          .ok { scanned := (c.seenKeys Key.registryStart).length,
                removed := (c.seenKeys Key.registryStart).countP (c.orphaned self.id) } ∧
        ∀ key, (c.runUnder host self.reap faults).cluster.seen key =
          if c.orphaned self.id key then none else c.seen key) ∧
      ∀ e ∈ (c.runUnder host self.reap faults).failures,
        (c.runUnder host self.reap faults).result = .error e ∧
        ∀ key, (c.runUnder host self.reap faults).cluster.seen key = c.seen key ∨
          c.orphaned self.id key = true ∧
            (c.runUnder host self.reap faults).cluster.seen key = none := by
  have hpass := attempts_reap c host self
  -- An orphaned entry is among the keys that are seen, so the keys need not be spoken of.
  have hall : ∀ after, c.Reaped self.id (c.seenKeys Key.registryStart) after → ∀ key,
      after.seen key = if c.orphaned self.id key then none else c.seen key := by
    intro after hreaped key
    rw [hreaped key]
    by_cases horphaned : c.orphaned self.id key = true
    · rw [if_pos ⟨mem_seenKeys_of_orphaned horphaned, horphaned⟩, if_pos horphaned]
    · rw [if_neg fun h => horphaned h.2, if_neg horphaned]
  refine ⟨fun hhealthy => ?_, fun faults => ?_⟩
  · rcases hpass.runAlone hhealthy with ⟨report, hresult, hends⟩
    rcases hends.all htexts with ⟨hreport, hreaped⟩
    exact ⟨hresult.trans (congrArg Except.ok hreport), hall _ hreaped⟩
  · rcases hpass faults with ⟨report, hresult, hnone, hends⟩ | ⟨e, hresult, hone, hpartly⟩
    · rcases hends.all htexts with ⟨hreport, hreaped⟩
      refine ⟨fun _ => ⟨hresult.trans (congrArg Except.ok hreport), hall _ hreaped⟩, ?_⟩
      intro e he
      rw [hnone] at he
      exact absurd he List.not_mem_nil
    · refine ⟨fun hnone => absurd (hone.symm.trans hnone) (List.cons_ne_nil e []), ?_⟩
      intro e' he'
      rw [hone, List.mem_singleton] at he'
      subst he'
      exact ⟨hresult, fun key => (hpartly key).imp id fun h => ⟨h.2.1, h.2.2⟩⟩

/-- A store with the entries of an instance that looks, of one that is alive, of one whose record
    has expired and of one with a blank name, and with an entry that cannot be read. -/
def abandonedEntries : Cluster :=
  let entry (user owner : String) : Slot :=
    { held := .text (RegistryEntry.toJson
        { user := ⟨user⟩, owner := ⟨owner⟩, establishedAt := 0 }), expiresAt := some 900 }
  { Cluster.new 100 8 0 with
    now := 500
    store :=
      { MemoryStore.new 100 with
        slots :=
          { entries :=
              [("registry:u", entry "u" "looking"), ("registry:v", entry "v" "alive"),
                ("registry:w", entry "w" "dead"), ("registry:x", entry "x" " "),
                ("registry:y", { held := .text "no entry", expiresAt := none }),
                ("liveness:alive", { held := .text "now", expiresAt := some 501 }),
                ("liveness:dead", { held := .text "then", expiresAt := some 500 }),
                ("liveness: ", { held := .text "", expiresAt := none })]
            nodup_keys := by decide } } }

/-- The entry of the dead instance and the unreadable one are deleted. -/
theorem reap_abandonedEntries :
    abandonedEntries.SignsReadable ∧
      (abandonedEntries.runAlone 0 (Monitor.reap ⟨⟨⟨"looking"⟩, 1000⟩, 1000⟩)).1 =
        .ok { scanned := 5, removed := 2 } ∧
      (abandonedEntries.runAlone 0 (Monitor.reap ⟨⟨⟨"looking"⟩, 1000⟩, 1000⟩)).2.seen
        "registry:w" = none := by
  have htexts : abandonedEntries.SignsReadable := by
    have hall : ∀ e ∈ abandonedEntries.store.slots.entries, e.2.text?.isSome = true := by
      decide +kernel
    intro id slot hslot
    have hfind := ((Slots.visible_eq_some_iff _ _).1 hslot).1
    exact hall _ ((Table.mem_iff_find? _ _ slot).2 hfind)
  have hpass := (reap_deletes_exactly_orphaned ⟨⟨⟨"looking"⟩, 1000⟩, 1000⟩ 0 abandonedEntries
    htexts).1 rfl
  refine ⟨htexts, hpass.1.trans ?_, (hpass.2 "registry:w").trans ?_⟩
  · decide +kernel
  · decide +kernel

end ChatCluster
