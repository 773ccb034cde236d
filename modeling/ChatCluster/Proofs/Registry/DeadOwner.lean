import ChatCluster.Proofs.Registry.LiveOwner

/-!
# What Outlives Its Owner

An entry is good for one time to live after it was last written or extended. So one that can be
seen a full time to live after its owner's last deed was extended by somebody else. A refresh does
not ask whom the entry names, and any instance that still holds an open session for the user, be it
one that was superseded long ago, extends the entry of the dead one for as long as it likes.

## Main definitions

* `Cluster.Bounded`: No entry of a user is good for more than one time to live.
* `Cluster.ExtendedAt`: Somebody has extended an entry.

## Theorems

* `Cluster.bounded_course`: Nothing makes an entry good for more than that.
* `seen_or_extended_happen`, `goneBy_or_extended`: While its owner does nothing, only others make it
  last.
* `owner?_of_dead_owner`: Who is found although he is dead has been kept by somebody else.
-/

namespace ChatCluster

namespace Cluster

/-- All instances give their entries the same time to live. -/
def SharesEntryTtl (c : Cluster) (ttl : Nat) : Prop :=
  ∀ host self, c.profile? host = some self → self.entryTtl = ttl

/-- The entry of the user is good for one time to live at most. -/
def Bounded (c : Cluster) (user : UserId) (ttl : Nat) : Prop :=
  ∀ slot, c.seen (Key.registry user.text) = some slot → slot.GoneBy (c.now + ttl)

variable {c : Cluster} {user : UserId} {ttl : Nat}

theorem bounded_happen {m : Happening} (h : c.Bounded user ttl) (hhealthy : c.store.fault = none)
    (httl : c.SharesEntryTtl ttl) : (c.happen m).Bounded user ttl := by
  intro slot hslot
  have hnow := c.now_le_happen m
  have hgone : slot.GoneBy (c.now + ttl) := by
    rcases seen_or_renewed_happen hhealthy hslot with hbefore | ⟨host, self, _, hself, hrenewed⟩
    · exact h slot hbefore
    · rw [httl host self hself] at hrenewed
      exact goneBy_of_renewed hrenewed
  exact hgone.mono (by omega)

theorem bounded_course (run : List Happening) (h : c.Bounded user ttl)
    (hhealthy : c.store.fault = none) (httl : c.SharesEntryTtl ttl) :
    (c.course run).Bounded user ttl := by
  induction run generalizing c with
  | nil => exact h
  | cons m run ih =>
    refine ih (bounded_happen h hhealthy httl) ?_ ?_
    · rw [fault_happen, hhealthy]
    · rw [SharesEntryTtl, profile?_happen]
      exact httl

/-- At an instant of the run, an instance that held an open session for the user has extended the
    entry while it named the other instance. -/
def ExtendedAt (c : Cluster) (user : UserId) (id : InstanceId) (run : List Happening)
    (instant : Nat) : Prop :=
  ∃ past other deed rest, run = past ++ .does other deed :: rest ∧ deed.Refreshes user ∧
    (c.course past).holdsOpen other user = true ∧ (c.course past).Names user id ∧
    (c.course past).now = instant

theorem ExtendedAt.concat {run : List Happening} {id : InstanceId} {instant : Nat}
    (h : c.ExtendedAt user id run instant) (m : Happening) :
    c.ExtendedAt user id (run ++ [m]) instant := by
  rcases h with ⟨past, other, deed, rest, rfl, hthere⟩
  refine ⟨past, other, deed, rest ++ [m], ?_, hthere⟩
  rw [List.append_assoc, List.cons_append]

end Cluster

section DeadOwner

open Cluster

variable {c : Cluster} {user : UserId} {id : InstanceId} {ttl : Nat}

/-- Where nobody of its name does anything, an entry that names the instance was there before, or
    somebody else has just extended it. -/
theorem seen_or_extended_happen {m : Happening} (hhealthy : c.store.fault = none)
    (httl : c.SharesEntryTtl ttl)
    (hdead : ∀ other deed, m = .does other deed → c.nameOf other ≠ some id) {slot : Slot}
    (hslot : (c.happen m).seen (Key.registry user.text) = some slot)
    (hnamed : ownerIn (some slot) = .ok (some id)) :
    c.seen (Key.registry user.text) = some slot ∨
      ∃ other deed, m = .does other deed ∧ deed.Refreshes user ∧ c.holdsOpen other user = true ∧
        c.Names user id ∧ slot.GoneBy (c.now + ttl) := by
  -- Whoever writes an entry writes its own name into it.
  have hnotown : ∀ {other : Nat} {self : Profile} {deed : Deed} {e : RegistryEntry},
      m = .does other deed → c.profile? other = some self → e.owner = self.id →
      e.slot.renewed c.now self.entryTtl ≠ some slot := by
    intro other self deed e hm hself howner hwritten
    rw [ownerIn_of_renewed hwritten, ownerIn_entry, howner, Except.ok.injEq,
      Option.some.injEq] at hnamed
    refine hdead other deed hm ?_
    rw [nameOf, hself, Option.map_some, hnamed]
  have hchange := entryChange_happen user m hhealthy
  generalize (c.happen m).seen (Key.registry user.text) = after at hchange hslot
  cases hchange with
  | kept => exact Or.inl hslot
  | aged ms =>
    rw [Option.filter_eq_some_iff] at hslot
    exact Or.inl hslot.1
  | registered hself hdeed howner => exact absurd hslot (hnotown rfl hself howner)
  | @extended other self deed before hself hdeed hopen hbefore =>
    rw [httl other self hself] at hslot
    have hnamed_before : c.Names user id := by
      rw [Names, hbefore, ← ownerIn_of_renewed hslot]
      exact hnamed
    exact Or.inr ⟨other, deed, rfl, hdeed, hopen, hnamed_before, goneBy_of_renewed hslot⟩
  | rewritten hself hdeed hopen hnone howner => exact absurd hslot (hnotown rfl hself howner)
  | released | reaped => cases hslot

/-- As long as nobody of its name does anything, an entry that names the instance is good from the
    beginning of the run, or from when somebody else has extended it. -/
theorem goneBy_or_extended {run : List Happening} (h : c.Bounded user ttl)
    (hhealthy : c.store.fault = none) (httl : c.SharesEntryTtl ttl)
    (hdead : ∀ other deed, .does other deed ∈ run → c.nameOf other ≠ some id) {slot : Slot}
    (hslot : (c.course run).seen (Key.registry user.text) = some slot)
    (hnamed : ownerIn (some slot) = .ok (some id)) :
    slot.GoneBy (c.now + ttl) ∨
      ∃ instant, c.ExtendedAt user id run instant ∧ slot.GoneBy (instant + ttl) := by
  induction run using List.reverseRecOn generalizing slot with
  | nil => exact Or.inl (h slot hslot)
  | append_singleton run m ih =>
    have hfault := (c.fault_course run).trans hhealthy
    have hshared : (c.course run).SharesEntryTtl ttl := by
      rw [SharesEntryTtl, profile?_course]
      exact httl
    have hquiet : ∀ other deed, m = .does other deed → (c.course run).nameOf other ≠ some id := by
      rintro other deed rfl
      rw [nameOf_course]
      exact hdead other deed (List.mem_append_right run List.mem_cons_self)
    rw [course_concat] at hslot
    rcases seen_or_extended_happen hfault hshared hquiet hslot hnamed with
      hbefore | ⟨other, deed, rfl, hdeed, hopen, hnames, hgone⟩
    · have hrest := fun other deed hmem => hdead other deed (List.mem_append_left [m] hmem)
      rcases ih hrest hbefore hnamed with hgone | ⟨instant, hextended, hgone⟩
      · exact Or.inl hgone
      · exact Or.inr ⟨instant, hextended.concat m, hgone⟩
    · exact Or.inr ⟨_, ⟨run, other, deed, [], rfl, hdeed, hopen, hnames, rfl⟩, hgone⟩

/-- In a cluster whose instances give their entries the same time to live, an instance that has
    done nothing for that long is found only if another one has extended its entry since, and that
    less than one time to live ago. -/
theorem owner?_of_dead_owner {start : Cluster} (hhealthy : start.store.fault = none)
    (httl : start.SharesEntryTtl ttl) (hstart : start.Bounded user ttl)
    (before after : List Happening)
    (hdead : ∀ other deed, .does other deed ∈ after → start.nameOf other ≠ some id)
    (hlong : (start.course before).now + ttl ≤ (start.course (before ++ after)).now) (asker : Nat)
    (hfound : ((start.course (before ++ after)).runAlone asker (Registrar.owner? user)).1 =
      .ok (some id)) :
    ∃ instant, (start.course before).ExtendedAt user id after instant ∧
      (start.course (before ++ after)).now < instant + ttl := by
  have hend := (start.fault_course (before ++ after)).trans hhealthy
  have hthere := (start.fault_course before).trans hhealthy
  rcases ((names_iff_runAlone_owner? asker hend).1 hfound).exists_slot with ⟨slot, hslot, hnamed⟩
  have hlive := ((Slots.visible_eq_some_iff _ _).1 hslot).2
  have hbounded := bounded_course before hstart hhealthy httl
  have hshared : (start.course before).SharesEntryTtl ttl := by
    rw [SharesEntryTtl, profile?_course]
    exact httl
  rw [course_append] at hslot hlive hlong ⊢
  rcases goneBy_or_extended hbounded hthere hshared (by rwa [nameOf_course]) hslot hnamed with
    hgone | ⟨instant, hextended, hgone⟩
  · -- What was written by the end of the first part has expired.
    have hsoon := hgone.lt hlive
    omega
  · exact ⟨instant, hextended, hgone.lt hlive⟩

end DeadOwner

/-- Two instances, each with a client. -/
def twoClients : Cluster :=
  { twoInstances with queues := (Table.empty.insert 0 (.new 4)).insert 1 (.new 4) }

theorem twoClients_sharesEntryTtl : twoClients.SharesEntryTtl 90000 := by
  intro host self hself
  have hname : twoInstances.nameOf host = some self.id := by
    rw [Cluster.nameOf, show twoInstances.profile? host = some self from hself, Option.map_some]
  rcases nameOf_twoInstances hname with ⟨rfl, _⟩ | ⟨rfl, _⟩
  · cases hself
    rfl
  · cases hself
    rfl

/-- The user moves from the second instance to the first one, which dies. The second one, whose
    session was superseded, goes on showing itself, and the dead one is found. -/
theorem owner?_of_dead_owner_superseded :
    let before : List Happening :=
      [.does 1 (.register ⟨1, ⟨1⟩, ⟨"u"⟩⟩), .does 0 (.register ⟨0, ⟨1⟩, ⟨"u"⟩⟩)]
    let after : List Happening := [.wait 60000, .does 1 .heartbeat, .wait 30000]
    ((twoClients.course (before ++ after)).runAlone 1 (Registrar.owner? ⟨"u"⟩)).1 =
        .ok (some ⟨"a"⟩) ∧
      ∃ instant, (twoClients.course before).ExtendedAt ⟨"u"⟩ ⟨"a"⟩ after instant ∧
        (twoClients.course (before ++ after)).now < instant + 90000 := by
  intro before after
  have hfound : ((twoClients.course (before ++ after)).runAlone 1 (Registrar.owner? ⟨"u"⟩)).1 =
      .ok (some ⟨"a"⟩) := by
    decide +kernel
  have hdead : ∀ other deed, .does other deed ∈ after → twoClients.nameOf other ≠ some ⟨"a"⟩ := by
    intro other deed hmem
    simp only [after, List.mem_cons, List.not_mem_nil, or_false, false_or, reduceCtorEq,
      Happening.does.injEq] at hmem
    rw [hmem.1]
    decide
  refine ⟨hfound, owner?_of_dead_owner rfl twoClients_sharesEntryTtl ?_ before after hdead ?_ 1
    hfound⟩
  · intro slot hslot
    cases hslot
  · decide +kernel

end ChatCluster
