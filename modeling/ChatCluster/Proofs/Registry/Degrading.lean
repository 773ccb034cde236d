import ChatCluster.Proofs.Cluster.Course
import ChatCluster.Proofs.Cluster.Scope
import ChatCluster.Proofs.Instance.Parting

/-!
# A Registry Whose Store Fails

The operations of the registry when calls to the store fail one by one. A call that fails does
nothing, and the others are answered as if nothing had happened.

An operation makes up to two calls for a user. It may extend an entry, find nothing, and fail to
write a new one, or read an entry and fail to delete it. Whatever combination fails, the first call
alone changes nothing that can be seen: reading changes nothing, and extending what is missing
changes nothing. So an entry ends as it was before the operation, or as it would if no call failed.
The directory is changed before the store is called, and does not depend on what the store says.

Refreshing many users is a loop that goes on after a failure. What comes of one of them depends on
what is seen of that user's entry and on the failures that the calls for that user meet. The loop
leaves both alone until the user's turn comes, so each refresh goes as if it were the only one, with
the plan that is left when it starts.

## Main definitions

* `Faults.Clean`: Calls that fail do nothing.
* `Cluster.written`: The entry that an instance writes.
* `Cluster.Refreshment`, `Cluster.refreshment`: What comes of refreshing a user.
* `Registrar.turns`: Whose turn it is to be refreshed, and what is left of the plan then.
* `Cluster.Degrades`: An operation does what it should, or leaves an entry as it was.
* `Cluster.RefreshedApart`: Users who are refreshed as if each were the only one.

## Theorems

* `Cluster.refreshment_spec`: A refresh, call by call.
* `Cluster.runUnder_turn`, `Cluster.runUnder_refreshEach`: One turn of the loop, and all of it.
* `Cluster.runUnder_register`: Taking in.
* `Cluster.registry_degrades_cleanly`: All the operations.
-/

namespace ChatCluster

/-- A plan in which a call that fails does nothing. It fails for want of an answer; that a text
    cannot be read is found out afterwards, and no call fails for it. -/
structure Faults.Clean (faults : Faults) : Prop where
  harmless : ∀ n fault, faults n = some fault → fault.tookEffect = false
  silent : faults.Silent

theorem Faults.Clean.next {faults : Faults} (h : faults.Clean) : faults.next.Clean :=
  ⟨fun n => h.harmless (n + 1), h.silent.next⟩

theorem Faults.clean_none : Faults.Clean fun _ => none :=
  ⟨fun _ _ h => (Option.some_ne_none _ h.symm).elim,
    fun _ _ h => (Option.some_ne_none _ h.symm).elim⟩

/-- The entry that an instance writes for a user. -/
def Registrar.entryFor (self : Registrar) (user : UserId) (time : Int64) : RegistryEntry :=
  { user, owner := self.id, establishedAt := time }

/-- Extends the entry of a user, and writes it anew where it is missing. -/
def Registrar.extend (self : Registrar) (user : UserId) : Operation (Except StoreError Bool) := do
  match ← Operation.store (.expire (Key.registry user.text) self.entryTtl) with
  | .error e => return .error e
  | .ok true => return .ok true
  | .ok false =>
    match ← self.writeEntry user with
    | .error e => return .error e
    | .ok () => return .ok true

namespace Cluster

variable {α : Type} (c : Cluster) (host : Nat) (self : Registrar) (user : UserId)

/-- What the store shows of the entry of a user that the instance writes now. -/
def written : Option Slot :=
  (self.entryFor user (c.perform host .clock).1).slot.renewed c.now self.entryTtl

variable {c} {faults : Faults}

/-- A call fails and does nothing, or is answered. -/
theorem runUnder_store_of_clean (hclean : faults.Clean) (call : StoreCall) :
    (∃ fault, faults 0 = some fault ∧ runUnder host (Operation.store call) faults c =
      { result := .error fault.error, cluster := c, failures := [fault.error],
        faults := faults.next }) ∨
    faults 0 = none ∧ runUnder host (Operation.store call) faults c =
      { result := .ok (c.store.slots.call c.now call).1,
        cluster := c.withSlots (c.store.slots.call c.now call).2,
        failures := [], faults := faults.next } := by
  rcases runUnder_store_cases host faults c call with ⟨fault, hfault, hcall⟩ | hanswered
  · rw [hclean.harmless 0 fault hfault] at hcall
    exact Or.inl ⟨fault, hfault, hcall⟩
  · exact Or.inr hanswered

theorem runUnder_writeEntry (hclean : faults.Clean) :
    (∃ fault, faults 0 = some fault ∧ runUnder host (self.writeEntry user) faults c =
      { result := .error fault.error, cluster := c, failures := [fault.error],
        faults := faults.next }) ∨
    faults 0 = none ∧ ∃ slots,
      slots.visible c.now =
        Function.update c.seen (Key.registry user.text) (c.written host self user) ∧
      runUnder host (self.writeEntry user) faults c =
        { result := .ok (), cluster := c.withSlots slots, failures := [],
          faults := faults.next } := by
  have hclock : runUnder host (Operation.perform .clock) faults c =
      { result := (c.perform host .clock).1, cluster := c, failures := [], faults } := rfl
  rw [Registrar.writeEntry, runUnder_bind, hclock]
  rcases runUnder_store_of_clean host hclean (c := c)
    (.set (Key.registry user.text) (self.entryFor user (c.perform host .clock).1).toJson
      self.entryTtl) with ⟨fault, hfault, hcall⟩ | ⟨hnone, hcall⟩
  · exact Or.inl ⟨fault, hfault, congrArg (Ending.after []) hcall⟩
  · exact Or.inr ⟨hnone, _, Slots.visible_set _ _ _ _ _, congrArg (Ending.after []) hcall⟩

/-! ## Refreshing one user -/

/-- What comes of refreshing a user. -/
structure Refreshment where
  /-- What is answered. -/
  result : Except StoreError Bool
  /-- The entry that is seen then. -/
  entry : Option Slot
  /-- The failures that were met. -/
  failures : List StoreError
  /-- The plan for the calls to come. -/
  faults : Faults

variable (c) (faults) in
/-- What comes of extending an entry, by what is seen of it before. -/
def extension : Refreshment :=
  let entry := c.seen (Key.registry user.text)
  match faults 0, entry with
  | some fault, _ =>
    { result := .error fault.error, entry, failures := [fault.error], faults := faults.next }
  | none, some slot =>
    { result := .ok true, entry := slot.renewed c.now self.entryTtl, failures := [],
      faults := faults.next }
  | none, none =>
    match faults 1 with
    | some fault =>
      { result := .error fault.error, entry, failures := [fault.error],
        faults := faults.next.next }
    | none =>
      { result := .ok true, entry := c.written host self user, failures := [],
        faults := faults.next.next }

variable (c) (faults) in
/-- What comes of refreshing a user: nothing, if there is no open session. -/
def refreshment : Refreshment :=
  if c.holdsOpen host user then c.extension host self user faults
  else
    { result := .ok false, entry := c.seen (Key.registry user.text), failures := [], faults }

/-- Something has come of a refresh, and nothing else is seen to have changed. -/
def Refreshment.Of (r : Refreshment) (c : Cluster) (user : UserId)
    (e : Ending (Except StoreError Bool)) : Prop :=
  ∃ slots, slots.visible c.now = Function.update c.seen (Key.registry user.text) r.entry ∧
    e = { result := r.result, cluster := c.withSlots slots, failures := r.failures,
          faults := r.faults }

theorem extension_spec (hclean : faults.Clean) :
    (c.extension host self user faults).Of c user (runUnder host (self.extend user) faults c) := by
  have hsame : c.store.slots.visible c.now = Function.update c.seen (Key.registry user.text)
      (c.seen (Key.registry user.text)) := (Function.update_eq_self _ _).symm
  rw [extension, Registrar.extend, runUnder_bind]
  rcases runUnder_store_of_clean host hclean (c := c)
    (.expire (Key.registry user.text) self.entryTtl) with ⟨fault, hfault, hcall⟩ | ⟨hnone, hcall⟩
  · rw [hcall, hfault]
    exact ⟨_, hsame, rfl⟩
  have hreply : (c.store.slots.call c.now (.expire (Key.registry user.text) self.entryTtl)).1 =
      (c.seen (Key.registry user.text)).isSome := Slots.call_expire _ _ _ _
  have hvisible : (c.store.slots.call c.now
      (.expire (Key.registry user.text) self.entryTtl)).2.visible c.now =
        Function.update c.seen (Key.registry user.text)
          ((c.seen (Key.registry user.text)).bind fun slot =>
            slot.renewed c.now self.entryTtl) := Slots.visible_expire _ _ _ _
  rw [hcall, hnone]
  simp only [hreply]
  cases hslot : c.seen (Key.registry user.text) with
  | some slot =>
    rw [hslot] at hvisible
    exact ⟨_, hvisible, rfl⟩
  -- Extending nothing has changed nothing, and an entry is written.
  | none =>
    rw [hslot, Option.bind_none, ← hslot, Function.update_eq_self] at hvisible
    simp only [Option.isSome_none]
    rw [runUnder_bind]
    rcases runUnder_writeEntry host self user hclean.next (c := c.withSlots
        (c.store.slots.call c.now (.expire (Key.registry user.text) self.entryTtl)).2) with
      ⟨fault, hfault, hwrite⟩ | ⟨hnone, slots, hwritten, hwrite⟩
    · rw [hwrite, show faults 1 = some fault from hfault, ← hslot]
      exact ⟨_, hvisible.trans hsame, rfl⟩
    · rw [seen_withSlots, hvisible] at hwritten
      rw [hwrite, show faults 1 = none from hnone]
      exact ⟨slots, hwritten, rfl⟩

theorem refreshment_spec (hclean : faults.Clean) :
    (c.refreshment host self user faults).Of c user
      (runUnder host (self.refresh user) faults c) := by
  have hfind : c.attempt host faults (.findSession user) =
      { result := (c.directory host).find? user, cluster := c, failures := [], faults } := rfl
  have hisOpen : ∀ session, c.attempt host faults (.isOpen session) =
      { result := c.isOpen session, cluster := c, failures := [], faults } := fun _ => rfl
  have hclosed : c.store.slots.visible c.now = Function.update c.seen (Key.registry user.text)
      (c.seen (Key.registry user.text)) := (Function.update_eq_self _ _).symm
  rw [Registrar.refresh, runUnder_bind, runUnder_perform, hfind, refreshment, holdsOpen]
  cases (c.directory host).find? user with
  | none => exact ⟨_, hclosed, rfl⟩
  | some session =>
    simp only [Option.any_some]
    rw [runUnder_bind, runUnder_perform, hisOpen]
    by_cases hopen : c.isOpen session = true
    · simp only [hopen, if_true]
      exact extension_spec host self user hclean
    · simp only [hopen]
      exact ⟨_, hclosed, rfl⟩

theorem seen_refresh (hclean : faults.Clean) :
    (c.runUnder host (self.refresh user) faults).cluster.seen (Key.registry user.text) =
      (c.refreshment host self user faults).entry := by
  rcases refreshment_spec host self user hclean (c := c) with ⟨slots, hslots, hrun⟩
  rw [hrun]
  exact (congrFun hslots _).trans (Function.update_self ..)

variable (c) (faults) in
/-- An entry ends as it was, or as it would if no call failed. -/
theorem refreshment_entry :
    (c.refreshment host self user faults).entry = c.seen (Key.registry user.text) ∨
      (c.refreshment host self user faults).entry =
        (c.refreshment host self user fun _ => none).entry := by
  rw [refreshment, refreshment]
  split
  · rw [extension, extension]
    cases faults 0 with
    | some fault => exact Or.inl rfl
    | none =>
      cases c.seen (Key.registry user.text) with
      | some slot => exact Or.inr rfl
      | none =>
        cases faults 1 with
        | some fault => exact Or.inl rfl
        | none => exact Or.inr rfl
  · exact Or.inl rfl

theorem clean_refreshment (hclean : faults.Clean) :
    (c.refreshment host self user faults).faults.Clean := by
  rw [refreshment]
  split
  · rw [extension]
    cases faults 0 with
    | some fault => exact hclean.next
    | none =>
      cases c.seen (Key.registry user.text) with
      | some slot => exact hclean.next
      | none => cases faults 1 <;> exact hclean.next.next
  · exact hclean

variable (c) in
/-- The cluster with other things in its store, and other reports. -/
def restocked (slots : Slots) (reports : Reports) : Cluster :=
  { c.withSlots slots with reports }

/-- It makes no difference to a refresh what the store shows of others, and what has been
    reported. -/
theorem refreshment_restocked (hclean : faults.Clean) {slots : Slots} (reports : Reports)
    (hsame : slots.visible c.now (Key.registry user.text) = c.seen (Key.registry user.text)) :
    ∃ slots', slots'.visible c.now = Function.update (slots.visible c.now)
        (Key.registry user.text) (c.refreshment host self user faults).entry ∧
      runUnder host (self.refresh user) faults (c.restocked slots reports) =
        { result := (c.refreshment host self user faults).result,
          cluster := c.restocked slots' reports,
          failures := (c.refreshment host self user faults).failures,
          faults := (c.refreshment host self user faults).faults } := by
  have hcongr : (c.restocked slots reports).refreshment host self user faults =
      c.refreshment host self user faults := by
    have hseen : (c.restocked slots reports).seen (Key.registry user.text) =
        c.seen (Key.registry user.text) := hsame
    rw [refreshment, refreshment, extension, extension, hseen]
    rfl
  rw [← hcongr]
  exact refreshment_spec host self user hclean (c := c.restocked slots reports)

end Cluster

/-! ## Refreshing many users -/

/-- The sessions that are refreshed one after another, each with the plan for the calls that are
    made for it. -/
def Registrar.turns (self : Registrar) (host : Nat) (c : Cluster) :
    List SessionHandle → Faults → List (SessionHandle × Faults)
  | [], _ => []
  | session :: rest, faults =>
    (session, faults) ::
      self.turns host c rest (c.runUnder host (self.refresh session.user) faults).faults

/-- The refresh of a session succeeds, if it is the only one. -/
def Registrar.succeeds (self : Registrar) (host : Nat) (c : Cluster)
    (turn : SessionHandle × Faults) : Bool :=
  (c.runUnder host (self.refresh turn.1.user) turn.2).result = .ok true

namespace Cluster

variable {c : Cluster} (host : Nat) (self : Registrar) {faults : Faults}

theorem turns_cons (hclean : faults.Clean) (session : SessionHandle)
    (rest : List SessionHandle) :
    self.turns host c (session :: rest) faults =
      (session, faults) ::
        self.turns host c rest (c.refreshment host self session.user faults).faults := by
  rcases refreshment_spec host self session.user hclean (c := c) with ⟨_, _, hrun⟩
  rw [Registrar.turns, hrun]

theorem map_fst_turns (sessions : List SessionHandle) (faults : Faults) :
    (self.turns host c sessions faults).map Prod.fst = sessions := by
  induction sessions generalizing faults with
  | nil => rfl
  | cons session rest ih => exact congrArg (session :: ·) (ih _)

theorem clean_of_mem_turns (hclean : faults.Clean) (sessions : List SessionHandle) :
    ∀ turn ∈ self.turns host c sessions faults, turn.2.Clean := by
  induction sessions generalizing faults with
  | nil => exact fun _ hmem => absurd hmem List.not_mem_nil
  | cons session rest ih =>
    rw [turns_cons host self hclean, List.forall_mem_cons]
    exact ⟨hclean, ih (clean_refreshment host self session.user hclean)⟩

theorem eq_none_of_mem_turns (sessions : List SessionHandle) :
    ∀ turn ∈ self.turns host c sessions fun _ => none, turn.2 = fun _ => none := by
  induction sessions with
  | nil => exact fun _ hmem => absurd hmem List.not_mem_nil
  | cons session rest ih =>
    rw [Registrar.turns, List.forall_mem_cons, faults_runUnder_none]
    exact ⟨rfl, ih⟩

/-- One turn of the loop. The refresh goes as it would if it were the only one, as far as what is
    seen of the user's entry is what was seen of it at first. -/
theorem runUnder_turn (hclean : faults.Clean) (session : SessionHandle)
    (rest : List SessionHandle) (refreshed : Nat) {slots : Slots} (reports : Reports)
    (hsame : slots.visible c.now (Key.registry session.user.text) =
      c.seen (Key.registry session.user.text)) :
    ∃ slots' reports' failures,
      slots'.visible c.now = Function.update (slots.visible c.now)
        (Key.registry session.user.text) (c.refreshment host self session.user faults).entry ∧
      runUnder host (self.refreshEach (session :: rest) refreshed) faults
          (c.restocked slots reports) =
        (runUnder host
          (self.refreshEach rest
            (refreshed + if self.succeeds host c (session, faults) then 1 else 0))
          (c.refreshment host self session.user faults).faults
          (c.restocked slots' reports')).after failures := by
  rcases refreshment_spec host self session.user hclean (c := c) with ⟨_, _, halone⟩
  rcases refreshment_restocked host self session.user hclean reports hsame with
    ⟨slots', hslots', hrefresh⟩
  rw [Registrar.refreshEach, runUnder_bind, hrefresh, Registrar.succeeds, halone]
  refine ⟨slots', ?_⟩
  -- Failed, with nobody to refresh, and refreshed.
  rcases (c.refreshment host self session.user faults).result with e | _ | _
  · exact ⟨_, _, hslots', rfl⟩
  · exact ⟨_, _, hslots', rfl⟩
  · exact ⟨_, _, hslots', rfl⟩

/-- The loop. It starts with other things in the store than were seen at first, but not under the
    keys of the users whose turn is to come. -/
theorem runUnder_refreshEach (hclean : faults.Clean) (sessions : List SessionHandle)
    (hnodup : (sessions.map SessionHandle.user).Nodup) (refreshed : Nat) {slots : Slots}
    (reports : Reports)
    (hsame : ∀ session ∈ sessions, slots.visible c.now (Key.registry session.user.text) =
      c.seen (Key.registry session.user.text)) :
    ∃ slots' reports' failures rest,
      runUnder host (self.refreshEach sessions refreshed) faults
          (c.restocked slots reports) =
        { result := refreshed + (self.turns host c sessions faults).countP (self.succeeds host c)
          cluster := c.restocked slots' reports'
          failures
          faults := rest } ∧
      (∀ turn ∈ self.turns host c sessions faults,
        slots'.visible c.now (Key.registry turn.1.user.text) =
          (c.refreshment host self turn.1.user turn.2).entry) ∧
      ∀ key, (∀ session ∈ sessions, key ≠ Key.registry session.user.text) →
        slots'.visible c.now key = slots.visible c.now key := by
  induction sessions generalizing faults refreshed slots reports with
  | nil =>
    exact ⟨slots, reports, [], faults, rfl, fun _ hmem => absurd hmem List.not_mem_nil,
      fun _ _ => rfl⟩
  | cons session rest ih =>
    rw [List.map_cons, List.nodup_cons] at hnodup
    rw [List.forall_mem_cons] at hsame
    rcases runUnder_turn host self hclean session rest refreshed reports hsame.1 with
      ⟨between, reports', failures, hbetween, hturn⟩
    have hothers : ∀ key, key ≠ Key.registry session.user.text →
        between.visible c.now key = slots.visible c.now key := fun key hkey =>
      (congrFun hbetween key).trans (Function.update_of_ne hkey _ _)
    have hne : ∀ other ∈ rest, Key.registry other.user.text ≠ Key.registry session.user.text :=
      fun other hother hkey =>
        hnodup.1 (Key.registry_inj.1 hkey ▸ List.mem_map_of_mem hother)
    rcases ih (clean_refreshment host self session.user hclean) hnodup.2 _ reports'
      (fun other hother => (hothers _ (hne other hother)).trans (hsame.2 other hother)) with
      ⟨slots', reports'', failures', left, hrest, hentries, hkept⟩
    rw [turns_cons host self hclean, hturn, hrest, List.countP_cons]
    refine ⟨slots', reports'', failures ++ failures', left, ?_,
      List.forall_mem_cons.2 ⟨?_, hentries⟩, fun key hkey => ?_⟩
    · rw [Ending.after, Nat.add_assoc, Nat.add_comm (List.countP _ _)]
    · rw [hkept _ fun other hother hkey => hne other hother hkey.symm, hbetween,
        Function.update_self]
    · rw [List.forall_mem_cons] at hkey
      rw [hkept key hkey.2, hothers key hkey.1]

/-! ## Taking in -/

variable (c) in
theorem written_keeping (f : Table UserId SessionHandle → Table UserId SessionHandle)
    (reports : Reports) (user : UserId) :
    (c.keeping host f reports).written host self user = c.written host self user := by
  have hclock : ((c.keeping host f reports).perform host .clock).1 = (c.perform host .clock).1 :=
    congrArg (fun time : Option Int64 => time.getD 0)
      (congrFun (c.clock?_updateHost host (f := fun h => { h with directory := f h.directory })
        fun _ => rfl) host)
  rw [written, written, hclock]
  rfl

/-- Taking a session in. The entry is written unless the call fails. -/
theorem runUnder_register (hclean : faults.Clean) (session : SessionHandle) :
    ∃ slots reports,
      slots.visible c.now =
        (if (faults 0).isNone then
          Function.update c.seen (Key.registry session.user.text)
            (c.written host self session.user)
        else c.seen) ∧
      runUnder host (self.register session) faults c =
        { result := { superseded := (c.directory host).find? session.user,
                      shared := (faults 0).isNone }
          cluster := (c.keeping host (fun d => d.insert session.user session) reports).withSlots
            slots
          failures := (faults 0).toList.map CallFault.error
          faults := faults.next } := by
  let inserted := c.updateDirectory host fun d => d.insert session.user session
  have hinsert : c.attempt host faults (.insertSession session) =
      { result := (c.directory host).find? session.user, cluster := inserted, failures := [],
        faults } := rfl
  obtain ⟨counted, hgauge⟩ : ∃ counted, runUnder host Registrar.gauge faults inserted =
      { result := ()
        cluster := c.keeping host (fun d => d.insert session.user session) counted
        failures := []
        faults } := exists_gauge host faults inserted
  let gauged := c.keeping host (fun d => d.insert session.user session) counted
  rw [Registrar.register, runUnder_bind, runUnder_perform, hinsert, runUnder_bind, hgauge,
    runUnder_bind]
  rcases runUnder_writeEntry host self session.user hclean (c := gauged) with
    ⟨fault, hfault, hwrite⟩ | ⟨hnone, slots, hslots, hwrite⟩
  · rw [hwrite, hfault]
    exact ⟨c.store.slots, (counted.warn .registryWriteFailed).count
      (.registryStoreErrors .register) 1, rfl, rfl⟩
  · rw [hwrite, hnone]
    rw [written_keeping] at hslots
    exact ⟨slots, counted, hslots, rfl⟩

/-! ## What an operation comes to -/

/-- Compared with what it does when no call fails, an operation does the same to the instances. The
    entries it is about end as they were, or as they should, and nothing else is seen to change. -/
structure Degrades {α : Type} (c : Cluster) (host : Nat) (concerns : UserId → Prop)
    (op : Operation α) (faults : Faults) : Prop where
  hosts : (c.runUnder host op faults).cluster.hosts =
    (c.runUnder host op fun _ => none).cluster.hosts
  entries : ∀ user, concerns user →
    (c.runUnder host op faults).cluster.seen (Key.registry user.text) =
        c.seen (Key.registry user.text) ∨
      (c.runUnder host op faults).cluster.seen (Key.registry user.text) =
        (c.runUnder host op fun _ => none).cluster.seen (Key.registry user.text)
  others : ∀ key, (∀ user, concerns user → key ≠ Key.registry user.text) →
    (c.runUnder host op faults).cluster.seen key = c.seen key

section

variable {α : Type} {op : Operation α} {user : UserId}

/-- What is seen is as it was or as it should be. -/
theorem Degrades.of_seen
    (hhosts : (c.runUnder host op faults).cluster.hosts =
      (c.runUnder host op fun _ => none).cluster.hosts)
    (hseen : (c.runUnder host op faults).cluster.seen = c.seen ∨
      (c.runUnder host op faults).cluster.seen = (c.runUnder host op fun _ => none).cluster.seen)
    (hothers : ∀ key, key ≠ Key.registry user.text →
      (c.runUnder host op faults).cluster.seen key = c.seen key) :
    c.Degrades host (· = user) op faults where
  hosts := hhosts
  entries other hother := by
    subst hother
    exact hseen.imp (congrFun · _) (congrFun · _)
  others key hkey := hothers key (hkey user rfl)

theorem degrades_register (hclean : faults.Clean) (session : SessionHandle) :
    c.Degrades host (· = session.user) (self.register session) faults := by
  rcases runUnder_register host self hclean session (c := c) with ⟨slots, reports, hslots, hrun⟩
  rcases runUnder_register host self Faults.clean_none session (c := c) with
    ⟨slots', reports', hslots', hrun'⟩
  have hseen : (c.runUnder host (self.register session) faults).cluster.seen =
      slots.visible c.now := by rw [hrun]; rfl
  have hseen' : (c.runUnder host (self.register session) fun _ => none).cluster.seen =
      slots'.visible c.now := by rw [hrun']; rfl
  refine Degrades.of_seen host (by rw [hrun, hrun']; rfl) ?_ fun key hkey => ?_
  · rw [hseen, hseen', hslots, hslots']
    cases faults 0 with
    | none => exact Or.inr rfl
    | some fault => exact Or.inl rfl
  · rw [hseen, hslots]
    split
    · exact Function.update_of_ne hkey _ _
    · rfl

/-- An entry that is given up whatever fails, and an entry that is given up when nothing fails. -/
theorem GivenUp.seen {id : InstanceId} {slots slots' : Slots} {failures : List StoreError}
    (h : c.GivenUp user id failures slots) (h' : c.GivenUp user id [] slots') :
    (slots.visible c.now = c.seen ∨ slots.visible c.now = slots'.visible c.now) ∧
      ∀ key, key ≠ Key.registry user.text → slots.visible c.now key = c.seen key := by
  rcases h with ⟨hkept, -⟩ | ⟨hforfeit, hgone⟩
  · exact ⟨Or.inl hkept, fun key _ => congrFun hkept key⟩
  · refine ⟨Or.inr ?_, fun key hkey => (congrFun hgone key).trans (Function.update_of_ne hkey _ _)⟩
    rcases h' with ⟨-, hnot⟩ | ⟨-, hgone'⟩
    · exact absurd hforfeit (hnot rfl)
    · rw [hgone, hgone']

/-- An operation that takes a user out of the directory and gives the entry up. -/
theorem degrades_of_givenUp (result : α)
    (h : ∀ plan : Faults, plan.Silent → ∃ slots reports failures rest,
      c.GivenUp user self.id failures slots ∧ runUnder host op plan c =
        { result, cluster := (c.keeping host (fun d => d.erase user) reports).withSlots slots,
          failures, faults := rest })
    (hsilent : faults.Silent) : c.Degrades host (· = user) op faults := by
  rcases h faults hsilent with ⟨slots, reports, failures, rest, hgone, hrun⟩
  rcases h _ Faults.clean_none.silent with ⟨slots', reports', failures', rest', hgone', hrun'⟩
  have hnone := failures_runUnder_none host op c
  rw [hrun'] at hnone
  rw [show failures' = [] from hnone] at hgone'
  have hseen := hgone.seen hgone'
  refine Degrades.of_seen host (by rw [hrun, hrun']; rfl) ?_ fun key hkey => ?_
  · rw [hrun, hrun']
    exact hseen.1
  · rw [hrun]
    exact hseen.2 key hkey

theorem degrades_unregister (hsilent : faults.Silent) :
    c.Degrades host (· = user) (self.unregister user) faults :=
  degrades_of_givenUp host self ()
    (fun plan hplan => givenUp_unregister host plan c user self hplan) hsilent

theorem degrades_unregisterIf (hsilent : faults.Silent) (id : SessionId) :
    c.Degrades host (· = user) (self.unregisterIf user id) faults ∧
      (c.runUnder host (self.unregisterIf user id) faults).result =
        (c.runUnder host (self.unregisterIf user id) fun _ => none).result := by
  by_cases hid : ((c.directory host).find? user).map SessionHandle.id = some id
  · rcases Option.map_eq_some_iff.1 hid with ⟨session, hcurrent, rfl⟩
    have hgivenUp := fun plan (hplan : plan.Silent) =>
      givenUp_unregisterIf host plan c user self hcurrent hplan
    refine ⟨degrades_of_givenUp host self true (fun plan hplan => ?_) hsilent, ?_⟩
    · rcases hgivenUp plan hplan with ⟨slots, reports, failures, rest, -, hgone, hrun⟩
      exact ⟨slots, reports, failures, rest, hgone, hrun⟩
    · rcases hgivenUp faults hsilent with ⟨_, _, _, _, -, -, hrun⟩
      rcases hgivenUp _ Faults.clean_none.silent with ⟨_, _, _, _, -, -, hrun'⟩
      rw [hrun, hrun']
  · have hrun := fun plan => runUnder_unregisterIf_of_superseded host plan c user self hid
    refine ⟨Degrades.of_seen host ?_ (Or.inl ?_) fun key _ => ?_, ?_⟩ <;> rw [hrun]
    · rw [hrun]
    · rw [hrun]

theorem degrades_refresh (hclean : faults.Clean) :
    c.Degrades host (· = user) (self.refresh user) faults := by
  rcases refreshment_spec host self user hclean (c := c) with ⟨slots, hslots, hrun⟩
  rcases refreshment_spec host self user Faults.clean_none (c := c) with ⟨slots', hslots', hrun'⟩
  refine Degrades.of_seen host (by rw [hrun, hrun']; rfl) ?_ fun key hkey => ?_
  · rw [hrun, hrun']
    change slots.visible c.now = c.seen ∨ slots.visible c.now = slots'.visible c.now
    rw [hslots, hslots']
    rcases refreshment_entry c host self user faults with hsame | hsame
    · rw [hsame, Function.update_eq_self]
      exact Or.inl rfl
    · rw [hsame]
      exact Or.inr rfl
  · rw [hrun]
    exact (congrFun hslots key).trans (Function.update_of_ne hkey _ _)

end

/-- Refreshing sessions one after another comes to the same as refreshing each of them alone. -/
structure RefreshedApart (c : Cluster) (registrar : Registrar) (host : Nat)
    (sessions : List SessionHandle) (faults : Faults) (e : Ending Nat) : Prop where
  everybody : (registrar.turns host c sessions faults).map Prod.fst = sessions
  count : e.result = (registrar.turns host c sessions faults).countP (registrar.succeeds host c)
  entries : ∀ turn ∈ registrar.turns host c sessions faults,
    e.cluster.seen (Key.registry turn.1.user.text) =
      (c.runUnder host (registrar.refresh turn.1.user) turn.2).cluster.seen
        (Key.registry turn.1.user.text)

/-- Refreshing sessions of different users, in whatever order, degrades cleanly, and what comes of
    each is what would come of it alone. -/
theorem degrades_refreshEach (hclean : faults.Clean) (sessions : List SessionHandle)
    (hnodup : (sessions.map SessionHandle.user).Nodup) :
    c.Degrades host (· ∈ sessions.map SessionHandle.user) (self.refreshEach sessions 0) faults ∧
      c.RefreshedApart self host sessions faults
        (c.runUnder host (self.refreshEach sessions 0) faults) := by
  have hbegin : ∀ session ∈ sessions,
      c.store.slots.visible c.now (Key.registry session.user.text) =
        c.seen (Key.registry session.user.text) := fun _ _ => rfl
  have hrun := fun (plan : Faults) (hplan : plan.Clean) =>
    runUnder_refreshEach host self hplan sessions hnodup 0 c.reports hbegin
  rcases hrun faults hclean with ⟨slots, reports, failures, rest, hfailing, hentries, hkept⟩
  rcases hrun _ Faults.clean_none with ⟨slots', reports', failures', rest', hhealthy, hentries', -⟩
  have hseen : (c.runUnder host (self.refreshEach sessions 0) faults).cluster.seen =
      slots.visible c.now := congrArg (fun e : Ending Nat => e.cluster.seen) hfailing
  have hseen' : (c.runUnder host (self.refreshEach sessions 0) fun _ => none).cluster.seen =
      slots'.visible c.now := congrArg (fun e : Ending Nat => e.cluster.seen) hhealthy
  have hturn : ∀ (plan : Faults) (session : SessionHandle), session ∈ sessions →
      ∃ turn ∈ self.turns host c sessions plan, turn.1 = session := fun plan session hsession =>
    List.mem_map.1 ((map_fst_turns host self sessions plan).symm ▸ hsession)
  refine ⟨⟨?_, fun user huser => ?_, fun key hkey => ?_⟩, map_fst_turns host self sessions faults,
    ?_, fun turn hmem => ?_⟩
  · exact (congrArg (fun e : Ending Nat => e.cluster.hosts) hfailing).trans
      (congrArg (fun e : Ending Nat => e.cluster.hosts) hhealthy).symm
  · rcases List.mem_map.1 huser with ⟨session, hsession, rfl⟩
    rcases hturn faults session hsession with ⟨turn, hmem, rfl⟩
    rcases hturn (fun _ => none) turn.1 hsession with ⟨turn', hmem', hsame⟩
    have hentry' := hentries' turn' hmem'
    rw [hsame, eq_none_of_mem_turns host self sessions turn' hmem'] at hentry'
    rw [hseen, hseen', hentries turn hmem, hentry']
    exact refreshment_entry c host self turn.1.user turn.2
  · rw [hseen]
    exact hkept key fun session hsession => hkey _ (List.mem_map_of_mem hsession)
  · exact (congrArg Ending.result hfailing).trans (Nat.zero_add _)
  · rw [hseen, hentries turn hmem,
      seen_refresh host self _ (clean_of_mem_turns host self hclean sessions turn hmem)]

/-- The same of all the users of an instance. -/
theorem degrades_refreshAll (hclean : faults.Clean)
    (hfiled : ∀ user session, (c.directory host).find? user = some session →
      session.user = user) :
    c.Degrades host (· ∈ (c.directory host).values.map SessionHandle.user) self.refreshAll faults ∧
      c.RefreshedApart self host (c.directory host).values faults
        (c.runUnder host self.refreshAll faults) := by
  have hall : ∀ plan, c.runUnder host self.refreshAll plan =
      c.runUnder host (self.refreshEach (c.directory host).values 0) plan := fun plan => by
    rw [Registrar.refreshAll, runUnder_bind, runUnder_perform]
    rfl
  rcases degrades_refreshEach host self hclean (c := c) _ (nodup_users hfiled) with
    ⟨⟨hhosts, hentries, hothers⟩, hapart⟩
  simp only [← hall] at hhosts hentries hothers hapart
  exact ⟨⟨hhosts, hentries, hothers⟩, hapart⟩

/-- Whichever calls to the store fail, the operations of the registry leave the directory as they
    should, and each entry they are about as it was or as it should be. Only an entry that is
    written is called shared, and users are refreshed as if each were the only one, in whatever
    order their sessions are listed. -/
theorem registry_degrades_cleanly (self : Registrar) (host : Nat) (c : Cluster)
    {faults : Faults} (hclean : faults.Clean) :
    (∀ session,
      let e := c.runUnder host (self.register session) faults
      c.Degrades host (· = session.user) (self.register session) faults ∧
        e.result.superseded = (c.directory host).find? session.user ∧
        (e.result.shared = true ↔ e.failures = []) ∧
        e.cluster.seen (Key.registry session.user.text) =
          if e.result.shared then c.written host self session.user
          else c.seen (Key.registry session.user.text)) ∧
    (∀ user, c.Degrades host (· = user) (self.unregister user) faults) ∧
    (∀ user id, c.Degrades host (· = user) (self.unregisterIf user id) faults ∧
      (c.runUnder host (self.unregisterIf user id) faults).result =
        (c.runUnder host (self.unregisterIf user id) fun _ => none).result) ∧
    (∀ user, c.Degrades host (· = user) (self.refresh user) faults) ∧
    ((∀ user session, (c.directory host).find? user = some session → session.user = user) →
      (c.Degrades host (· ∈ (c.directory host).values.map SessionHandle.user) self.refreshAll
          faults ∧
        c.RefreshedApart self host (c.directory host).values faults
          (c.runUnder host self.refreshAll faults)) ∧
      ∀ sessions : List SessionHandle, sessions.Perm (c.directory host).values →
        c.Degrades host (· ∈ sessions.map SessionHandle.user) (self.refreshEach sessions 0)
            faults ∧
          c.RefreshedApart self host sessions faults
            (c.runUnder host (self.refreshEach sessions 0) faults)) := by
  refine ⟨fun session => ⟨degrades_register host self hclean session, ?_⟩,
    fun user => degrades_unregister host self hclean.silent,
    fun user id => degrades_unregisterIf host self hclean.silent id,
    fun user => degrades_refresh host self hclean, fun hfiled => ?_⟩
  · rcases runUnder_register host self hclean session (c := c) with ⟨slots, reports, hslots, hrun⟩
    have hseen : (c.runUnder host (self.register session) faults).cluster.seen =
        slots.visible c.now := by rw [hrun]; rfl
    rw [hseen, hslots, hrun]
    cases faults 0 with
    | none => exact ⟨rfl, iff_of_true rfl rfl, Function.update_self ..⟩
    | some fault => exact ⟨rfl, iff_of_false Bool.false_ne_true (List.cons_ne_nil _ _), rfl⟩
  · exact ⟨degrades_refreshAll host self hclean hfiled, fun sessions hsessions =>
      degrades_refreshEach host self hclean sessions
        ((hsessions.map SessionHandle.user).nodup_iff.2 (nodup_users hfiled))⟩

end Cluster

/-- One instance with three users, who came half a minute ago. -/
def threeUsers : Cluster :=
  Cluster.course
    { Cluster.new 1000 16 0 with
      hosts := Table.empty.insert 0 (.new (.standard ⟨"a"⟩) 0)
      queues := ((Table.empty.insert 0 (.new 4)).insert 1 (.new 4)).insert 2 (.new 4) }
    [.does 0 (.register ⟨0, ⟨1⟩, ⟨"t"⟩⟩), .does 0 (.register ⟨1, ⟨2⟩, ⟨"u"⟩⟩),
      .does 0 (.register ⟨2, ⟨3⟩, ⟨"v"⟩⟩), .wait 30000]

/-- A plan in which only the second call fails. -/
def secondFails : Faults :=
  fun n => if n = 1 then some { error := .timeout 100, tookEffect := false } else none

theorem clean_secondFails : secondFails.Clean := by
  constructor <;> intro n fault hfault <;> rw [secondFails] at hfault <;> split at hfault <;>
    cases hfault
  · rfl
  · exact fun h => StoreError.noConfusion h

/-- The refresh of the second user fails and leaves that entry as it was, and the other two users
    are refreshed. -/
theorem registry_degrades_cleanly_threeUsers :
    let self := (Profile.standard ⟨"a"⟩).registrar
    let e := threeUsers.runUnder 0 self.refreshAll secondFails
    e.result = 2 ∧ (e.cluster.directory 0).keys = [⟨"t"⟩, ⟨"u"⟩, ⟨"v"⟩] ∧
      e.cluster.seen (Key.registry "u") = threeUsers.seen (Key.registry "u") ∧
      (e.cluster.seen (Key.registry "v")).map Slot.expiresAt = some (some 120000) := by
  intro self e
  have hfiled : ∀ user session, (threeUsers.directory 0).find? user = some session →
      session.user = user := by
    have hall : ((threeUsers.directory 0).entries.all fun e => decide (e.2.user = e.1)) = true := by
      decide +kernel
    exact fun user session hfind => of_decide_eq_true
      (List.all_eq_true.1 hall (user, session) ((Table.mem_iff_find? _ _ _).2 hfind))
  obtain ⟨-, -, -, -, hrefresh⟩ :=
    Cluster.registry_degrades_cleanly self 0 threeUsers clean_secondFails
  rcases (hrefresh hfiled).1 with ⟨hdegrades, hapart⟩
  have hdirectory : e.cluster.directory 0 =
      (threeUsers.runUnder 0 self.refreshAll fun _ => none).cluster.directory 0 := by
    rw [Cluster.directory, Cluster.directory, hdegrades.hosts]
  refine ⟨hapart.count.trans (by decide +kernel), ?_, ?_, ?_⟩
  · rw [hdirectory]
    decide +kernel
  · exact (hapart.entries (⟨1, ⟨2⟩, ⟨"u"⟩⟩, secondFails.next) (.tail _ (.head _))).trans
      (by decide +kernel)
  · rw [hapart.entries (⟨2, ⟨3⟩, ⟨"v"⟩⟩, secondFails.next.next) (.tail _ (.tail _ (.head _)))]
    decide +kernel

end ChatCluster
