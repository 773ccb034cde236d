import ChatCluster.Proofs.Cluster.Faults
import ChatCluster.Proofs.Registry.Entries
import ChatCluster.Proofs.Wire.RoundTrip

/-!
# Parting in a Store That Fails

How a session comes and goes at an instance that does nothing else meanwhile. Letting a session go
takes it out of the directory, gives up its user's entry, and tells everybody. Only the second of
these asks anything of the store, and whatever the store does about it, the rest is done. The entry
is as it was, or it is gone; it is gone only if it named the instance or could not be read, and if
no call has failed, it is gone exactly then.

The frame of a notice is put on the bus as it stands, so the bus is known afterwards, whether it
takes frames or not.

## Main definitions

* `Router.announce`: The bus when a notice has been handed to it.
* `Router.Announced`: The bus when frames with some messages have been put on it.
* `Cluster.Forfeit`: An entry that is given up if its user is let go.
* `Cluster.changed`: The parts of the cluster that coming and going changes.
* `Cluster.GivenUp`: What becomes of the entry of a user who is let go.

## Theorems

* `Router.announced_foldl`, `Cluster.runUnder_notify`: Notices.
* `Cluster.givenUp_release`: Giving up an entry.
* `Cluster.givenUp_unregister`, `Cluster.givenUp_unregisterIf`,
  `Cluster.runUnder_unregisterIf_of_superseded`: Letting a user go.
* `Cluster.givenUp_part`, `Cluster.runUnder_part_of_superseded`: Letting a session go.
* `Cluster.runAlone_greet`, `Cluster.runAlone_part`: Coming and going at a store that answers.
-/

namespace ChatCluster

/-- The bus when a message for everybody has been handed to it. -/
def Router.announce (self : Router) (bus : MemoryBus) (m : Message) : MemoryBus :=
  match BusFrame.encode { origin := self.id, message := m } with
  | .ok frame => (bus.publish self.topics.broadcast frame).2
  | .error _ => bus

/-- The bus when a frame with each of some messages has been put on the topic for everybody, one
    after another. -/
def Router.Announced (self : Router) (bus : MemoryBus) (messages : List Message)
    (after : MemoryBus) : Prop :=
  ∃ frames, List.Forall₂ (fun m frame => BusFrame.encode { origin := self.id, message := m } =
      .ok frame) messages frames ∧
    after = frames.foldl (fun bus frame => (bus.publish self.topics.broadcast frame).2) bus

/-- On a bus that takes frames, handing over notices that frames can be made of puts the frames on
    it. -/
theorem Router.announced_foldl (self : Router) (bus : MemoryBus) (messages : List Message)
    (hfits : ∀ m ∈ messages,
      (Wire.Envelope.ofMessage self.id m).encode.length ≤ Wire.maxFrameSize) :
    self.Announced bus messages (messages.foldl self.announce bus) := by
  induction messages generalizing bus with
  | nil => exact ⟨[], .nil, rfl⟩
  | cons m rest ih =>
    obtain ⟨frame, hframe⟩ : ∃ frame, BusFrame.encode { origin := self.id, message := m } =
        .ok frame := ⟨_, (BusFrame.encode_eq_ok_iff _ _).2 ⟨hfits m List.mem_cons_self, rfl⟩⟩
    have hfirst : self.announce bus m = (bus.publish self.topics.broadcast frame).2 := by
      rw [announce, hframe]
    rcases ih (self.announce bus m) fun other hother =>
      hfits other (List.mem_cons_of_mem m hother) with ⟨frames, hframes, hafter⟩
    refine ⟨frame :: frames, .cons hframe hframes, ?_⟩
    rw [List.foldl_cons, hafter, hfirst]
    rfl

/-- A plan in which the store fails to answer, and never answers what cannot be read. -/
def Faults.Silent (faults : Faults) : Prop :=
  ∀ n fault, faults n = some fault → fault.error ≠ .codec

theorem Faults.Silent.next {faults : Faults} (h : faults.Silent) : faults.next.Silent :=
  fun n fault hfault => h (n + 1) fault hfault

theorem Ending.after_nil {α : Type} (failures : List StoreError) (result : α) (cluster : Cluster)
    (faults : Faults) :
    Ending.after failures { result, cluster, failures := [], faults } =
      { result, cluster, failures, faults } :=
  congrArg (fun met => { result, cluster, failures := met, faults : Ending α })
    (List.append_nil failures)

namespace Cluster

/-- The entry of a user names the instance, or cannot be read. -/
def Forfeit (c : Cluster) (self : InstanceId) (user : UserId) : Prop :=
  c.Names user self ∨ ownerIn (c.seen (Key.registry user.text)) = .error .codec

/-- Coming and going changes the directory, the store and the bus, and is reported. -/
def changed (c : Cluster) (host : Nat)
    (f : Table UserId SessionHandle → Table UserId SessionHandle) (slots : Slots) (bus : MemoryBus)
    (serial : Nat) (reports : Reports) : Cluster :=
  { c.updateDirectory host f with store := { c.store with slots }, bus, serial, reports }

variable {α : Type} (host : Nat)

theorem directory_changed {c : Cluster} {host : Nat}
    {f : Table UserId SessionHandle → Table UserId SessionHandle} {slots : Slots} {bus : MemoryBus}
    {serial : Nat} {reports : Reports} (h : (c.profile? host).isSome) :
    (c.changed host f slots bus serial reports).directory host = f (c.directory host) := by
  have hhost : (c.hosts.find? host).isSome := by rwa [profile?, Option.isSome_map] at h
  exact (directory_updateDirectory c host host f hhost).trans (if_pos rfl)

/-! ## Notices -/

section Notices

variable (self : Router) (faults : Faults) (c : Cluster)

/-- A frame changes the bus, and what is lost of it is reported. -/
theorem exists_publish_eq (topic : String) (frame : Bytes) :
    ∃ result reports, c.publish topic frame =
      (result, { c with bus := (c.bus.publish topic frame).2, reports }) := by
  rw [publish]
  cases hpublish : c.bus.publish topic frame with
  | mk result bus =>
    cases result with
    | error e =>
      -- A bus that refuses a frame is left as it was.
      rw [MemoryBus.publish] at hpublish
      split at hpublish
      · obtain ⟨-, rfl⟩ := Prod.mk.inj hpublish
        exact ⟨_, _, rfl⟩
      · cases hpublish
    | ok _ => exact ⟨_, _, rfl⟩

/-- Whether the frame was taken or not, and whether it could be made or not, makes a difference to
    what is reported only. -/
theorem runUnder_route_notice {m : Message} (hkind : m.kind.isBroadcast = true) :
    ∃ outcome reports, runUnder host (self.route m) faults c =
      { result := outcome, cluster := { c with bus := self.announce c.bus m, reports },
        failures := [], faults } := by
  rw [Router.route, runUnder_bind, Router.dispatch, if_pos hkind, Router.routeBroadcast,
    runUnder_bind, Router.publish, Router.announce]
  cases BusFrame.encode { origin := self.id, message := m } with
  | error e => exact ⟨_, _, rfl⟩
  | ok frame =>
    rcases c.exists_publish_eq self.topics.broadcast frame with ⟨result, reports, hpublish⟩
    have hstep : c.attempt host faults (.publish self.topics.broadcast frame) =
        { result,
          cluster :=
            { c with bus := (c.bus.publish self.topics.broadcast frame).2, reports },
          failures := [], faults } := by
      simp only [attempt, perform, hpublish]
    simp only
    rw [runUnder_bind, runUnder_perform, hstep]
    cases result <;> exact ⟨_, _, rfl⟩

/-- The mark on the next message of an instance's own. -/
def nextMark (c : Cluster) : Postmark :=
  { id := .spare c.serial, time := c.wallClock }

/-- Everybody is told something. -/
theorem runUnder_notify (notice : Postmark → Message)
    (hkind : ∀ mark, (notice mark).kind.isBroadcast = true) :
    ∃ reports,
      runUnder host
          (do
            let mark ← Operation.perform .postmark
            let _ ← self.route (notice mark)
            return : Operation Unit)
          faults c =
        { result := (),
          cluster :=
            { c with
              serial := c.serial + 1
              bus := self.announce c.bus (notice c.nextMark)
              reports },
          failures := [], faults } := by
  have hmark : c.attempt host faults .postmark =
      { result := c.nextMark, cluster := { c with serial := c.serial + 1 }, failures := [],
        faults } := rfl
  rw [runUnder_bind, runUnder_perform, hmark, runUnder_bind]
  rcases runUnder_route_notice host self faults { c with serial := c.serial + 1 }
    (hkind c.nextMark) with ⟨outcome, reports, hroute⟩
  rw [hroute]
  exact ⟨reports, rfl⟩

end Notices

/-! ## Giving up an entry -/

section Release

variable (faults : Faults) (c : Cluster) (user : UserId)

/-- A call fails, carried out or not, or is answered. -/
theorem runUnder_store_cases (call : StoreCall) :
    (∃ fault, faults 0 = some fault ∧
      runUnder host (Operation.store call) faults c =
        { result := .error fault.error,
          cluster :=
            c.withSlots (if fault.tookEffect then (c.store.slots.call c.now call).2
              else c.store.slots),
          failures := [fault.error], faults := faults.next }) ∨
      faults 0 = none ∧ runUnder host (Operation.store call) faults c =
        { result := .ok (c.store.slots.call c.now call).1,
          cluster := c.withSlots (c.store.slots.call c.now call).2,
          failures := [], faults := faults.next } := by
  rw [Operation.store, runUnder_perform]
  simp only [attempt]
  cases hfault : faults 0 with
  | none => exact Or.inr ⟨rfl, rfl⟩
  | some fault =>
    rcases fault with ⟨error, tookEffect⟩
    refine Or.inl ⟨_, rfl, ?_⟩
    cases tookEffect <;> rfl

/-- A look at an entry changes nothing that can be seen. It fails, or says what is seen. -/
theorem runUnder_readEntry :
    ∃ slots, slots.visible c.now = c.store.slots.visible c.now ∧
      ((∃ fault, faults 0 = some fault ∧ runUnder host (Registrar.readEntry user) faults c =
          { result := .error fault.error, cluster := c.withSlots slots, failures := [fault.error],
            faults := faults.next }) ∨
        ∃ result, result.map (fun entry => entry.map RegistryEntry.owner) =
            ownerIn (c.seen (Key.registry user.text)) ∧
          runUnder host (Registrar.readEntry user) faults c =
            { result, cluster := c.withSlots slots, failures := [], faults := faults.next }) := by
  have hvisible := Slots.visible_get c.store.slots c.now (Key.registry user.text)
  have hreply := Slots.call_get c.store.slots c.now (Key.registry user.text)
  rw [Registrar.readEntry, runUnder_bind, ownerIn, seen, ← hreply]
  rcases runUnder_store_cases host faults c (.get (Key.registry user.text)) with
    ⟨fault, hfault, hcall⟩ | ⟨-, hcall⟩
  · rw [hcall]
    refine ⟨_, ?_, Or.inl ⟨fault, hfault, rfl⟩⟩
    split
    · exact hvisible
    · rfl
  · rw [hcall]
    refine ⟨_, hvisible, Or.inr ?_⟩
    cases (c.store.slots.call c.now (.get (Key.registry user.text))).1 with
    | none => exact ⟨_, rfl, rfl⟩
    | some text =>
      simp only
      cases RegistryEntry.ofJson? text with
      | none => exact ⟨_, rfl, rfl⟩
      | some entry => exact ⟨_, rfl, rfl⟩

/-- What becomes of the entry of a user who is let go. It is as it was, or it was forfeit and is
    gone. If no call has failed, it is gone exactly if it was forfeit. -/
def GivenUp (self : InstanceId) (failures : List StoreError) (slots : Slots) : Prop :=
  slots.visible c.now = c.seen ∧ (failures = [] → ¬c.Forfeit self user) ∨
    c.Forfeit self user ∧
      slots.visible c.now = Function.update c.seen (Key.registry user.text) none

theorem forfeit_iff (self : InstanceId) :
    c.Forfeit self user ↔ ownerIn (c.seen (Key.registry user.text)) = .ok (some self) ∨
      ownerIn (c.seen (Key.registry user.text)) = .error .codec :=
  Iff.rfl

/-- What is forfeit is deleted, if the store answers or carries the call out all the same. -/
theorem givenUp_delete (self : InstanceId) {slots : Slots} (hslots : slots.visible c.now = c.seen)
    (hforfeit : c.Forfeit self user) :
    ∃ slots' result failures, c.GivenUp user self failures slots' ∧
      runUnder host (Operation.store (.delete (Key.registry user.text))) faults
          (c.withSlots slots) =
        { result, cluster := c.withSlots slots', failures, faults := faults.next } := by
  have hgone := Slots.visible_delete slots c.now (Key.registry user.text)
  rw [hslots] at hgone
  rcases runUnder_store_cases host faults (c.withSlots slots)
    (.delete (Key.registry user.text)) with ⟨fault, _, hcall⟩ | ⟨-, hcall⟩
  · refine ⟨_, _, _, ?_, hcall⟩
    split
    · exact Or.inr ⟨hforfeit, hgone⟩
    · exact Or.inl ⟨hslots, fun hnone => absurd hnone (List.cons_ne_nil _ _)⟩
  · exact ⟨_, _, _, Or.inr ⟨hforfeit, hgone⟩, hcall⟩

theorem givenUp_deleteOwnEntry (self : Registrar) (hsilent : faults.Silent) :
    ∃ slots result failures rest, rest.Silent ∧ c.GivenUp user self.id failures slots ∧
      runUnder host (self.deleteOwnEntry user) faults c =
        { result, cluster := c.withSlots slots, failures, faults := rest } := by
  rcases runUnder_readEntry host faults c user with ⟨slots, hslots, hread⟩
  have hkept : ∀ {result : Except StoreError (Option InstanceId)},
      result = ownerIn (c.seen (Key.registry user.text)) → result ≠ .ok (some self.id) →
      result ≠ .error .codec → c.GivenUp user self.id [] slots := by
    rintro result rfl hown hcodec
    refine Or.inl ⟨hslots, fun _ hforfeit => ?_⟩
    rcases (c.forfeit_iff user self.id).1 hforfeit with h | h
    · exact hown h
    · exact hcodec h
  rw [Registrar.deleteOwnEntry, runUnder_bind]
  rcases hread with ⟨fault, hfault, hread⟩ | ⟨result, hresult, hread⟩
  · rw [hread]
    have hlost : c.GivenUp user self.id [fault.error] slots :=
      Or.inl ⟨hslots, fun hnone => absurd hnone (List.cons_ne_nil _ _)⟩
    refine ⟨slots, .error fault.error, [fault.error], faults.next, hsilent.next, hlost, ?_⟩
    have hcodec := hsilent 0 fault hfault
    cases herror : fault.error with
    | codec => exact absurd herror hcodec
    | unavailable | timeout => rfl
  · rw [hread]
    have hdelete := givenUp_delete host faults.next c user self.id hslots
    rcases result with e | _ | entry
    · cases e with
      | codec =>
        rcases hdelete (Or.inr hresult.symm) with ⟨slots', result, failures, hgone, hcall⟩
        exact ⟨slots', result, failures, _, hsilent.next.next, hgone,
          congrArg (Ending.after []) hcall⟩
      | unavailable | timeout =>
        refine ⟨slots, _, [], _, hsilent.next, hkept hresult ?_ ?_, rfl⟩ <;>
          simp only [Except.map, ne_eq, reduceCtorEq, not_false_eq_true, Except.error.injEq]
    · refine ⟨slots, _, [], _, hsilent.next, hkept hresult ?_ ?_, rfl⟩ <;>
        simp only [Except.map, Option.map_none, ne_eq, reduceCtorEq, not_false_eq_true,
          Except.ok.injEq]
    · by_cases hown : entry.owner = self.id
      · simp only [hown, ne_eq, not_true_eq_false, if_false]
        rcases hdelete (Or.inl (hresult.symm.trans (by rw [Except.map, Option.map_some, hown])))
          with ⟨slots', result, failures, hgone, hcall⟩
        exact ⟨slots', result, failures, _, hsilent.next.next, hgone,
          congrArg (Ending.after []) hcall⟩
      · simp only [hown, ne_eq, not_false_eq_true, if_true]
        refine ⟨slots, _, [], _, hsilent.next, hkept hresult ?_ ?_, rfl⟩
        · simpa only [Except.map, Option.map_some, ne_eq, Except.ok.injEq, Option.some.injEq]
            using hown
        · simp only [Except.map, ne_eq, reduceCtorEq, not_false_eq_true]

/-- Giving up an entry deletes it if it is forfeit, unless the store fails on the way. A failure is
    reported, and there is an end of it. -/
theorem givenUp_release (self : Registrar) (hsilent : faults.Silent) :
    ∃ slots reports failures rest, rest.Silent ∧ c.GivenUp user self.id failures slots ∧
      runUnder host (self.release user) faults c =
        { result := (), cluster := { c.withSlots slots with reports }, failures,
          faults := rest } := by
  rcases givenUp_deleteOwnEntry host faults c user self hsilent with
    ⟨slots, result, failures, rest, hrest, hgone, hdelete⟩
  rw [Registrar.release, runUnder_bind, hdelete]
  cases result with
  | ok _ => exact ⟨slots, c.reports, failures, rest, hrest, hgone, Ending.after_nil _ _ _ _⟩
  | error e =>
    exact ⟨slots, (c.reports.warn .registryDeleteFailed).count (.registryStoreErrors .unregister) 1,
      failures, rest, hrest, hgone, Ending.after_nil _ _ _ _⟩

/-- How many sessions there are is reported, and nothing else is done. -/
theorem exists_gauge : ∃ reports, runUnder host Registrar.gauge faults c =
    { result := (), cluster := { c with reports }, failures := [], faults } :=
  ⟨_, rfl⟩

/-- Letting a user go takes the session out, whatever becomes of the entry. -/
theorem givenUp_unregister (self : Registrar) (hsilent : faults.Silent) :
    ∃ slots reports failures rest, c.GivenUp user self.id failures slots ∧
      runUnder host (self.unregister user) faults c =
        { result := ()
          cluster := (c.keeping host (fun d => d.erase user) reports).withSlots slots
          failures
          faults := rest } := by
  let taken := c.updateDirectory host fun d => d.erase user
  have hremove : c.attempt host faults (.removeSession user) =
      { result := (c.directory host).find? user, cluster := taken, failures := [], faults } := rfl
  rw [Registrar.unregister, runUnder_bind, runUnder_perform, hremove]
  cases (c.directory host).find? user with
  | none =>
    rcases givenUp_release host faults taken user self hsilent with
      ⟨slots, reports, failures, rest, -, hgone, hrelease⟩
    refine ⟨slots, reports, failures, rest, hgone, ?_⟩
    simp only [Option.isSome_none, Bool.false_eq_true, if_false]
    exact congrArg (Ending.after []) hrelease
  | some session =>
    rcases exists_gauge host faults taken with ⟨counted, hgauge⟩
    rcases givenUp_release host faults { taken with reports := counted } user self hsilent with
      ⟨slots, reports, failures, rest, -, hgone, hrelease⟩
    refine ⟨slots, reports, failures, rest, hgone, ?_⟩
    simp only [Option.isSome_some, if_true]
    rw [runUnder_bind, hgauge]
    exact congrArg (fun e => Ending.after [] (Ending.after [] e)) hrelease

/-- Letting a user go if the session is a given one, when it is not, does nothing. -/
theorem runUnder_unregisterIf_of_superseded (self : Registrar) {id : SessionId}
    (h : ((c.directory host).find? user).map SessionHandle.id ≠ some id) :
    runUnder host (self.unregisterIf user id) faults c =
      { result := false, cluster := c, failures := [], faults } := by
  have hstep : c.attempt host faults (.removeSessionIf user id) =
      { result := none, cluster := c, failures := [], faults } := by
    simp only [attempt, perform]
    cases hfound : (c.directory host).find? user with
    | none => rfl
    | some other =>
      have hid : other.id ≠ id := fun hid => h (by rw [hfound, Option.map_some, hid])
      simp only [if_neg hid]
  rw [Registrar.unregisterIf, runUnder_bind, runUnder_perform, hstep]
  rfl

/-- When it is, the session is taken out, and the entry given up. -/
theorem givenUp_unregisterIf (self : Registrar) {session : SessionHandle}
    (hcurrent : (c.directory host).find? user = some session) (hsilent : faults.Silent) :
    ∃ slots reports failures rest, rest.Silent ∧ c.GivenUp user self.id failures slots ∧
      runUnder host (self.unregisterIf user session.id) faults c =
        { result := true
          cluster := (c.keeping host (fun d => d.erase user) reports).withSlots slots
          failures
          faults := rest } := by
  let taken := c.updateDirectory host fun d => d.erase user
  have hstep : c.attempt host faults (.removeSessionIf user session.id) =
      { result := some session, cluster := taken, failures := [], faults } := by
    simp only [attempt, perform, hcurrent, if_true]
    rfl
  rcases exists_gauge host faults taken with ⟨counted, hgauge⟩
  rcases givenUp_release host faults { taken with reports := counted } user self hsilent with
    ⟨slots, reports, failures, rest, hrest, hgone, hrelease⟩
  refine ⟨slots, reports, failures, rest, hrest, hgone, ?_⟩
  rw [Registrar.unregisterIf, runUnder_bind, runUnder_perform, hstep]
  simp only
  rw [runUnder_bind, hgauge, runUnder_bind, hrelease]
  exact Ending.after_nil _ _ _ _

end Release

/-! ## Coming and going -/

section Sessions

variable (self : Profile) (faults : Faults) (c : Cluster) {session : SessionHandle}

/-- Letting a session go that is not its user's current one does nothing. -/
theorem runUnder_part_of_superseded
    (h : ((c.directory host).find? session.user).map SessionHandle.id ≠ some session.id) :
    runUnder host (self.part session) faults c =
      { result := (), cluster := c, failures := [], faults } := by
  rw [Profile.part, runUnder_bind,
    runUnder_unregisterIf_of_superseded host faults c session.user self.registrar h]
  rfl

/-- Letting a user's current session go. Whatever the store does, the session is taken out and
    everybody is told. -/
theorem givenUp_part (hcurrent : (c.directory host).find? session.user = some session)
    (hsilent : faults.Silent) :
    ∃ slots reports failures rest, rest.Silent ∧ c.GivenUp session.user self.id failures slots ∧
      runUnder host (self.part session) faults c =
        { result := (),
          cluster := c.changed host (fun d => d.erase session.user) slots
            (self.router.announce c.bus (.leave c.nextMark session.user)) (c.serial + 1) reports,
          failures, faults := rest } := by
  rcases givenUp_unregisterIf host faults c session.user self.registrar hcurrent hsilent with
    ⟨slots, reports, failures, rest, hrest, hgone, hunregister⟩
  rcases runUnder_notify host self.router rest
    ((c.keeping host (fun d => d.erase session.user) reports).withSlots slots)
    (fun mark => .leave mark session.user) (fun _ => rfl) with ⟨told, hnotify⟩
  refine ⟨slots, told, failures, rest, hrest, hgone, ?_⟩
  rw [Profile.part, runUnder_bind, hunregister]
  simp only [if_true]
  rw [hnotify]
  exact Ending.after_nil _ _ _ _

theorem silent_ownFaults (h : c.store.fault = none) : c.ownFaults.Silent := by
  intro n fault hfault
  rw [ownFaults, h] at hfault
  cases hfault

/-- Taking a session in at a store that answers. Everybody is told, and the entry is written. -/
theorem runAlone_greet (session : SessionHandle) (h : c.store.fault = none) :
    ∃ slots reports,
      (runAlone host (self.greet session) c).2 =
        c.changed host (fun d => d.insert session.user session) slots
          (self.router.announce c.bus (.join c.nextMark session.user)) (c.serial + 1) reports := by
  rcases runAlone_register self.registrar host (c := c) session h with ⟨e, reports, -, hregister⟩
  let registered := (runAlone host (self.registrar.register session) c).2
  rcases runUnder_notify host self.router registered.ownFaults registered
    (fun mark => .join mark session.user) (fun _ => rfl) with ⟨told, hnotify⟩
  refine ⟨registered.store.slots, told, ?_⟩
  rw [Profile.greet, runAlone_bind, ← (runUnder_ownFaults host _ registered).2, hnotify]
  simp only [registered, hregister]
  rfl

/-- Letting a session go at a store that answers. -/
theorem runAlone_part (session : SessionHandle) (h : c.store.fault = none)
    (hcurrent : (c.directory host).find? session.user = some session) :
    ∃ slots reports,
      (runAlone host (self.part session) c).2 =
        c.changed host (fun d => d.erase session.user) slots
          (self.router.announce c.bus (.leave c.nextMark session.user)) (c.serial + 1) reports := by
  rcases givenUp_part host self c.ownFaults c hcurrent (c.silent_ownFaults h) with
    ⟨slots, reports, failures, rest, -, -, hpart⟩
  refine ⟨slots, reports, ?_⟩
  rw [← (runUnder_ownFaults host _ c).2, hpart]

theorem runAlone_part_of_superseded
    (h : ((c.directory host).find? session.user).map SessionHandle.id ≠ some session.id) :
    (runAlone host (self.part session) c).2 = c := by
  rw [← (runUnder_ownFaults host _ c).2, runUnder_part_of_superseded host self c.ownFaults c h]

end Sessions

end Cluster

end ChatCluster
