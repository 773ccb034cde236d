import ChatCluster.Proofs.Cluster.Course
import ChatCluster.Proofs.Instance.Parting
import ChatCluster.Proofs.Liveness.Withdrawal
import ChatCluster.Proofs.Network.Direction

/-!
# Leaving in a Store That Fails

What an instance leaves behind when it lets all its sessions go and takes its leave, and nothing
else goes on at it meanwhile. The directory is empty, the instance has stopped and is not ready, and
everybody has been told of every session that was there, whatever calls to the store have failed.
The store has lost what the instance may delete and nothing else: the sign of life, and the entries
of its users that named it. If no call has failed, it has lost all of that.

Text at the key of such an entry that cannot be read as an entry names nobody, and goes with the
entries. An entry of another instance for the same user stays.

The sessions may be gone through in any order. Each user has one session in the directory, so what
is done for one leaves the entries of the others alone.

## Main definitions

* `farewells`: What everybody is told.
* `Cluster.Disposable`: A key that the instance may delete.
* `Profile.leaveInOrder`: Leaving when the sessions are listed in some order.
* `Deserted`: What is left behind.

## Theorems

* `Cluster.emptied_partEach`: Letting some sessions go, by induction on those that are left.
* `Cluster.deserted_leaveInOrder`: Leaving.
* `Network.leave_deserts`: Leaving in whatever has come of a network.
-/

namespace ChatCluster

/-! ## What is left behind -/

/-- The notices of some sessions that go one after another, beginning with the message of the given
    number. -/
def farewells (time : Int64) : (serial : Nat) → List SessionHandle → List Message
  | _, [] => []
  | serial, session :: rest =>
    .leave { id := .spare serial, time } session.user :: farewells time (serial + 1) rest

/-- The instance may delete the key: it is that of its sign of life, or that of an entry of one of
    its users that names it or cannot be read. -/
def Cluster.Disposable (c : Cluster) (host : Nat) (self : InstanceId) (key : String) : Prop :=
  key = Key.liveness self.text ∨
    ∃ user session, (c.directory host).find? user = some session ∧
      key = Key.registry user.text ∧ c.Forfeit self user

/-- Leaving when the sessions are listed in some order. -/
def Profile.leaveInOrder (self : Profile) (sessions : List SessionHandle) : Operation Unit := do
  self.partEach sessions
  match ← self.monitor.withdraw with
  | .ok () => return
  | .error _ => Operation.warn .recordNotWithdrawn

theorem Profile.leave_eq (self : Profile) :
    self.leave = (Operation.perform .listSessions >>= self.leaveInOrder) := rfl

/-- What an instance leaves behind when it has left. -/
structure Deserted (c : Cluster) (host : Nat) (node : Profile) (sessions : List SessionHandle)
    (e : Ending Unit) : Prop where
  directory : e.cluster.directory host = .empty
  lifecycle : e.cluster.lifecycle host = .stopped
  ready : e.cluster.isReady host = false
  /-- Everybody is told of every session once, if the bus can be reached and frames can be made of
      the notices. -/
  notices : c.bus.unavailable = false →
    (∀ m ∈ farewells c.wallClock c.serial sessions,
      (Wire.Envelope.ofMessage node.id m).encode.length ≤ Wire.maxFrameSize) →
    node.router.Announced c.bus (farewells c.wallClock c.serial sessions) e.cluster.bus
  /-- Whatever happens afterwards, a heartbeat does nothing. -/
  heartbeats : ∀ (others : List Outside) (faults : Faults),
    (others.foldl Cluster.befall e.cluster).runUnder host node.monitor.heartbeat faults =
      { result := .ok (), cluster := others.foldl Cluster.befall e.cluster, failures := [],
        faults }
  /-- Other keys hold what they held, and for as long. -/
  kept : ∀ key, ¬c.Disposable host node.id key → e.cluster.seen key = c.seen key
  /-- What is not deleted is as it was as well. -/
  spared : ∀ key, e.cluster.seen key = none ∨ e.cluster.seen key = c.seen key
  /-- If no call has failed, everything is deleted that may be. -/
  cleared : e.failures = [] → ∀ key, c.Disposable host node.id key → e.cluster.seen key = none

/-! ## Letting all sessions go -/

namespace Cluster

variable {c : Cluster} {host : Nat} {user gone : UserId}

theorem find?_directory_updateDirectory_erase :
    ((c.updateDirectory host fun d => d.erase gone).directory host).find? user =
      if user = gone then none else (c.directory host).find? user := by
  cases hhost : c.hosts.find? host with
  | none =>
    simp only [directory, updateDirectory, updateHost, Table.find?_update, hhost,
      Option.map_none, Option.getD_none, Table.find?_empty, ite_self]
  | some state =>
    rw [directory_updateDirectory c host host _ (by rw [hhost]; rfl), if_pos rfl, Table.find?_erase]

theorem Forfeit.congr {c' : Cluster} {self : InstanceId} (h : c.Forfeit self user)
    (hseen : c'.seen (Key.registry user.text) = c.seen (Key.registry user.text)) :
    c'.Forfeit self user := by
  rw [forfeit_iff, hseen]
  exact h

/-- What is seen of the entries when some sessions have been let go, and what everybody has been
    told. -/
structure Emptied (c : Cluster) (host : Nat) (node : Profile) (sessions : List SessionHandle)
    (failures : List StoreError) (after : Cluster) : Prop where
  directory : ∀ user, (after.directory host).find? user = none
  bus : after.bus = (farewells c.wallClock c.serial sessions).foldl node.router.announce c.bus
  thinned : ∀ key, after.seen key = c.seen key ∨ after.seen key = none ∧
    ∃ session ∈ sessions, key = Key.registry session.user.text ∧ c.Forfeit node.id session.user
  cleared : failures = [] → ∀ session ∈ sessions, c.Forfeit node.id session.user →
    after.seen (Key.registry session.user.text) = none

/-- One session is let go, and then the others. An entry that is gone by then was forfeit before,
    because what is gone is not forfeit any more. -/
theorem Emptied.cons {self : Profile} {session : SessionHandle} {rest : List SessionHandle}
    {slots : Slots} {reports : Reports} {failures later : List StoreError} {after : Cluster}
    (hgone : c.GivenUp session.user self.id failures slots)
    (hnotin : session.user ∉ rest.map SessionHandle.user)
    (h : Emptied
      (c.changed host (fun d => d.erase session.user) slots
        (self.router.announce c.bus (.leave c.nextMark session.user)) (c.serial + 1) reports)
      host self rest later after) :
    Emptied c host self (session :: rest) (failures ++ later) after := by
  have hseen : ∀ key, key ≠ Key.registry session.user.text →
      slots.visible c.now key = c.seen key := by
    intro key hkey
    rcases hgone with ⟨hsame, -⟩ | ⟨-, hupdate⟩
    · exact congrFun hsame key
    · rw [hupdate, Function.update_of_ne hkey]
  have hentry : ∀ other ∈ rest,
      Key.registry other.user.text ≠ Key.registry session.user.text := by
    intro other hother hkey
    exact hnotin (Key.registry_inj.1 hkey ▸ List.mem_map_of_mem hother)
  refine ⟨h.directory, h.bus, fun key => ?_, fun hnone other hother hforfeit => ?_⟩
  · rcases h.thinned key with hsame | ⟨hnone, other, hother, rfl, hforfeit⟩
    · by_cases hkey : key = Key.registry session.user.text
      · subst hkey
        rcases hgone with ⟨hkept, -⟩ | ⟨hforfeit, hupdate⟩
        · exact Or.inl (hsame.trans (congrFun hkept _))
        · refine Or.inr ⟨hsame.trans ?_, session, List.mem_cons_self, rfl, hforfeit⟩
          exact (congrFun hupdate _).trans (Function.update_self ..)
      · exact Or.inl (hsame.trans (hseen key hkey))
    · refine Or.inr ⟨hnone, other, List.mem_cons_of_mem _ hother, rfl, ?_⟩
      exact hforfeit.congr (hseen _ (hentry other hother)).symm
  · obtain ⟨hfirst, hrest⟩ := List.append_eq_nil_iff.1 hnone
    rcases List.mem_cons.1 hother with rfl | hother
    · -- This entry was deleted at once, and what is gone does not come back.
      rcases hgone with ⟨-, hnot⟩ | ⟨-, hupdate⟩
      · exact absurd hforfeit (hnot hfirst)
      · have hdeleted : slots.visible c.now (Key.registry other.user.text) = none :=
          (congrFun hupdate _).trans (Function.update_self ..)
        rcases h.thinned (Key.registry other.user.text) with hsame | ⟨hnone, -⟩
        · exact hsame.trans hdeleted
        · exact hnone
    · exact h.cleared hrest other hother (hforfeit.congr (hseen _ (hentry other hother)))

/-- Letting go of all sessions that are there, one after another. -/
theorem emptied_partEach (self : Profile) (sessions : List SessionHandle) (faults : Faults)
    (c : Cluster) (hsilent : faults.Silent) (hnodup : (sessions.map SessionHandle.user).Nodup)
    (hcurrent : ∀ session ∈ sessions, (c.directory host).find? session.user = some session)
    (hall : ∀ user session, (c.directory host).find? user = some session →
      user ∈ sessions.map SessionHandle.user) :
    ∃ failures rest after, rest.Silent ∧ Emptied c host self sessions failures after ∧
      runUnder host (self.partEach sessions) faults c =
        { result := (), cluster := after, failures, faults := rest } := by
  induction sessions generalizing faults c with
  | nil =>
    refine ⟨[], faults, c, hsilent, ⟨fun user => ?_, rfl, fun _ => Or.inl rfl, ?_⟩, rfl⟩
    · exact Option.eq_none_iff_forall_ne_some.2 fun session hfound =>
        absurd (hall user session hfound) List.not_mem_nil
    · exact fun _ _ hmem => absurd hmem List.not_mem_nil
  | cons session rest ih =>
    obtain ⟨hnotin, hrest⟩ := List.nodup_cons.1 hnodup
    rcases givenUp_part host self faults c (hcurrent session List.mem_cons_self) hsilent with
      ⟨slots, reports, failures, between, hbetween, hgone, hpart⟩
    let parted := c.changed host (fun d => d.erase session.user) slots
      (self.router.announce c.bus (.leave c.nextMark session.user)) (c.serial + 1) reports
    have hdirectory : ∀ user, (parted.directory host).find? user =
        if user = session.user then none else (c.directory host).find? user :=
      fun user => find?_directory_updateDirectory_erase
    have hstill : ∀ other ∈ rest, (parted.directory host).find? other.user = some other := by
      intro other hother
      have hne : other.user ≠ session.user :=
        fun heq => hnotin (heq ▸ List.mem_map_of_mem hother)
      rw [hdirectory, if_neg hne]
      exact hcurrent other (List.mem_cons_of_mem _ hother)
    have hothers : ∀ user found, (parted.directory host).find? user = some found →
        user ∈ rest.map SessionHandle.user := by
      intro user found hfound
      rw [hdirectory] at hfound
      split at hfound
      · cases hfound
      · next hne => exact (List.mem_cons.1 (hall user found hfound)).resolve_left hne
    rcases ih between parted hbetween hrest hstill hothers with
      ⟨later, last, after, hlast, hemptied, hafter⟩
    refine ⟨failures ++ later, last, after, hlast, hemptied.cons hgone hnotin, ?_⟩
    rw [Profile.partEach, runUnder_bind, hpart, hafter]
    rfl

/-! ## Taking leave -/

/-- The instance has stopped and says that it is not ready. -/
def stopped (c : Cluster) (host : Nat) : Cluster :=
  ((c.perform host .stop).2.perform host (.setReady false)).2

theorem directory_stopped (c : Cluster) (host : Nat) :
    (c.stopped host).directory host = c.directory host := by
  let halted := (c.perform host .stop).2
  have hready : (c.stopped host).directory host = halted.directory host :=
    directory_updateHost halted host host fun _ => rfl
  exact hready.trans (directory_updateHost c host host fun _ => rfl)

theorem runUnder_withdraw (self : Monitor) (host : Nat) (faults : Faults) (c : Cluster) :
    ∃ result slots failures rest,
      (failures ≠ [] ∧ slots.visible c.now = c.seen ∨
        slots.visible c.now = Function.update c.seen (Key.liveness self.id.text) none) ∧
      runUnder host self.withdraw faults c =
        { result, cluster := (c.stopped host).withSlots slots, failures, faults := rest } := by
  have hgone := Slots.visible_delete c.store.slots c.now (Key.liveness self.id.text)
  -- Neither of the first two steps can fail.
  have hstop : c.attempt host faults .stop =
      { result := (), cluster := (c.perform host .stop).2, failures := [], faults } := rfl
  have hclear : (c.perform host .stop).2.attempt host faults (.setReady false) =
      { result := (), cluster := c.stopped host, failures := [], faults } := rfl
  rw [Monitor.withdraw, runUnder_bind, runUnder_perform, hstop]
  simp only
  rw [runUnder_bind, runUnder_perform, hclear]
  simp only
  rw [runUnder_bind]
  rcases runUnder_store_cases host faults (c.stopped host) (.delete (Key.liveness self.id.text))
    with ⟨fault, _, hcall⟩ | ⟨-, hcall⟩
  · rw [hcall]
    refine ⟨_, _, _, _, ?_, Ending.after_nil _ _ _ _⟩
    split
    · exact Or.inr hgone
    · exact Or.inl ⟨List.cons_ne_nil _ _, rfl⟩
  · rw [hcall]
    exact ⟨_, _, _, _, Or.inr hgone, Ending.after_nil _ _ _ _⟩

/-- A stopped instance gives no sign of life, whether the store answers or not. -/
theorem runUnder_heartbeat_of_stopped (self : Monitor) {host : Nat} {c : Cluster}
    (h : c.lifecycle host = .stopped) (faults : Faults) :
    runUnder host self.heartbeat faults c =
      { result := .ok (), cluster := c, failures := [], faults } := by
  have hlooked : c.attempt host faults .lifecycle =
      { result := .stopped, cluster := c, failures := [], faults } := by
    rw [← h]
    rfl
  rw [Monitor.heartbeat, runUnder_bind, runUnder_perform, hlooked]
  rfl

theorem lifecycle_foldl_befall {host : Nat} (others : List Outside) {c : Cluster}
    (h : c.lifecycle host = .stopped) : (others.foldl befall c).lifecycle host = .stopped := by
  induction others generalizing c with
  | nil => exact h
  | cons o others ih => exact ih (lifecycle_befall h o)

end Cluster

/-! ## Leaving -/

section Leaving

variable {c : Cluster} {host : Nat} (self : Profile) (faults : Faults)

theorem Table.eq_empty_of_find? {κ υ : Type} [DecidableEq κ] {t : Table κ υ}
    (h : ∀ k, t.find? k = none) : t = .empty := by
  refine Table.ext (List.eq_nil_iff_forall_not_mem.2 ?_)
  rintro ⟨k, v⟩ hmem
  rw [t.mem_iff_find?, h] at hmem
  cases hmem

/-- What is seen in the end. The sign of life and the entries have keys of different kinds, so what
    has become of the ones says nothing about the other. -/
theorem Cluster.Emptied.seen {node : Profile} {sessions : List SessionHandle}
    {failures failed : List StoreError} {after : Cluster} {slots : Slots}
    (h : c.Emptied host node sessions failures after)
    (hmem : ∀ user session, (c.directory host).find? user = some session →
      session ∈ sessions ∧ session.user = user)
    (hcurrent : ∀ session ∈ sessions, (c.directory host).find? session.user = some session)
    (hsign : failed ≠ [] ∧ slots.visible after.now = after.seen ∨
      slots.visible after.now = Function.update after.seen (Key.liveness node.id.text) none)
    (key : String) :
    (¬c.Disposable host node.id key → slots.visible after.now key = c.seen key) ∧
      (slots.visible after.now key = none ∨ slots.visible after.now key = c.seen key) ∧
      (failures ++ failed = [] → c.Disposable host node.id key →
        slots.visible after.now key = none) := by
  by_cases hkey : key = Key.liveness node.id.text
  · subst hkey
    have hdisposable : c.Disposable host node.id (Key.liveness node.id.text) := Or.inl rfl
    rcases hsign with ⟨hfailed, hsame⟩ | hupdate
    · refine ⟨absurd hdisposable, ?_,
        fun hnone => absurd (List.append_eq_nil_iff.1 hnone).2 hfailed⟩
      rcases h.thinned (Key.liveness node.id.text) with hkept | ⟨-, session, -, heq, -⟩
      · exact Or.inr ((congrFun hsame _).trans hkept)
      · exact absurd heq.symm (Key.registry_ne_liveness _ _)
    · have hnone : slots.visible after.now (Key.liveness node.id.text) = none :=
        (congrFun hupdate _).trans (Function.update_self ..)
      exact ⟨absurd hdisposable, Or.inl hnone, fun _ _ => hnone⟩
  · have hother : slots.visible after.now key = after.seen key := by
      rcases hsign with ⟨-, hsame⟩ | hupdate
      · exact congrFun hsame key
      · exact (congrFun hupdate key).trans (Function.update_of_ne hkey _ _)
    rw [hother]
    refine ⟨fun hkept => ?_, (h.thinned key).symm.imp And.left id, fun hnone hdisposable => ?_⟩
    · rcases h.thinned key with hsame | ⟨-, session, hsession, heq, hforfeit⟩
      · exact hsame
      · exact absurd
          (Or.inr ⟨session.user, session, hcurrent session hsession, heq, hforfeit⟩) hkept
    · rcases hdisposable with hsign | ⟨user, session, hfound, rfl, hforfeit⟩
      · exact absurd hsign hkey
      · rcases hmem user session hfound with ⟨hsession, rfl⟩
        exact h.cleared (List.append_eq_nil_iff.1 hnone).1 session hsession hforfeit

/-- Leaving, in whatever order the sessions are listed and whatever calls fail on the way. -/
theorem Cluster.deserted_leaveInOrder
    (hfiled : ∀ user session, (c.directory host).find? user = some session → session.user = user)
    (hsilent : faults.Silent) {sessions : List SessionHandle}
    (hsessions : sessions.Perm (c.directory host).values) :
    Deserted c host self sessions (c.runUnder host (self.leaveInOrder sessions) faults) := by
  have hmem := mem_iff_of_perm hfiled hsessions
  have hall : ∀ user session, (c.directory host).find? user = some session →
      session ∈ sessions ∧ session.user = user := by
    intro user session hfound
    have huser := hfiled user session hfound
    exact ⟨(hmem session).2 (by rw [huser, hfound]), huser⟩
  rcases emptied_partEach self sessions faults c hsilent
    ((hsessions.map _).nodup_iff.2 (nodup_users hfiled)) (fun session => (hmem session).1)
    (fun user session hfound => (hall user session hfound).2 ▸
      List.mem_map_of_mem (hall user session hfound).1) with
    ⟨failures, rest, after, hrest, hemptied, hpart⟩
  rcases runUnder_withdraw self.monitor host rest after with
    ⟨result, slots, failed, last, hsign, hwithdraw⟩
  obtain ⟨reports, hrun⟩ : ∃ reports, c.runUnder host (self.leaveInOrder sessions) faults =
      { result := (), cluster := { (after.stopped host).withSlots slots with reports },
        failures := failures ++ failed, faults := last } := by
    rw [Profile.leaveInOrder, runUnder_bind, hpart]
    simp only
    rw [runUnder_bind, hwithdraw]
    cases result with
    | ok _ => exact ⟨after.reports, congrArg (Ending.after failures) (Ending.after_nil _ _ _ _)⟩
    | error e =>
      exact ⟨after.reports.warn .recordNotWithdrawn,
        congrArg (Ending.after failures) (Ending.after_nil _ _ _ _)⟩
  have hlifecycle : (after.stopped host).lifecycle host = .stopped :=
    lifecycle_perform (lifecycle_perform_stop after host) host (.setReady false)
  have hseen := hemptied.seen hall (fun session => (hmem session).1) hsign
  rw [hrun]
  refine ⟨?_, hlifecycle, isReady_perform_clear _ host, ?_, ?_, fun key => (hseen key).1,
    fun key => (hseen key).2.1, fun hnone key => (hseen key).2.2 hnone⟩
  · exact (directory_stopped after host).trans (Table.eq_empty_of_find? hemptied.directory)
  · intro _ hfits
    have hbus : (after.stopped host).bus = after.bus :=
      (bus_perform _ host (.setReady false)).trans (bus_perform after host .stop)
    have hannounced := self.router.announced_foldl c.bus _ hfits
    rw [← hemptied.bus, ← hbus] at hannounced
    exact hannounced
  · intro others plan
    exact runUnder_heartbeat_of_stopped self.monitor
      (lifecycle_foldl_befall others (c := { (after.stopped host).withSlots slots with reports })
        hlifecycle) plan

end Leaving

namespace Network

/-- Whatever has come of a network, an instance that leaves and does nothing else meanwhile leaves
    nothing behind but what it could not delete, in whatever order it goes through its sessions and
    whatever calls to the store fail. On a store that answers none fails, so everything that it may
    delete is deleted. -/
theorem leave_deserts (opTimeout busCapacity : Nat) (wallClock : Int64) (moves : List Move)
    (host : Nat) (self : Profile) (faults : Faults) (hsilent : faults.Silent) :
    let c := ((new opTimeout busCapacity wallClock).run moves).cluster
    (∀ sessions : List SessionHandle, sessions.Perm (c.directory host).values →
      Deserted c host self sessions (c.runUnder host (self.leaveInOrder sessions) faults)) ∧
      Deserted c host self (c.directory host).values (c.runUnder host self.leave faults) ∧
      (c.store.fault = none → ∃ e, Deserted c host self (c.directory host).values e ∧
        e.failures = [] ∧ e.cluster = (c.runAlone host self.leave).2) := by
  intro c
  rcases (sound_new opTimeout busCapacity wallClock fun _ => .blank false).run moves with
    ⟨ledgers, hsound⟩
  have hfiled : ∀ user session, (c.directory host).find? user = some session →
      session.user = user :=
    fun user session hfound => (hsound.tidy.directories host user session hfound).1
  have hinOrder : ∀ (plan : Faults), plan.Silent → ∀ sessions : List SessionHandle,
      sessions.Perm (c.directory host).values →
        Deserted c host self sessions (c.runUnder host (self.leaveInOrder sessions) plan) :=
    fun plan hplan sessions => Cluster.deserted_leaveInOrder self plan hfiled hplan
  -- Listing the sessions is a step that changes nothing.
  have hleave : ∀ plan : Faults, plan.Silent →
      Deserted c host self (c.directory host).values (c.runUnder host self.leave plan) := by
    intro plan hplan
    rw [Profile.leave_eq]
    exact hinOrder plan hplan _ (List.Perm.refl _)
  refine ⟨hinOrder faults hsilent, hleave faults hsilent, fun hhealthy => ?_⟩
  have hnone : c.ownFaults = fun _ => none := by
    funext n
    simp only [Cluster.ownFaults, hhealthy, Option.map_none]
  refine ⟨_, hleave c.ownFaults (c.silent_ownFaults hhealthy), ?_,
    (Cluster.runUnder_ownFaults host self.leave c).2⟩
  rw [hnone]
  exact Cluster.failures_runUnder_none host self.leave c

/-- A node takes in two sessions, and the entry of the second user is taken over from outside by
    another instance. -/
def takenOver : List Move :=
  [.start (.standard ⟨"north"⟩) 0 8, .attach 0 ⟨"ann"⟩, .attach 0 ⟨"ben"⟩] ++
  List.replicate 7 (.proceed 1) ++ List.replicate 7 (.proceed 2) ++
  [.callStore (.set (Key.registry "ben")
    (RegistryEntry.mk ⟨"ben"⟩ ⟨"south"⟩ 0).toJson 1000)]

/-- The second call is carried out and gets no answer. The first user's entry is deleted all the
    same, and the entry that was taken over stays. -/
theorem leave_deserts_takenOver :
    let c := ((new 100 16 0).run takenOver).cluster
    let faults : Faults := fun n => if n = 1 then some ⟨.timeout 100, true⟩ else none
    let e := c.runUnder 0 (Profile.standard ⟨"north"⟩).leave faults
    faults.Silent ∧ (c.directory 0).size = 2 ∧ e.failures = [.timeout 100] ∧
      e.cluster.directory 0 = .empty ∧ e.cluster.seen (Key.registry "ann") = none ∧
      c.Names ⟨"ben"⟩ ⟨"south"⟩ ∧
      e.cluster.seen (Key.registry "ben") = c.seen (Key.registry "ben") := by
  intro c faults e
  have hsilent : faults.Silent := by
    intro n fault hfault
    simp only [faults] at hfault
    split at hfault
    · cases hfault
      exact StoreError.noConfusion
    · cases hfault
  have hdeserted : Deserted c 0 (Profile.standard ⟨"north"⟩) (c.directory 0).values e :=
    (leave_deserts 100 16 0 takenOver 0 (Profile.standard ⟨"north"⟩) faults hsilent).2.1
  have hnames : c.Names ⟨"ben"⟩ ⟨"south"⟩ := by
    rw [Cluster.Names]
    decide +kernel
  have hkept : ¬c.Disposable 0 ⟨"north"⟩ (Key.registry "ben") := by
    rintro (hsign | ⟨user, session, -, hkey, hforfeit⟩)
    · exact Key.registry_ne_liveness _ _ hsign
    · obtain rfl : (⟨"ben"⟩ : UserId) = user := Key.registry_inj.1 hkey
      rw [Cluster.forfeit_iff, show ownerIn _ = _ from hnames] at hforfeit
      rcases hforfeit with h | h <;> simp at h
  exact ⟨hsilent, by decide +kernel, by decide +kernel, hdeserted.directory, by decide +kernel,
    hnames, hdeserted.kept _ hkept⟩

/-- Where an entry was, somebody has written a text that is no entry. -/
def scribbledOver : List Move :=
  [.start (.standard ⟨"north"⟩) 0 8, .attach 0 ⟨"ann"⟩] ++ List.replicate 7 (.proceed 1) ++
  [.callStore (.set (Key.registry "ann") "?" 1000)]

/-- Not only entries that name the instance are deleted. A text that is no entry names nobody, and
    goes all the same. -/
theorem leave_deletes_unreadable :
    let c := ((new 100 16 0).run scribbledOver).cluster
    c.store.fault = none ∧
      ¬∀ key, key ≠ Key.liveness "north" →
        (∀ user : UserId, key = Key.registry user.text → ¬c.Names user ⟨"north"⟩) →
        (c.runAlone 0 (Profile.standard ⟨"north"⟩).leave).2.seen key = c.seen key := by
  intro c
  have hwritten : c.seen (Key.registry "ann") =
      some { held := .text "?", expiresAt := some 1000 } := by decide +kernel
  have hgone : (c.runAlone 0 (Profile.standard ⟨"north"⟩).leave).2.seen (Key.registry "ann") =
      none := by decide +kernel
  have hnobody : ¬c.Names ⟨"ann"⟩ ⟨"north"⟩ := by
    rw [Cluster.Names]
    decide +kernel
  refine ⟨by decide +kernel, fun hkept => ?_⟩
  have hsame := hkept (Key.registry "ann") (Key.registry_ne_liveness _ _) fun user hkey => by
    obtain rfl : (⟨"ann"⟩ : UserId) = user := Key.registry_inj.1 hkey
    exact hnobody
  rw [hgone, hwritten] at hsame
  cases hsame

end Network

end ChatCluster
