import ChatCluster.Proofs.Cluster.Interleaving
import ChatCluster.Proofs.Registry.DeadOwner
import ChatCluster.Proofs.Registry.Tending

/-!
# The Entry Settles

What an instance does for one user is made of single steps, and the steps of what it has begun mix
with each other. So the entry of the user may be wrong for a while. A close that has seen an entry
of the instance deletes whatever stands there when it gets to it, and that may be the entry of a
session that has come since; then a user is attached and has no entry. A refresh that has found a
session open writes its entry even if the session has closed since; then there is an entry and
nobody is attached.

It does not stay wrong. As long as nobody else writes the entry, there is never one that names
another instance (`Bustle.Tended`). So if a session is open when everything has ended, refreshing
the user brings an entry back or extends the right one. If none is open, nothing that begins later
finds one, and what finds none renews nothing (`Bustle.Resting`).

## Main definitions

* `Job`: What the instance begins for the user.
* `Outside.Spares`: What happens around it leaves the entry alone.
* `Bustle`, `Bustle.stir`, `Bustle.run`: What has been begun, and how it goes on, in any order.

## Theorems

* `Bustle.tended_run`: Entries name the instance, and expire in time.
* `Bustle.resting_run`: When nobody is attached, nobody renews the entry.
* `refresh_settles`: What a refresh in the end is good for.
-/

namespace ChatCluster

open Operation

/-- What an instance begins for a user. -/
inductive Job where
  /-- Takes in a session with the given queue and number. -/
  | attach (queue : Nat) (id : SessionId)
  /-- Lets the user go if the session is the one with the given number. -/
  | close (id : SessionId)
  /-- Extends the entry of the user. -/
  | refresh
  /-- Shows itself, and extends the entries of all its users. -/
  | heartbeat
  deriving DecidableEq, Repr

/-- The user attaches. -/
def Job.attaches : Job → Bool
  | .attach _ _ => true
  | .close _ | .refresh | .heartbeat => false

/-- The steps that it takes. -/
def Job.operation (self : Profile) (user : UserId) : Job → Operation Unit
  | .attach queue id => do
    let _ ← self.registrar.register { queue, id, user }
    return
  | .close id => do
    let _ ← self.registrar.unregisterIf user id
    return
  | .refresh => do
    let _ ← self.registrar.refresh user
    return
  | .heartbeat => self.timedHeartbeat

/-- It leaves the user to the instance. Nobody else writes the entry, though anybody may delete it,
    and no session of the user comes into the directory. -/
def Outside.Spares (host : Nat) (user : UserId) : Outside → Prop
  | .step other e =>
    (e.writes? = some (Key.registry user.text) → e = .store (.delete (Key.registry user.text))) ∧
      (other = host → ∀ session, e = .insertSession session → session.user ≠ user)
  | .hangUp _ | .wait _ | .setClock _ _ => True

/-- An instance that has begun several things for one user. -/
structure Bustle where
  /-- The cluster. -/
  cluster : Cluster
  /-- What has been begun, as far as it is still to be done. -/
  tasks : List (Operation Unit)
  /-- When the instance last wrote to the entry. -/
  written : Nat

/-- What happens next. -/
inductive Stir where
  /-- The instance begins something. -/
  | start (job : Job)
  /-- It takes the next step of something that it has begun. -/
  | proceed (i : Nat)
  /-- Something happens around it. -/
  | outside (o : Outside)

/-- It leaves the user to the instance. -/
def Stir.Spares (host : Nat) (user : UserId) : Stir → Prop
  | .outside o => o.Spares host user
  | .start _ | .proceed _ => True

/-- The user attaches. -/
def Stir.attaches : Stir → Bool
  | .start job => job.attaches
  | .proceed _ | .outside _ => false

/-- Nothing is left to be done. -/
def isOver : Operation Unit → Bool
  | .done _ => true
  | .ask _ _ => false

/-- The entry was left as it was, or is gone. -/
def Fades (before after : Option Slot) : Prop :=
  after = before ∨ after = none

namespace Bustle

/-- The next step of something that has been begun. -/
def proceed (host : Nat) (user : UserId) (s : Bustle) (i : Nat) : Bustle :=
  match s.tasks[i]? with
  | some (.ask e next) =>
    let (reply, cluster) := s.cluster.perform host e
    { cluster
      tasks := s.tasks.set i (next reply)
      written := if e.writes? = some (Key.registry user.text) then s.cluster.now else s.written }
  | some (.done _) | none => s

/-- What comes of what happens next. -/
def stir (host : Nat) (user : UserId) (s : Bustle) : Stir → Bustle
  | .start job =>
    match s.cluster.profile? host with
    | none => s
    | some self => { s with tasks := s.tasks ++ [job.operation self user] }
  | .proceed i => s.proceed host user i
  | .outside o => { s with cluster := s.cluster.befall o }

/-- What comes of several things, one after another. -/
def run (host : Nat) (user : UserId) (s : Bustle) (events : List Stir) : Bustle :=
  events.foldl (stir host user) s

end Bustle

/-! ## What happens around it -/

section Outside

variable {c : Cluster} {host : Nat} {user : UserId} {o : Outside}

theorem Fades.eq_some {before after : Option Slot} {slot : Slot} (h : Fades before after)
    (hslot : after = some slot) : before = some slot := by
  rcases h with rfl | rfl
  · exact hslot
  · cases hslot

namespace Cluster

theorem holdsOpen_of_befall (hspares : o.Spares host user)
    (hopen : (c.befall o).holdsOpen host user = true) : c.holdsOpen host user = true := by
  cases o with
  | step other e => exact holdsOpen_of_perform hspares.2 hopen
  | hangUp queue => exact holdsOpen_of_hangUp hopen
  | wait ms => exact hopen
  | setClock other time => exact (holdsOpen_setClock host other user time).symm.trans hopen

theorem fades_befall (hhealthy : c.store.fault = none) (hspares : o.Spares host user) :
    Fades (c.seen (Key.registry user.text)) ((c.befall o).seen (Key.registry user.text)) := by
  cases o with
  | step other e =>
    by_cases hwrites : e.writes? = some (Key.registry user.text)
    · have he := hspares.1 hwrites
      subst he
      have hdelete := congrFun (seen_delete other (Key.registry user.text) hhealthy)
        (Key.registry user.text)
      exact Or.inr (hdelete.trans (Function.update_self _ _ _))
    · exact Or.inl (seen_perform_of_ne hwrites c other)
  | hangUp | setClock => exact Or.inl rfl
  | wait ms =>
    rw [befall, seen_wait]
    cases c.seen (Key.registry user.text) with
    | none => exact Or.inr rfl
    | some slot =>
      rw [Option.filter_some]
      split
      · exact Or.inl rfl
      · exact Or.inr rfl

end Cluster

end Outside

/-! ## Entries name the instance -/

namespace Bustle

open Cluster

variable {s : Bustle} {host : Nat} {user : UserId} {p : Profile}

/-- Whatever can be seen of the entry names the instance and expires in time, and whatever has been
    begun tends it. -/
structure Tended (s : Bustle) (host : Nat) (user : UserId) (p : Profile) : Prop where
  profile : s.cluster.profile? host = some p
  healthy : s.cluster.store.fault = none
  entry : ∀ slot, s.cluster.seen (Key.registry user.text) = some slot →
    ownerIn (some slot) = .ok (some p.id) ∧ slot.GoneBy (s.written + p.entryTtl)
  tasks : ∀ task ∈ s.tasks, ∃ notes, (tending p.registrar user).Obeys notes task fun _ _ => True

/-- What is begun tends the entry. Only whoever attaches may renew it without looking. -/
theorem tending_operation (job : Job) :
    (tending p.registrar user).Obeys { found := none, renews := job.attaches }
      (job.operation p user) fun _ _ => True := by
  cases job with
  | attach queue id => exact Rules.obeys_bind (tending_register rfl rfl) fun _ _ _ => trivial
  | close id => exact Rules.obeys_bind (tending_unregisterIf id) fun _ _ _ => trivial
  | refresh => exact Rules.obeys_bind (tending_refresh user) fun _ _ _ => trivial
  | heartbeat => exact tending_timedHeartbeat p

theorem Tended.start (h : s.Tended host user p) (job : Job) :
    (s.stir host user (.start job)).Tended host user p := by
  simp only [stir, h.profile]
  refine { h with tasks := fun task htask => ?_ }
  rcases List.mem_append.1 htask with hbefore | hnew
  · exact h.tasks task hbefore
  · rw [List.mem_singleton.1 hnew]
    exact ⟨_, tending_operation job⟩

/-- A step of the instance renews an entry that names the instance, at this very moment, or deletes
    it, or does nothing to it. -/
theorem Tended.proceed (h : s.Tended host user p) (i : Nat) :
    (s.stir host user (.proceed i)).Tended host user p := by
  simp only [stir, Bustle.proceed]
  split
  · next e next htask =>
    have hmem : .ask e next ∈ s.tasks := List.mem_of_getElem? htask
    rcases h.tasks _ hmem with ⟨notes, hallows, hrest⟩
    refine
      { profile := (profile?_perform s.cluster host host e).trans h.profile
        healthy := (fault_perform s.cluster host e).trans h.healthy
        entry := fun slot hslot => ?_
        tasks := fun task htask => ?_ }
    · simp only at hslot ⊢
      by_cases hwrites : e.writes? = some (Key.registry user.text)
      · rw [if_pos hwrites]
        rcases seen_perform_of_tending host h.healthy hallows hwrites with
          hgone | ⟨_, renewed, hrenewed, hafter⟩
        · rw [hgone] at hslot
          cases hslot
        · rw [hafter] at hslot
          have hnamed : ownerIn (some renewed) = .ok (some p.id) := by
            rcases hrenewed with hseen | hnamed
            · exact (h.entry renewed hseen).1
            · exact hnamed
          exact ⟨(ownerIn_of_renewed hslot).trans hnamed, goneBy_of_renewed hslot⟩
      · rw [if_neg hwrites]
        rw [seen_perform_of_ne hwrites] at hslot
        exact h.entry slot hslot
    · rcases List.mem_or_eq_of_mem_set htask with hbefore | rfl
      · exact h.tasks task hbefore
      · exact ⟨_, hrest _ trivial⟩
  · exact h
  · exact h

theorem Tended.outside (h : s.Tended host user p) {o : Outside} (hspares : o.Spares host user) :
    (s.stir host user (.outside o)).Tended host user p where
  profile := (profile?_befall o).trans h.profile
  healthy := (fault_befall o).trans h.healthy
  entry slot hslot := h.entry slot ((fades_befall h.healthy hspares).eq_some hslot)
  tasks := h.tasks

theorem Tended.stir (h : s.Tended host user p) {event : Stir} (hspares : event.Spares host user) :
    (s.stir host user event).Tended host user p := by
  cases event with
  | start job => exact h.start job
  | proceed i => exact h.proceed i
  | outside o => exact h.outside hspares

theorem tended_run (h : s.Tended host user p) {events : List Stir}
    (hspares : ∀ event ∈ events, event.Spares host user) :
    (s.run host user events).Tended host user p := by
  induction events generalizing s with
  | nil => exact h
  | cons event rest ih =>
    exact ih (h.stir (hspares event List.mem_cons_self))
      fun other hother => hspares other (List.mem_cons_of_mem event hother)

/-! ## Nobody renews the entry -/

end Bustle

/-- Nothing is remembered that would renew the entry, now or later. -/
structure Notes.Idle (n : Notes) (c : Cluster) : Prop where
  renews : n.renews = false
  found : ∀ session, n.found = some session → c.isOpen session = false

section Idle

open Cluster

variable {c : Cluster} {host : Nat} {user : UserId} {n : Notes}

theorem Notes.Idle.mono {c' : Cluster} (h : n.Idle c)
    (hopen : ∀ session, c'.isOpen session = true → c.isOpen session = true) : n.Idle c' where
  renews := h.renews
  found session hfound :=
    Bool.eq_false_iff.2 fun hsession => Bool.eq_false_iff.1 (h.found session hfound)
      (hopen session hsession)

/-- Looking the user up finds no open session if there is none. -/
theorem Notes.Idle.perform (h : n.Idle c) (hclosed : c.holdsOpen host user = false) (e : Effect) :
    (n.after user e (c.perform host e).1).Idle (c.perform host e).2 := by
  suffices hidle : (n.after user e (c.perform host e).1).Idle c from
    hidle.mono fun session hsession => (isOpen_perform c host e session).symm.trans hsession
  cases e with
  | findSession other =>
    simp only [Notes.after]
    split
    · next hother =>
      subst hother
      refine ⟨rfl, fun session hfound => Bool.eq_false_iff.2 fun hsession => ?_⟩
      exact Bool.eq_false_iff.1 hclosed (holdsOpen_eq_true_iff.2 ⟨session, hfound, hsession⟩)
    · exact h
  | isOpen session =>
    cases hopen : (c.perform host (.isOpen session)).1 with
    | false => exact h
    | true =>
      simp only [Notes.after]
      split
      · next hfound =>
        have hsession : c.isOpen session = true := hopen
        rw [h.found session hfound] at hsession
        exact absurd hsession Bool.false_ne_true
      · exact h
  | store | publish | clock | postmark | spareId | insertSession | removeSession | removeSessionIf
  | listSessions | countSessions | offer | lifecycle | comeAlive | stop | setReady | warn | count
  | gaugeSessions => exact h

end Idle

namespace Bustle

open Cluster

variable {s : Bustle} {host : Nat} {user : UserId} {p : Profile} {deadline : Nat}

/-- Nobody is attached, and nothing that has been begun is going to renew the entry. -/
structure Resting (s : Bustle) (host : Nat) (user : UserId) (p : Profile) (deadline : Nat) :
    Prop where
  profile : s.cluster.profile? host = some p
  healthy : s.cluster.store.fault = none
  closed : s.cluster.holdsOpen host user = false
  entry : ∀ slot, s.cluster.seen (Key.registry user.text) = some slot → slot.GoneBy deadline
  tasks : ∀ task ∈ s.tasks, ∃ notes : Notes, notes.Idle s.cluster ∧
    (tending p.registrar user).Obeys notes task fun _ _ => True

/-- The entry fades whatever happens. -/
theorem Resting.fades (h : s.Resting host user p deadline) {event : Stir}
    (hspares : event.Spares host user) :
    Fades (s.cluster.seen (Key.registry user.text))
      ((s.stir host user event).cluster.seen (Key.registry user.text)) := by
  cases event with
  | start job =>
    simp only [stir, h.profile]
    exact Or.inl rfl
  | proceed i =>
    simp only [stir, Bustle.proceed]
    split
    · next e next htask =>
      rcases h.tasks _ (List.mem_of_getElem? htask) with ⟨notes, hidle, hallows, _⟩
      by_cases hwrites : e.writes? = some (Key.registry user.text)
      · rcases seen_perform_of_tending host h.healthy hallows hwrites with hgone | ⟨hrenews, _⟩
        · exact Or.inr hgone
        · rw [hidle.renews] at hrenews
          exact absurd hrenews Bool.false_ne_true
      · exact Or.inl (seen_perform_of_ne hwrites s.cluster host)
    · exact Or.inl rfl
    · exact Or.inl rfl
  | outside o => exact fades_befall h.healthy hspares

theorem Resting.start (h : s.Resting host user p deadline) {job : Job}
    (hattaches : job.attaches = false) :
    (s.stir host user (.start job)).Resting host user p deadline := by
  simp only [stir, h.profile]
  refine { h with tasks := fun task htask => ?_ }
  rcases List.mem_append.1 htask with hbefore | hnew
  · exact h.tasks task hbefore
  · rw [List.mem_singleton.1 hnew]
    exact ⟨_, ⟨hattaches, fun session hfound => by cases hfound⟩, tending_operation job⟩

/-- What has been begun takes no session of the user in. -/
theorem Resting.proceed (h : s.Resting host user p deadline) (i : Nat) :
    (s.stir host user (.proceed i)).Resting host user p deadline := by
  have hfades : Fades (s.cluster.seen (Key.registry user.text))
      ((s.stir host user (.proceed i)).cluster.seen (Key.registry user.text)) := h.fades trivial
  simp only [stir, Bustle.proceed] at hfades ⊢
  split at hfades
  · next e next htask =>
    rcases h.tasks _ (List.mem_of_getElem? htask) with ⟨notes, hidle, hallows, hrest⟩
    refine
      { profile := (profile?_perform s.cluster host host e).trans h.profile
        healthy := (fault_perform s.cluster host e).trans h.healthy
        closed := ?_
        entry := fun slot hslot => h.entry slot (hfades.eq_some hslot)
        tasks := fun task htask => ?_ }
    · -- Only who may renew the entry may put a session of the user into the directory.
      have hnone : ∀ session, e = .insertSession session → session.user ≠ user := by
        rintro session rfl huser
        have hrenews : notes.renews = true := hallows huser
        rw [hidle.renews] at hrenews
        cases hrenews
      exact Bool.eq_false_iff.2 fun hopen =>
        Bool.eq_false_iff.1 h.closed (holdsOpen_of_perform (fun _ => hnone) hopen)
    · rcases List.mem_or_eq_of_mem_set htask with hbefore | rfl
      · rcases h.tasks task hbefore with ⟨others, hothers, hobeys⟩
        exact ⟨others, hothers.mono fun session hsession =>
          (isOpen_perform s.cluster host e session).symm.trans hsession, hobeys⟩
      · exact ⟨_, hidle.perform h.closed e, hrest _ trivial⟩
  · exact h
  · exact h

theorem Resting.outside (h : s.Resting host user p deadline) {o : Outside}
    (hspares : o.Spares host user) :
    (s.stir host user (.outside o)).Resting host user p deadline where
  profile := (profile?_befall o).trans h.profile
  healthy := (fault_befall o).trans h.healthy
  closed := Bool.eq_false_iff.2 fun hopen =>
    Bool.eq_false_iff.1 h.closed (holdsOpen_of_befall hspares hopen)
  entry slot hslot := h.entry slot ((fades_befall h.healthy hspares).eq_some hslot)
  tasks task htask := by
    rcases h.tasks task htask with ⟨notes, hidle, hobeys⟩
    exact ⟨notes, hidle.mono fun _ => isOpen_of_befall, hobeys⟩

theorem Resting.stir (h : s.Resting host user p deadline) {event : Stir}
    (hspares : event.Spares host user) (hattaches : event.attaches = false) :
    (s.stir host user event).Resting host user p deadline := by
  cases event with
  | start job => exact h.start hattaches
  | proceed i => exact h.proceed i
  | outside o => exact h.outside hspares

theorem resting_run (h : s.Resting host user p deadline) {events : List Stir}
    (hspares : ∀ event ∈ events, event.Spares host user ∧ event.attaches = false) :
    (s.run host user events).Resting host user p deadline := by
  induction events generalizing s with
  | nil => exact h
  | cons event rest ih =>
    have hevent := hspares event List.mem_cons_self
    exact ih (h.stir hevent.1 hevent.2)
      fun other hother => hspares other (List.mem_cons_of_mem event hother)

/-- When its time is over, the entry is gone. -/
theorem Resting.seen_eq_none (h : s.Resting host user p deadline)
    (hlate : deadline ≤ s.cluster.now) : s.cluster.seen (Key.registry user.text) = none := by
  cases hslot : s.cluster.seen (Key.registry user.text) with
  | none => rfl
  | some slot =>
    have hlive := ((Slots.visible_eq_some_iff _ _).1 hslot).2
    have hsoon := (h.entry slot hslot).lt hlive
    omega

/-- When everything has ended and no session is open, nothing is going to renew the entry. -/
theorem Tended.resting (h : s.Tended host user p) (hover : ∀ task ∈ s.tasks, isOver task = true)
    (hclosed : s.cluster.holdsOpen host user = false) :
    s.Resting host user p (s.written + p.entryTtl) where
  profile := h.profile
  healthy := h.healthy
  closed := hclosed
  entry slot hslot := (h.entry slot hslot).2
  tasks task htask := by
    refine ⟨{ found := none, renews := false }, ⟨rfl, fun session hfound => by cases hfound⟩, ?_⟩
    cases task with
    | done a => exact trivial
    | ask e next => exact absurd (hover _ htask) Bool.false_ne_true

/-- When a session is open, refreshing its user makes the instance the one that is found, for the
    full time to live. -/
theorem Tended.owner?_refresh (h : s.Tended host user p)
    (hopen : s.cluster.holdsOpen host user = true) (asker : Nat) {ms : Nat}
    (hms : ms < p.entryTtl) :
    let c := (s.cluster.runAlone host (p.registrar.refresh user)).2
    (({ c with now := c.now + ms } : Cluster).runAlone asker (Registrar.owner? user)).1 =
      .ok (some p.id) := by
  intro c
  rcases runAlone_refresh_of_holdsOpen p.registrar user host h.healthy hopen with
    ⟨slots, hrefresh, hafter⟩
  have hc : c = s.cluster.withSlots slots := congrArg Prod.snd hrefresh
  -- The entry is extended, and then it named the instance, or it is written.
  have hrenewed : ∃ slot : Slot, ownerIn (some slot) = .ok (some p.id) ∧
      c.seen (Key.registry user.text) = slot.renewed c.now p.entryTtl := by
    rw [hc]
    rcases hafter with ⟨slot, hslot, hseen⟩ | ⟨_, e, howner, hseen⟩
    · exact ⟨slot, (h.entry slot hslot).1, (congrFun hseen _).trans (Function.update_self _ _ _)⟩
    · have hnamed : ownerIn (some e.slot) = .ok (some p.id) := by
        rw [ownerIn_entry, howner]
        rfl
      exact ⟨e.slot, hnamed, (congrFun hseen _).trans (Function.update_self _ _ _)⟩
  rcases hrenewed with ⟨slot, hnamed, hseen⟩
  have hhealthy : c.store.fault = none := by
    rw [hc]
    exact h.healthy
  rw [runAlone_owner?_seen user asker (c := { c with now := c.now + ms }) hhealthy, seen_wait,
    hseen]
  cases hslot : slot.renewed c.now p.entryTtl with
  | none =>
    rw [Slot.renewed, if_pos (by omega)] at hslot
    cases hslot
  | some renewed =>
    have hlive : renewed.isLive (c.now + ms) = true :=
      (lastsUntil_of_renewed hslot (Nat.le_refl _)).isLive (by omega)
    rw [Option.filter_some, if_pos hlive, ownerIn_of_renewed hslot, hnamed]

end Bustle

open Cluster Bustle in
/-- An instance takes sessions of a user in, lets them go, refreshes the user and shows itself, all
    at the same time and in any order of steps, and nobody else writes the entry. Everything has
    ended, and the user is refreshed once more, with nothing in between. If there is an open session
    of the user then, the instance is found for as long as entries live. If there is none, whatever
    happens until the user attaches again does nothing to the entry but let it fade, and it is gone
    when the time to live is over that began with the last write. -/
theorem refresh_settles {s : Bustle} {host : Nat} {user : UserId} {self : Profile}
    (hself : s.cluster.profile? host = some self) (hhealthy : s.cluster.store.fault = none)
    (hbegun : s.tasks = [])
    (hentry : ∀ slot, s.cluster.seen (Key.registry user.text) = some slot →
      ownerIn (some slot) = .ok (some self.id) ∧ slot.GoneBy (s.written + self.entryTtl))
    (events : List Stir) (hspares : ∀ event ∈ events, event.Spares host user)
    (hover : ∀ task ∈ (s.run host user events).tasks, isOver task = true) :
    let ended := s.run host user events
    let c := (ended.cluster.runAlone host (self.registrar.refresh user)).2
    (c.holdsOpen host user = true → ∀ asker ms, ms < self.entryTtl →
      (({ c with now := c.now + ms } : Cluster).runAlone asker (Registrar.owner? user)).1 =
        .ok (some self.id)) ∧
    (c.holdsOpen host user = false → ∀ rest : List Stir,
      (∀ event ∈ rest, event.Spares host user ∧ event.attaches = false) →
      let t := Bustle.run host user { ended with cluster := c } rest
      (∀ event, event.Spares host user →
        Fades (t.cluster.seen (Key.registry user.text))
          ((t.stir host user event).cluster.seen (Key.registry user.text))) ∧
      (ended.written + self.entryTtl ≤ t.cluster.now →
        t.cluster.seen (Key.registry user.text) = none)) := by
  intro ended c
  have hstart : s.Tended host user self :=
    { profile := hself
      healthy := hhealthy
      entry := hentry
      tasks := fun task htask => by
        rw [hbegun] at htask
        cases htask }
  have hended : ended.Tended host user self := tended_run hstart hspares
  cases hopen : ended.cluster.holdsOpen host user with
  | true =>
    have hc : c.holdsOpen host user = true := by
      rcases runAlone_refresh_of_holdsOpen self.registrar user host hended.healthy hopen with
        ⟨slots, hrefresh, _⟩
      rw [show c = ended.cluster.withSlots slots from congrArg Prod.snd hrefresh]
      exact hopen
    refine ⟨fun _ asker ms hms => hended.owner?_refresh hopen asker hms, fun hclosed => ?_⟩
    rw [hc] at hclosed
    cases hclosed
  | false =>
    -- A refresh that finds no open session does nothing at all.
    have hc : c = ended.cluster :=
      congrArg Prod.snd (runAlone_refresh_of_closed self.registrar user host hopen)
    rw [hc]
    refine ⟨fun hopened => ?_, fun _ rest hrest => ?_⟩
    · rw [hopen] at hopened
      cases hopened
    · have hresting := resting_run (hended.resting hover hopen) hrest
      exact ⟨fun event => hresting.fades, hresting.seen_eq_none⟩

/-- A close has read the entry of the session that it lets go, and deletes that of the next one. -/
def entryLost : List Stir :=
  .start (.attach 0 ⟨1⟩) :: List.replicate 5 (.proceed 0) ++
    .start (.close ⟨1⟩) :: List.replicate 4 (.proceed 1) ++
    .start (.attach 1 ⟨2⟩) :: List.replicate 5 (.proceed 2) ++ [.proceed 1]

/-- A refresh has found the session open, and writes the entry anew when a close is over. -/
def entryRevived : List Stir :=
  .start (.attach 0 ⟨1⟩) :: List.replicate 5 (.proceed 0) ++
    .start .refresh :: List.replicate 2 (.proceed 1) ++
    .start (.close ⟨1⟩) :: List.replicate 5 (.proceed 2) ++ List.replicate 3 (.proceed 1)

/-- A heartbeat, and then a while. -/
def beatAndWait : List Stir :=
  .start .heartbeat :: List.replicate 6 (.proceed 3) ++ [.outside (.wait 90000)]

/-- Two instances of which the first has begun nothing yet. -/
def nothingBegun : Bustle :=
  { cluster := twoClients, tasks := [], written := 0 }

open Cluster in
/-- The user who was attached without an entry is found again, and the entry of the one who was not
    attached goes. -/
theorem refresh_settles_races :
    let self : Profile := .standard ⟨"a"⟩
    let lost := nothingBegun.run 0 ⟨"u"⟩ entryLost
    let revived := nothingBegun.run 0 ⟨"u"⟩ entryRevived
    let refreshed (s : Bustle) : Cluster :=
      (s.cluster.runAlone 0 (self.registrar.refresh ⟨"u"⟩)).2
    (lost.cluster.runAlone 1 (Registrar.owner? ⟨"u"⟩)).1 = .ok none ∧
    (({ refreshed lost with now := (refreshed lost).now + 1 } : Cluster).runAlone 1
      (Registrar.owner? ⟨"u"⟩)).1 = .ok (some ⟨"a"⟩) ∧
    (revived.cluster.runAlone 1 (Registrar.owner? ⟨"u"⟩)).1 = .ok (some ⟨"a"⟩) ∧
    (Bustle.run 0 ⟨"u"⟩ { revived with cluster := refreshed revived }
      beatAndWait).cluster.seen (Key.registry "u") = none := by
  intro self lost revived refreshed
  have hself : nothingBegun.cluster.profile? 0 = some self := rfl
  have hentry : ∀ slot,
      nothingBegun.cluster.seen (Key.registry (⟨"u"⟩ : UserId).text) = some slot →
        ownerIn (some slot) = .ok (some self.id) ∧
          slot.GoneBy (nothingBegun.written + self.entryTtl) := by
    intro slot hslot
    cases hslot
  have hlost := refresh_settles hself rfl rfl hentry entryLost
    (by simp [entryLost, Stir.Spares, or_imp, forall_and])
    (List.all_eq_true.1 (by decide +kernel))
  have hrevived := refresh_settles hself rfl rfl hentry entryRevived
    (by simp [entryRevived, Stir.Spares, or_imp, forall_and])
    (List.all_eq_true.1 (by decide +kernel))
  have hquiet : ∀ event ∈ beatAndWait, event.Spares 0 ⟨"u"⟩ ∧ event.attaches = false := by
    simp [beatAndWait, Stir.Spares, Outside.Spares, Stir.attaches, Job.attaches, or_imp, forall_and]
  have hmissing : (lost.cluster.runAlone 1 (Registrar.owner? ⟨"u"⟩)).1 = .ok none := by
    decide +kernel
  have hattached : (refreshed lost).holdsOpen 0 ⟨"u"⟩ = true := by
    decide +kernel
  have hleft : (revived.cluster.runAlone 1 (Registrar.owner? ⟨"u"⟩)).1 = .ok (some ⟨"a"⟩) := by
    decide +kernel
  have hgone : (refreshed revived).holdsOpen 0 ⟨"u"⟩ = false := by
    decide +kernel
  have hlate : (nothingBegun.run 0 ⟨"u"⟩ entryRevived).written + self.entryTtl ≤
      (Bustle.run 0 ⟨"u"⟩ { revived with cluster := refreshed revived }
        beatAndWait).cluster.now := by
    decide +kernel
  exact ⟨hmissing, hlost.1 hattached 1 1 (by decide), hleft,
    (hrevived.2 hgone beatAndWait hquiet).2 hlate⟩

end ChatCluster
