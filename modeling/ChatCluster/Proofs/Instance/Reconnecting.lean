import ChatCluster.Proofs.Cluster.Interleaving
import ChatCluster.Proofs.Instance.Serving
import ChatCluster.Simulation.State

/-!
# Reconnecting

Clients attach to one instance and close their sessions again, one call after another. A user may
hold any number of sessions at once and close them in any order. Between the calls the instance goes
on with its own work, and others with theirs.

The directory keeps step with the handles that were given out: it has the newest session of a user
if that one is not closed, and otherwise none. Everybody is told of each session that comes, and of
one that goes if it was the one in the directory. A session that has been superseded is handed no
more messages, and closing it changes nothing that others could see.

A session is taken out of the directory by its number, so all of this needs the numbers to be
different. They are, as long as there are fewer than 2⁶⁴ of them.

## Main definitions

* `Handle`, `Reception`: What was given out, and the instance with everything around it.
* `Reception.newest?`, `Reception.current?`: The session of a user that was attached last.
* `Visit`, `Reception.afterVisit`, `Reception.afterVisits`: What can happen, and what comes of it.
* `Reception.Orderly`: The invariant.

## Theorems

* `Reception.Orderly.afterVisit`, `Reception.Orderly.afterVisits`: The invariant holds in every run.
* `Reception.Orderly.inStep`: What one call does.
* `Reception.reconnects`: Directory, notices and queues keep step with the handles.
-/

namespace ChatCluster

/-! ## The instance and its clients -/

/-- What a client holds of a session. -/
structure Handle where
  /-- The session. -/
  session : SessionHandle
  /-- The session has been closed. -/
  closed : Bool
  deriving DecidableEq

/-- The handle when the session with the given queue has been closed. -/
def Handle.afterClose (queue : Nat) (h : Handle) : Handle :=
  if h.session.queue = queue then { h with closed := true } else h

theorem Handle.session_afterClose (queue : Nat) (h : Handle) :
    (h.afterClose queue).session = h.session := by
  rw [afterClose]
  split <;> rfl

/-- An instance that takes clients in, with everything around it. -/
structure Reception where
  /-- What the steps of instances see and change. -/
  cluster : Cluster
  /-- What the node keeps. -/
  node : NodeState
  /-- The handles that were given out, newest first. -/
  handles : List Handle

/-- What an instance does of its own accord, or because of what has reached it. -/
inductive Pursuit where
  | heartbeat
  | reap
  /-- A frame is taken in. -/
  | receive (frame : Bytes)
  /-- An item of a client is handled. -/
  | handle (session : SessionHandle) (item : Inbound)

/-- What doing it is. -/
def Pursuit.operation (self : Profile) : Pursuit → Operation Unit
  | heartbeat => self.timedHeartbeat
  | reap => self.timedReap
  | receive frame => Router.receive frame >>= fun _ => pure ()
  | handle session item => self.pipeline.handle session item

/-- What can happen. -/
inductive Visit where
  /-- A client attaches. -/
  | attach (user : UserId)
  /-- A client closes the session with the given queue. -/
  | close (queue : Nat)
  /-- A client takes the first thing out of its queue. -/
  | read (queue : Nat)
  /-- The instance does something else. -/
  | pursue (p : Pursuit)
  /-- Something happens around it. -/
  | outside (o : Outside)

/-- Other instances take steps of their own, and offer nothing to the sessions of this one. -/
def Visit.Possible (host first : Nat) : Visit → Prop
  | .outside (.step other e) =>
    other ≠ host ∧ ∀ session item, e = .offer session item → session.queue < first
  | _ => True

/-- A client attaches. -/
def Visit.isAttach : Visit → Bool
  | .attach _ => true
  | _ => false

namespace Reception

/-- Nobody has attached yet. -/
def opened (c : Cluster) (queueCapacity : Nat) : Reception :=
  { cluster := c
    node := { queueCapacity := max 1 queueCapacity, nextSession := 1, stopping := false }
    handles := [] }

/-- The handle that was given out last for a user. -/
def newest? (r : Reception) (user : UserId) : Option Handle :=
  r.handles.find? fun h => h.session.user = user

/-- The session of a user that was attached last, unless it has been closed. -/
def current? (r : Reception) (user : UserId) : Option SessionHandle :=
  ((r.newest? user).filter fun h => !h.closed).map Handle.session

section Calls

variable (self : Profile) (host first : Nat) (r : Reception)

/-- A client attaches. Queues are numbered from the first one on. -/
def attach (user : UserId) : Reception :=
  let session : SessionHandle :=
    { queue := first + r.handles.length, id := ⟨r.node.nextSession⟩, user }
  let opened : Cluster :=
    { r.cluster with
      queues := r.cluster.queues.insert session.queue (.new r.node.queueCapacity) }
  { cluster := (opened.runAlone host (self.greet session)).2
    node := { r.node with nextSession := r.node.nextSession + 1 }
    handles := { session, closed := false } :: r.handles }

/-- A client closes its session. The session is let go, and then the queue is gone as well. -/
def close (queue : Nat) : Reception :=
  match r.handles.find? fun h => h.session.queue = queue && !h.closed with
  | none => r
  | some h =>
    { r with
      cluster :=
        (r.cluster.runAlone host (self.part h.session)).2.updateQueue queue Mailbox.closeReceiver
      handles := r.handles.map (Handle.afterClose queue) }

/-- What comes of a visit. -/
def afterVisit : Visit → Reception
  | .attach user => r.attach self host first user
  | .close queue => r.close self host queue
  | .read queue =>
    { r with
      cluster := r.cluster.updateQueue queue fun box => { box with items := box.items.tail } }
  | .pursue p => { r with cluster := (r.cluster.runAlone host (p.operation self)).2 }
  | .outside o => { r with cluster := r.cluster.befall o }

/-- What comes of some visits, one after another. -/
def afterVisits (visits : List Visit) : Reception :=
  visits.foldl (fun r visit => r.afterVisit self host first visit) r

end Calls

/-- Queues are numbered in the order in which the handles were given out, and so are sessions as far
    as their numbers go. -/
def Numbered (first : Nat) : List Handle → Prop
  | [] => True
  | h :: rest =>
    h.session.queue = first + rest.length ∧ h.session.id = ⟨.ofNat (rest.length + 1)⟩ ∧
      Numbered first rest

/-- The instance answers, and the directory keeps step with the handles. -/
structure Orderly (server : Profile) (host first : Nat) (r : Reception) : Prop where
  profile : r.cluster.profile? host = some server
  healthy : r.cluster.store.fault = none
  available : r.cluster.bus.unavailable = false
  numbered : Numbered first r.handles
  next : r.node.nextSession = .ofNat (r.handles.length + 1)
  directory : ∀ user, (r.cluster.directory host).find? user = r.current? user

/-! ## Numbers -/

section Numbers

variable {first : Nat} {handles : List Handle}

theorem Numbered.exists_of_mem (h : Numbered first handles) {x : Handle} (hx : x ∈ handles) :
    ∃ place < handles.length, x.session.queue = first + place ∧
      x.session.id = ⟨.ofNat (place + 1)⟩ := by
  induction handles with
  | nil => exact absurd hx List.not_mem_nil
  | cons y rest ih =>
    rcases List.mem_cons.1 hx with rfl | hx
    · exact ⟨rest.length, Nat.lt_succ_self _, h.1, h.2.1⟩
    · rcases ih h.2.2 hx with ⟨place, hlt, hnumbers⟩
      exact ⟨place, Nat.lt_succ_of_lt hlt, hnumbers⟩

theorem Numbered.queue_lt (h : Numbered first handles) {x : Handle} (hx : x ∈ handles) :
    first ≤ x.session.queue ∧ x.session.queue < first + handles.length := by
  rcases h.exists_of_mem hx with ⟨place, hlt, hqueue, -⟩
  omega

/-- Fewer than 2⁶⁴ sessions have different numbers. -/
theorem Numbered.queue_eq_of_id_eq (h : Numbered first handles)
    (hcount : handles.length < UInt64.size) {x y : Handle} (hx : x ∈ handles) (hy : y ∈ handles)
    (hid : x.session.id = y.session.id) : x.session.queue = y.session.queue := by
  rcases h.exists_of_mem hx with ⟨place, hlt, hqueue, hnumber⟩
  rcases h.exists_of_mem hy with ⟨place', hlt', hqueue', hnumber'⟩
  rw [hnumber, hnumber', SessionId.mk.injEq] at hid
  have hmod := congrArg UInt64.toNat hid
  rw [UInt64.toNat_ofNat', UInt64.toNat_ofNat'] at hmod
  have hsize : UInt64.size = 18446744073709551616 := rfl
  rw [Nat.mod_eq_of_lt (by omega), Nat.mod_eq_of_lt (by omega)] at hmod
  omega

/-- No two handles are for the same queue. -/
theorem Numbered.nodup_queues (h : Numbered first handles) :
    (handles.map fun x => x.session.queue).Nodup := by
  induction handles with
  | nil => exact List.nodup_nil
  | cons y rest ih =>
    refine List.nodup_cons.2 ⟨fun hmem => ?_, ih h.2.2⟩
    rcases List.mem_map.1 hmem with ⟨x, hx, hqueue⟩
    have hlt := (h.2.2.queue_lt hx).2
    have hfirst := h.1
    simp only at hqueue
    omega

theorem Numbered.eq_of_queue_eq (h : Numbered first handles) {x y : Handle} (hx : x ∈ handles)
    (hy : y ∈ handles) (hqueue : x.session.queue = y.session.queue) : x = y :=
  List.inj_on_of_nodup_map h.nodup_queues hx hy hqueue

theorem Numbered.nodup_ids (h : Numbered first handles) (hcount : handles.length < UInt64.size) :
    (handles.map fun x => x.session.id).Nodup := by
  have hhandles : handles.Nodup := h.nodup_queues.of_map _
  exact hhandles.map_on fun x hx y hy hid =>
    h.eq_of_queue_eq hx hy (h.queue_eq_of_id_eq hcount hx hy hid)

theorem Numbered.afterClose (h : Numbered first handles) (queue : Nat) :
    Numbered first (handles.map (Handle.afterClose queue)) := by
  induction handles with
  | nil => trivial
  | cons y rest ih =>
    refine ⟨?_, ?_, ih h.2.2⟩
    · rw [y.session_afterClose, List.length_map, h.1]
    · rw [y.session_afterClose, List.length_map, h.2.1]

end Numbers

/-! ## The newest handle -/

section Newest

variable {r : Reception} {user : UserId} {session : SessionHandle}

theorem mem_of_newest? {h : Handle} (hnewest : r.newest? user = some h) :
    h ∈ r.handles ∧ h.session.user = user := by
  have huser := List.find?_some hnewest
  exact ⟨List.mem_of_find?_eq_some hnewest, of_decide_eq_true huser⟩

theorem current?_eq_some_iff :
    r.current? user = some session ↔
      ∃ h, r.newest? user = some h ∧ h.closed = false ∧ h.session = session := by
  rw [current?, Option.map_eq_some_iff]
  simp only [Option.filter_eq_some_iff, Bool.not_eq_true', and_assoc]

theorem user_of_current? (hcurrent : r.current? user = some session) : session.user = user := by
  rcases current?_eq_some_iff.1 hcurrent with ⟨h, hnewest, -, rfl⟩
  exact (mem_of_newest? hnewest).2

/-- A new handle is the newest for its user and makes no difference to others. -/
theorem current?_cons {h : Handle} (cluster : Cluster) (node : NodeState)
    (hopen : h.closed = false) :
    current? { cluster, node, handles := h :: r.handles } user =
      if user = h.session.user then some h.session else r.current? user := by
  rw [current?, newest?, List.find?_cons]
  by_cases huser : user = h.session.user
  · simp only [huser, decide_true, if_true, Option.filter_some, hopen, Bool.not_false,
      Option.map_some]
  · have hne : h.session.user ≠ user := fun heq => huser heq.symm
    simp only [decide_eq_false hne, if_neg huser]
    rfl

/-- Closing a session makes a difference to its user only if it was the current one. -/
theorem current?_afterClose {first : Nat} (hnumbered : Numbered first r.handles) {h : Handle}
    (hmem : h ∈ r.handles) (hopen : h.closed = false) (cluster : Cluster) :
    current?
        { r with cluster, handles := r.handles.map (Handle.afterClose h.session.queue) } user =
      if r.current? user = some h.session then none else r.current? user := by
  have huser : (fun x : Handle => decide (x.session.user = user)) ∘
      Handle.afterClose h.session.queue = fun x => decide (x.session.user = user) := by
    funext x
    rw [Function.comp_apply, x.session_afterClose]
  rw [current?, current?, newest?, newest?, List.find?_map, huser]
  cases hnewest : r.handles.find? fun x => x.session.user = user with
  | none => rfl
  | some x =>
    by_cases hqueue : x.session.queue = h.session.queue
    · obtain rfl := hnumbered.eq_of_queue_eq (List.mem_of_find?_eq_some hnewest) hmem hqueue
      simp only [Handle.afterClose, Option.map_some, if_true, Option.filter_some, hopen,
        Bool.not_true, Bool.not_false, Bool.false_eq_true, if_false, Option.map_none]
    · have hkept : x.afterClose h.session.queue = x := if_neg hqueue
      have hne : x.session ≠ h.session := fun heq => hqueue (by rw [heq])
      rw [Option.map_some, hkept]
      cases hclosed : x.closed <;>
        simp only [Option.filter_some, hclosed, Bool.not_true, Bool.not_false, Bool.false_eq_true,
          if_true, if_false, Option.map_none, Option.map_some, Option.some.injEq, hne, ite_self]

end Newest

variable {self : Profile} {host first : Nat} {r : Reception}

/-! ## Attaching -/

/-- What attaching changes. Neither of the store nor of the reports is anything said. -/
theorem exists_attach_eq (h : r.Orderly self host first) (user : UserId) :
    ∃ slots reports,
      (r.attach self host first user).cluster =
        Cluster.changed
          { r.cluster with
            queues := r.cluster.queues.insert (first + r.handles.length)
              (.new r.node.queueCapacity) }
          host
          (fun d => d.insert user
            { queue := first + r.handles.length, id := ⟨r.node.nextSession⟩, user })
          slots (self.router.announce r.cluster.bus (.join r.cluster.nextMark user))
          (r.cluster.serial + 1) reports :=
  Cluster.runAlone_greet host self
    { r.cluster with
      queues := r.cluster.queues.insert (first + r.handles.length) (.new r.node.queueCapacity) }
    { queue := first + r.handles.length, id := ⟨r.node.nextSession⟩, user } h.healthy

theorem Orderly.attach (h : r.Orderly self host first) (user : UserId) :
    (r.attach self host first user).Orderly self host first where
  profile := (Cluster.profile?_runAlone host _ _ host).trans h.profile
  healthy := (Cluster.fault_runAlone host _ _).trans h.healthy
  available := (Cluster.unavailable_runAlone _ _).trans h.available
  numbered := ⟨rfl, congrArg SessionId.mk h.next, h.numbered⟩
  next := by
    have hnext : r.node.nextSession + 1 = .ofNat (r.handles.length + 1 + 1) := by
      rw [h.next, UInt64.ofNat_add (r.handles.length + 1) 1]
      rfl
    exact hnext
  directory other := by
    rcases exists_attach_eq h user with ⟨slots, reports, hattach⟩
    have hprofile : (Cluster.profile? { r.cluster with
        queues := r.cluster.queues.insert (first + r.handles.length)
          (.new r.node.queueCapacity) } host).isSome := Option.isSome_of_eq_some h.profile
    rw [hattach, Cluster.directory_changed hprofile, Table.find?_insert]
    refine Eq.trans ?_ (current?_cons _ _ rfl).symm
    split
    · rfl
    · exact h.directory other

/-! ## Closing -/

section Closing

variable {h : Handle}

theorem close_eq (hr : r.Orderly self host first) (hmem : h ∈ r.handles)
    (hopen : h.closed = false) :
    r.close self host h.session.queue =
      { r with
        cluster :=
          (r.cluster.runAlone host (self.part h.session)).2.updateQueue h.session.queue
            Mailbox.closeReceiver
        handles := r.handles.map (Handle.afterClose h.session.queue) } := by
  cases hfound : r.handles.find? fun x => x.session.queue = h.session.queue && !x.closed with
  | none =>
    have hnot := List.find?_eq_none.1 hfound h hmem
    simp only [decide_true, hopen, Bool.not_false, Bool.and_self, not_true_eq_false] at hnot
  | some x =>
    have hqueue := List.find?_some hfound
    rw [Bool.and_eq_true, decide_eq_true_eq] at hqueue
    obtain rfl :=
      hr.numbered.eq_of_queue_eq (List.mem_of_find?_eq_some hfound) hmem hqueue.1
    rw [close, hfound]

/-- Who is current has the number that the directory goes by, and nobody else has it. -/
theorem Orderly.id_ne (hr : r.Orderly self host first) (hcount : r.handles.length < UInt64.size)
    (hmem : h ∈ r.handles)
    (hnot : (r.cluster.directory host).find? h.session.user ≠ some h.session) :
    ((r.cluster.directory host).find? h.session.user).map SessionHandle.id ≠
      some h.session.id := by
  rw [hr.directory] at hnot ⊢
  intro hid
  rcases Option.map_eq_some_iff.1 hid with ⟨session, hcurrent, hsame⟩
  rcases current?_eq_some_iff.1 hcurrent with ⟨x, hnewest, hopen, rfl⟩
  have hx := (mem_of_newest? hnewest).1
  obtain rfl := hr.numbered.eq_of_queue_eq hx hmem
    (hr.numbered.queue_eq_of_id_eq hcount hx hmem hsame)
  exact hnot hcurrent

/-- What closing a session changes: nothing, if it was not the current one. -/
theorem part_cases (hr : r.Orderly self host first) (hcount : r.handles.length < UInt64.size)
    (hmem : h ∈ r.handles) :
    ((r.cluster.directory host).find? h.session.user = some h.session ∧
      ∃ slots reports,
        (r.cluster.runAlone host (self.part h.session)).2 =
          r.cluster.changed host (fun d => d.erase h.session.user) slots
            (self.router.announce r.cluster.bus (.leave r.cluster.nextMark h.session.user))
            (r.cluster.serial + 1) reports) ∨
      (r.cluster.directory host).find? h.session.user ≠ some h.session ∧
        (r.cluster.runAlone host (self.part h.session)).2 = r.cluster := by
  by_cases hcurrent : (r.cluster.directory host).find? h.session.user = some h.session
  · exact Or.inl ⟨hcurrent, r.cluster.runAlone_part host self h.session hr.healthy hcurrent⟩
  · have hid := hr.id_ne hcount hmem hcurrent
    exact Or.inr ⟨hcurrent, r.cluster.runAlone_part_of_superseded host self hid⟩

/-- The directory loses the session that was closed, and nobody else's. -/
theorem Orderly.find?_part (hr : r.Orderly self host first)
    (hcount : r.handles.length < UInt64.size)
    (hmem : h ∈ r.handles) (user : UserId) :
    ((r.cluster.runAlone host (self.part h.session)).2.directory host).find? user =
      if r.current? user = some h.session then none else r.current? user := by
  rcases part_cases hr hcount hmem with ⟨hcurrent, slots, reports, hpart⟩ | ⟨hnot, hpart⟩
  · have hprofile := Option.isSome_of_eq_some hr.profile
    rw [hpart, Cluster.directory_changed hprofile, Table.find?_erase, ← hr.directory]
    by_cases huser : user = h.session.user
    · rw [if_pos huser, if_pos (huser ▸ hcurrent)]
    · have hother : (r.cluster.directory host).find? user ≠ some h.session := by
        rw [hr.directory]
        exact fun heq => huser (user_of_current? heq).symm
      rw [if_neg huser, if_neg hother]
  · have hother : r.current? user ≠ some h.session := by
      intro heq
      rw [← user_of_current? heq, ← hr.directory] at heq
      exact hnot heq
    rw [hpart, if_neg hother, hr.directory]

theorem Orderly.close (hr : r.Orderly self host first) (hcount : r.handles.length < UInt64.size)
    (queue : Nat) : (r.close self host queue).Orderly self host first := by
  cases hfound : r.handles.find? fun x => x.session.queue = queue && !x.closed with
  | none =>
    rw [Reception.close, hfound]
    exact hr
  | some h =>
    have hmem := List.mem_of_find?_eq_some hfound
    have hclosing := List.find?_some hfound
    rw [Bool.and_eq_true, decide_eq_true_eq, Bool.not_eq_true'] at hclosing
    obtain ⟨rfl, hopen⟩ := hclosing
    rw [close_eq hr hmem hopen]
    refine ⟨?_, ?_, ?_, hr.numbered.afterClose _, ?_, fun user => ?_⟩
    · exact (Cluster.profile?_runAlone host _ _ host).trans hr.profile
    · exact (Cluster.fault_runAlone host _ _).trans hr.healthy
    · exact (Cluster.unavailable_runAlone _ _).trans hr.available
    · rw [List.length_map]
      exact hr.next
    · rw [current?_afterClose hr.numbered hmem hopen]
      exact hr.find?_part hcount hmem user

end Closing

/-! ## Everything else -/

theorem servesPresent_pursuit (self : Profile) (host : Nat) (p : Pursuit) :
    ServesPresent host (p.operation self) := by
  cases p with
  | heartbeat => exact servesPresent_timedHeartbeat self
  | reap => exact servesPresent_timedReap self
  | receive frame =>
    exact servesPresent_bind (servesPresent_receive frame) fun _ => servesPresent_pure ()
  | handle session item => exact servesPresent_handle self.pipeline session item

theorem unavailable_befall (c : Cluster) (o : Outside) :
    (c.befall o).bus.unavailable = c.bus.unavailable := by
  cases o with
  | step other e => exact Cluster.unavailable_perform c other e
  | hangUp | wait | setClock => rfl

theorem directory_befall {o : Outside} (hpossible : (Visit.outside o).Possible host first)
    (c : Cluster) : (c.befall o).directory host = c.directory host := by
  cases o with
  | step other e => exact Cluster.directory_perform_of_ne hpossible.1 c e
  | setClock other time => exact Cluster.directory_updateHost c other host fun _ => rfl
  | hangUp | wait => rfl

/-- Whatever happens, the invariant holds afterwards. -/
theorem Orderly.afterVisit (h : r.Orderly self host first) (hcount : r.handles.length < UInt64.size)
    {visit : Visit} (hpossible : visit.Possible host first) :
    (r.afterVisit self host first visit).Orderly self host first := by
  cases visit with
  | attach user => exact h.attach user
  | close queue => exact h.close hcount queue
  | read queue => exact ⟨h.profile, h.healthy, h.available, h.numbered, h.next, h.directory⟩
  | pursue p =>
    have hserved := servesPresent_pursuit self host p r.cluster
    refine ⟨?_, ?_, ?_, h.numbered, h.next, fun user => ?_⟩
    · exact (Cluster.profile?_runAlone host _ _ host).trans h.profile
    · exact (Cluster.fault_runAlone host _ _).trans h.healthy
    · exact (Cluster.unavailable_runAlone _ _).trans h.available
    · exact (congrArg (Table.find? · user) hserved.directory).trans (h.directory user)
  | outside o =>
    refine ⟨?_, ?_, ?_, h.numbered, h.next, fun user => ?_⟩
    · exact (Cluster.profile?_befall o).trans h.profile
    · exact (Cluster.fault_befall o).trans h.healthy
    · exact (unavailable_befall r.cluster o).trans h.available
    · exact (congrArg (Table.find? · user) (directory_befall hpossible r.cluster)).trans
        (h.directory user)

theorem length_handles_afterVisit (self : Profile) (host first : Nat) (r : Reception)
    (visit : Visit) :
    (r.afterVisit self host first visit).handles.length =
      r.handles.length + if visit.isAttach then 1 else 0 := by
  cases visit with
  | attach user => rfl
  | close queue =>
    rw [afterVisit, close]
    split
    · rfl
    · exact List.length_map _
  | read | pursue | outside => rfl

/-- The invariant holds in every run, and every handle was given out in it. -/
theorem Orderly.afterVisits {visits : List Visit} (h : r.Orderly self host first)
    (hpossible : ∀ visit ∈ visits, visit.Possible host first)
    (hcount : r.handles.length + visits.countP Visit.isAttach < UInt64.size) :
    (r.afterVisits self host first visits).Orderly self host first ∧
      (r.afterVisits self host first visits).handles.length =
        r.handles.length + visits.countP Visit.isAttach := by
  induction visits generalizing r with
  | nil => exact ⟨h, rfl⟩
  | cons visit rest ih =>
    have hlength := length_handles_afterVisit self host first r visit
    rw [List.countP_cons] at hcount ⊢
    have hnext := h.afterVisit (by omega) (hpossible visit List.mem_cons_self)
    rcases ih hnext (fun other hother => hpossible other (List.mem_cons_of_mem visit hother))
      (by omega) with ⟨horderly, hall⟩
    refine ⟨horderly, ?_⟩
    rw [Reception.afterVisits, List.foldl_cons] at *
    omega

/-! ## Keeping step -/

/-- Directory, notices and queues keep step with the handles that were given out. -/
structure InStep (server : Profile) (host : Nat) (r : Reception) (visit : Visit)
    (r' : Reception) : Prop where
  /-- Sessions have different numbers. -/
  ids : (r.handles.map fun h => h.session.id).Nodup
  directory : ∀ user, (r.cluster.directory host).find? user = r.current? user
  /-- Everybody is told once of a session that comes. -/
  joins : ∀ user, visit = .attach user →
    (Wire.Envelope.ofMessage server.id (.join r.cluster.nextMark user)).encode.length ≤
      Wire.maxFrameSize →
    server.router.Announced r.cluster.bus [.join r.cluster.nextMark user] r'.cluster.bus
  /-- Everybody is told once of a session that is closed, if it was the one in the directory. -/
  leaves : ∀ h ∈ r.handles, h.closed = false → visit = .close h.session.queue →
    (r.cluster.directory host).find? h.session.user = some h.session →
    (Wire.Envelope.ofMessage server.id
      (.leave r.cluster.nextMark h.session.user)).encode.length ≤ Wire.maxFrameSize →
    server.router.Announced r.cluster.bus [.leave r.cluster.nextMark h.session.user]
      r'.cluster.bus
  /-- Otherwise nobody is told anything, and neither directory nor store changes. -/
  unnoticed : ∀ h ∈ r.handles, h.closed = false → visit = .close h.session.queue →
    (r.cluster.directory host).find? h.session.user ≠ some h.session →
    r'.cluster.bus = r.cluster.bus ∧ r'.cluster.directory host = r.cluster.directory host ∧
      r'.cluster.store = r.cluster.store
  /-- A session that has been superseded is handed no more messages. -/
  silence : ∀ h ∈ r.handles, r.newest? h.session.user ≠ some h →
    r'.cluster.messages h.session.queue <:+ r.cluster.messages h.session.queue

theorem Orderly.unfed (hr : r.Orderly self host first) {h : Handle} (hmem : h ∈ r.handles)
    (hnewest : r.newest? h.session.user ≠ some h) : r.cluster.Unfed host h.session.queue := by
  intro user session hfound hqueue
  rw [hr.directory, current?_eq_some_iff] at hfound
  rcases hfound with ⟨x, hx, -, rfl⟩
  obtain rfl := hr.numbered.eq_of_queue_eq (mem_of_newest? hx).1 hmem hqueue
  rw [(mem_of_newest? hx).2] at hnewest
  exact hnewest hx

/-- Whatever happens, nothing is put into the queue of a session that has been superseded. -/
theorem Orderly.messages_suffix (hr : r.Orderly self host first)
    (hcount : r.handles.length < UInt64.size) {visit : Visit}
    (hpossible : visit.Possible host first) {h : Handle} (hmem : h ∈ r.handles)
    (hnewest : r.newest? h.session.user ≠ some h) :
    (r.afterVisit self host first visit).cluster.messages h.session.queue <:+
      r.cluster.messages h.session.queue := by
  have hnumber := hr.numbered.queue_lt hmem
  have hsame : (r.afterVisit self host first visit).cluster.messages h.session.queue =
      r.cluster.messages h.session.queue →
      (r.afterVisit self host first visit).cluster.messages h.session.queue <:+
        r.cluster.messages h.session.queue := fun heq => heq ▸ List.suffix_refl _
  cases visit with
  | read queue => exact r.cluster.messages_read_suffix queue h.session.queue
  | attach user =>
    -- The new session has a queue of its own.
    rcases exists_attach_eq hr user with ⟨slots, reports, hattach⟩
    refine hsame ?_
    rw [Reception.afterVisit, hattach, Cluster.messages, Cluster.messages]
    change ((Table.find? (r.cluster.queues.insert _ _) _).map _).getD [] = _
    rw [Table.find?_insert_of_ne _ _ (Nat.ne_of_lt hnumber.2)]
  | close queue =>
    refine hsame ?_
    rw [Reception.afterVisit, Reception.close]
    split
    · rfl
    · next x hfound =>
      refine (Cluster.messages_updateQueue _ queue h.session.queue (f := Mailbox.closeReceiver)
        fun _ => rfl).trans ?_
      rcases part_cases hr hcount (List.mem_of_find?_eq_some hfound) with
        ⟨-, slots, reports, hpart⟩ | ⟨-, hpart⟩
      · rw [hpart]
        rfl
      · rw [hpart]
  | pursue p =>
    have hserved := servesPresent_pursuit self host p r.cluster
    exact hsame (hserved.messages _ (hr.unfed hmem hnewest))
  | outside o =>
    refine hsame ?_
    cases o with
    | step other e =>
      refine r.cluster.messages_perform fun session item he => ?_
      have hlt := hpossible.2 session item he
      omega
    | hangUp queue => exact r.cluster.messages_updateQueue queue _ fun _ => rfl
    | wait | setClock => rfl

/-- One more visit to an instance whose directory keeps step with the handles. -/
theorem Orderly.inStep (hr : r.Orderly self host first) (hcount : r.handles.length < UInt64.size)
    {visit : Visit} (hpossible : visit.Possible host first) :
    r.InStep self host visit (r.afterVisit self host first visit) where
  ids := hr.numbered.nodup_ids hcount
  directory := hr.directory
  joins user hvisit hfits := by
    subst hvisit
    rcases exists_attach_eq hr user with ⟨slots, reports, hattach⟩
    have htold := self.router.announced_foldl r.cluster.bus [.join r.cluster.nextMark user]
      fun m hm => List.mem_singleton.1 hm ▸ hfits
    rw [Reception.afterVisit, hattach]
    exact htold
  leaves h hmem hopen hvisit hcurrent hfits := by
    subst hvisit
    have htold := self.router.announced_foldl r.cluster.bus
      [.leave r.cluster.nextMark h.session.user] fun m hm => List.mem_singleton.1 hm ▸ hfits
    rcases part_cases hr hcount hmem with ⟨-, slots, reports, hpart⟩ | ⟨hnot, -⟩
    · rw [Reception.afterVisit, close_eq hr hmem hopen, hpart]
      exact htold
    · exact absurd hcurrent hnot
  unnoticed h hmem hopen hvisit hnot := by
    subst hvisit
    rcases part_cases hr hcount hmem with ⟨hcurrent, -⟩ | ⟨-, hpart⟩
    · exact absurd hcurrent hnot
    · rw [Reception.afterVisit, close_eq hr hmem hopen, hpart]
      exact ⟨rfl, rfl, rfl⟩
  silence _ hmem hnewest := hr.messages_suffix hcount hpossible hmem hnewest

/-- In whatever order clients attach to an instance and close their sessions, and whatever it does
    in between, directory, notices and queues keep step with the handles that were given out. -/
theorem reconnects (self : Profile) (host first queueCapacity : Nat) (c : Cluster)
    (hself : c.profile? host = some self) (hempty : c.directory host = .empty)
    (hhealthy : c.store.fault = none) (havailable : c.bus.unavailable = false)
    (visits : List Visit) (visit : Visit)
    (hpossible : ∀ v ∈ visits ++ [visit], v.Possible host first)
    (hcount : visits.countP Visit.isAttach < UInt64.size) :
    let r := (opened c queueCapacity).afterVisits self host first visits
    r.InStep self host visit (r.afterVisit self host first visit) := by
  intro r
  have hopened : (opened c queueCapacity).Orderly self host first :=
    { profile := hself, healthy := hhealthy, available := havailable, numbered := trivial,
      next := rfl, directory := fun user => by rw [opened, hempty]; rfl }
  rcases hopened.afterVisits (fun v hv => hpossible v (List.mem_append_left _ hv))
    (by rw [opened, List.length_nil, Nat.zero_add]; exact hcount) with ⟨horderly, hlength⟩
  refine horderly.inStep ?_ (hpossible visit (List.mem_append_right _ (List.mem_singleton_self _)))
  rw [hlength, opened, List.length_nil, Nat.zero_add]
  exact hcount

theorem afterVisits_concat (r : Reception) (visits : List Visit) (visit : Visit) :
    r.afterVisits self host first (visits ++ [visit]) =
      (r.afterVisits self host first visits).afterVisit self host first visit :=
  List.foldl_concat _ _ _ _

/-- An instance that has just started. -/
def justStarted : Cluster :=
  { Cluster.new 100 16 0 with
    hosts := (Table.empty : Table Nat Host).insert 0 (.new (.standard ⟨"north"⟩) 0) }

/-- A user attaches twice. When the older session is closed, nobody notices, and the newer one is
    still there. When that is closed as well, everybody is told. -/
theorem reconnects_twice :
    let self := Profile.standard ⟨"north"⟩
    let r := (opened justStarted 8).afterVisits self 0 0 [.attach ⟨"ann"⟩, .attach ⟨"ann"⟩]
    let r' := r.afterVisit self 0 0 (.close 0)
    (r.cluster.directory 0).find? ⟨"ann"⟩ = some ⟨1, ⟨2⟩, ⟨"ann"⟩⟩ ∧
      r'.cluster.bus = r.cluster.bus ∧ r'.cluster.store = r.cluster.store ∧
      (r'.cluster.directory 0).find? ⟨"ann"⟩ = some ⟨1, ⟨2⟩, ⟨"ann"⟩⟩ ∧
      self.router.Announced r'.cluster.bus [.leave r'.cluster.nextMark ⟨"ann"⟩]
        (r'.afterVisit self 0 0 (.close 1)).cluster.bus := by
  intro self r r'
  have hfirst : r.InStep self 0 (.close 0) r' :=
    reconnects self 0 0 8 justStarted rfl rfl rfl rfl [.attach ⟨"ann"⟩, .attach ⟨"ann"⟩] (.close 0)
      (by simp [Visit.Possible]) (by decide)
  have hclosed : r' = (opened justStarted 8).afterVisits self 0 0
      [.attach ⟨"ann"⟩, .attach ⟨"ann"⟩, .close 0] :=
    (afterVisits_concat (opened justStarted 8) [.attach ⟨"ann"⟩, .attach ⟨"ann"⟩] (.close 0)).symm
  have hsecond : r'.InStep self 0 (.close 1) (r'.afterVisit self 0 0 (.close 1)) :=
    hclosed ▸ reconnects self 0 0 8 justStarted rfl rfl rfl rfl
      [.attach ⟨"ann"⟩, .attach ⟨"ann"⟩, .close 0] (.close 1) (by simp [Visit.Possible]) (by decide)
  have holder : (⟨⟨0, ⟨1⟩, ⟨"ann"⟩⟩, false⟩ : Handle) ∈ r.handles := by decide +kernel
  have hnewer : (⟨⟨1, ⟨2⟩, ⟨"ann"⟩⟩, false⟩ : Handle) ∈ r'.handles := by decide +kernel
  have hcurrent : (r.cluster.directory 0).find? ⟨"ann"⟩ = some ⟨1, ⟨2⟩, ⟨"ann"⟩⟩ :=
    (hfirst.directory ⟨"ann"⟩).trans (by decide +kernel)
  have hnot : (r.cluster.directory 0).find? ⟨"ann"⟩ ≠ some ⟨0, ⟨1⟩, ⟨"ann"⟩⟩ := by
    rw [hcurrent]
    decide
  rcases hfirst.unnoticed _ holder rfl rfl hnot with ⟨hbus, hdirectory, hstore⟩
  have hstill : (r'.cluster.directory 0).find? ⟨"ann"⟩ = some ⟨1, ⟨2⟩, ⟨"ann"⟩⟩ := by
    rw [hdirectory, hcurrent]
  have hfits : (Wire.Envelope.ofMessage self.id
      (.leave r'.cluster.nextMark ⟨"ann"⟩)).encode.length ≤ Wire.maxFrameSize := by decide +kernel
  exact ⟨hcurrent, hbus, hstore, hstill, hsecond.leaves _ hnewer rfl rfl hstill hfits⟩

end Reception

end ChatCluster
