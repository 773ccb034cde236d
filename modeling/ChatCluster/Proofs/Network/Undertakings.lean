import ChatCluster.Proofs.Instance.Vouching
import ChatCluster.Proofs.Network.Direction

/-!
# What Workers Undertake

Where the things come from that workers do. There are few things that a worker can begin
(`Network.Begins`), and it is known of each what it stems from: a session that has come is greeted,
an item that was taken from an inbox is handled, a frame that was posted is taken in. A move either
hands nothing on, and then every worker goes on with what it was doing or begins one of these
(`Network.Turnover`), or it is one step of a worker, or somebody outside publishes.

## Main definitions

* `Network.Begins`: What a worker can begin.
* `Network.Turnover`: Nothing is handed on, and workers go on or begin something.

## Theorems

* `Network.Sound.act_cases`: What a move comes to.
-/

namespace ChatCluster

namespace Network

/-- What a worker of an instance can begin, and what that stems from. -/
inductive Begins (n : Network) (self : Profile) (host : Nat) :
    Option Origin → Operation Unit → Prop where
  /-- It has nothing to do. -/
  | nothing (origin : Option Origin) : Begins n self host origin (pure ())
  /-- A session of the instance has come. -/
  | greeting (session : SessionHandle) (seat : n.Holds host session) :
      Begins n self host none (self.greet session)
  /-- An item has been taken from the inbox of a session of the instance. -/
  | handling (o : Origin) (session : SessionHandle) (item : Inbound)
      (seat : n.seat? o.session = some (host, session))
      (inbox : (n.inboxOf o.session)[o.position]? = some item) :
      Begins n self host (some o) (self.pipeline.handle session item)
  /-- A session is let go. -/
  | parting (session : SessionHandle) : Begins n self host none (self.part session)
  /-- The instance does something by itself. -/
  | chore (chore : Chore) : Begins n self host none (chore.operation self)
  /-- A frame that was posted is taken in. -/
  | takingIn (p : Posted) (posted : p ∈ n.posted) :
      Begins n self host p.origin (Router.receive p.frame >>= fun _ => pure ())

/-- A worker goes on with what it was doing. -/
structure GoesOn (worker worker' : Worker) : Prop where
  host : worker'.host = worker.host
  origin : worker'.origin = worker.origin
  rest : worker'.rest = worker.rest

/-- What the worker is doing was begun in the network. -/
def Undertakes (n : Network) (worker : Worker) : Prop :=
  ∃ self, n.cluster.profile? worker.host = some self ∧
    n.Begins self worker.host worker.origin worker.rest

/-- Nothing is handed on from one network to another, and workers go on with what they were doing or
    begin something. -/
structure Turnover (n n' : Network) : Prop where
  posted : n'.posted = n.posted
  offered : n'.offered = n.offered
  inboxes : ∀ place, n.inboxOf place <+: n'.inboxOf place
  workers : ∀ (place : Nat) (worker' : Worker), n'.workers[place]? = some worker' →
    (∃ worker, n.workers[place]? = some worker ∧ GoesOn worker worker') ∨ n'.Undertakes worker'

variable {n n' : Network} {ledgers : Nat → Ledger} {place : Nat} {worker worker' : Worker}

theorem GoesOn.refl (worker : Worker) : GoesOn worker worker := ⟨rfl, rfl, rfl⟩

/-! ## Who begins something -/

/-- Nobody begins anything. -/
theorem Turnover.unnoticed (hposted : n'.posted = n.posted) (hoffered : n'.offered = n.offered)
    (hworkers : n'.workers = n.workers) : n.Turnover n' := by
  refine ⟨hposted, hoffered, fun place => ?_, fun place worker' hworker' => ?_⟩
  · simp only [inboxOf, hworkers, List.prefix_rfl]
  · rw [hworkers] at hworker'
    exact Or.inl ⟨worker', hworker', .refl worker'⟩

/-- Inboxes only grow at their ends when a worker is replaced by one whose inbox does. -/
theorem inboxOf_prefix_setWorker (hworker : n.workers[place]? = some worker)
    (hworkers : n'.workers = n.workers.set place worker') (hinbox : worker.inbox <+: worker'.inbox)
    (other : Nat) : n.inboxOf other <+: n'.inboxOf other := by
  have hget := getElem?_workers hworker hworkers other
  rw [inboxOf, inboxOf, hget]
  by_cases hother : other = place
  · rw [if_pos hother, hother, hworker]
    exact hinbox
  · simp only [if_neg hother, List.prefix_rfl]

/-- One worker goes on with another inbox, or begins something. -/
theorem Turnover.replaced (hworker : n.workers[place]? = some worker)
    (hworkers : n'.workers = n.workers.set place worker') (hposted : n'.posted = n.posted)
    (hoffered : n'.offered = n.offered) (hinbox : worker.inbox <+: worker'.inbox)
    (h : GoesOn worker worker' ∨ n'.Undertakes worker') : n.Turnover n' := by
  refine ⟨hposted, hoffered, inboxOf_prefix_setWorker hworker hworkers hinbox,
    fun other w hw => ?_⟩
  have hget := getElem?_workers hworker hworkers other
  rw [hw] at hget
  by_cases hother : other = place
  · rw [if_pos hother, Option.some.injEq] at hget
    subst hget hother
    exact h.imp_left fun hgoes => ⟨worker, hworker, hgoes⟩
  · rw [if_neg hother] at hget
    exact Or.inl ⟨w, hget.symm, .refl w⟩

/-- A new worker begins something. -/
theorem Turnover.added (hworkers : n'.workers = n.workers ++ [worker])
    (hposted : n'.posted = n.posted) (hoffered : n'.offered = n.offered)
    (h : n'.Undertakes worker) : n.Turnover n' := by
  refine ⟨hposted, hoffered, fun place => ?_, fun place worker' hworker' => ?_⟩
  · rw [inboxOf, inboxOf, hworkers]
    by_cases hlt : place < n.workers.length
    · simp only [List.getElem?_append_left hlt, List.prefix_rfl]
    · rw [List.getElem?_eq_none (Nat.le_of_not_lt hlt)]
      exact List.nil_prefix
  · rw [hworkers] at hworker'
    by_cases hlt : place < n.workers.length
    · rw [List.getElem?_append_left hlt] at hworker'
      exact Or.inl ⟨worker', hworker', .refl worker'⟩
    · rw [List.getElem?_append_right (Nat.le_of_not_lt hlt)] at hworker'
      rw [List.mem_singleton.1 (List.mem_of_getElem? hworker')]
      exact Or.inr h

/-! ## What workers turn to -/

theorem getElem?_setWorker_self (hworker : n.workers[place]? = some worker) (worker' : Worker) :
    (n.setWorker place worker').workers[place]? = some worker' :=
  (getElem?_workers hworker rfl place).trans (if_pos rfl)

/-- The worker of a session takes the next item from the inbox. -/
theorem turnover_take {a : Attendance} {self : Profile} {item : Inbound} {inbox : Mailbox Inbound}
    (hworker : n.workers[place]? = some worker) (hduty : worker.duty = .session a)
    (hself : n.cluster.profile? worker.host = some self)
    (htake : a.inbox.take? = some (item, inbox)) (stage : Stage) :
    n.Turnover (n.setWorker place
      { worker with
        duty := .session { session := a.session, inbox, taken := a.taken ++ [item], stage }
        origin := some { session := place, position := a.taken.length }
        rest := self.pipeline.handle a.session item }) := by
  have hitems := Mailbox.items_of_take? htake
  refine .replaced hworker rfl rfl rfl ?_ (Or.inr ⟨self, hself, ?_⟩)
  · simp only [Worker.inbox, hduty, hitems, List.append_assoc, List.singleton_append]
    exact List.prefix_rfl
  · -- The item stands behind those that were taken before it.
    refine .handling _ a.session item ?_ ?_
    · rw [seat?, getElem?_setWorker_self hworker]
      rfl
    · simp only [inboxOf, getElem?_setWorker_self hworker, Option.map_some, Option.getD_some,
        Worker.inbox, List.append_assoc, List.getElem?_append_right (Nat.le_refl _), Nat.sub_self,
        List.singleton_append, List.getElem?_cons_zero]

/-- The worker of a session turns to the next item, or to something that stems from none. -/
theorem turnover_turnSession {a : Attendance} {self : Profile}
    (hworker : n.workers[place]? = some worker) (hduty : worker.duty = .session a)
    (hself : n.cluster.profile? worker.host = some self) :
    n.Turnover (n.turnSession place worker a self) := by
  -- All but taking an item leaves the inbox as it was.
  have hother : ∀ (a' : Attendance) (rest : Operation Unit),
      a'.taken ++ a'.inbox.items = a.taken ++ a.inbox.items →
      (∀ n' : Network, n'.Begins self worker.host none rest) →
      n.Turnover (n.setWorker place
        { worker with duty := .session a', origin := none, rest := rest }) := by
    intro a' rest hinbox hbegins
    refine .replaced hworker rfl rfl rfl ?_ (Or.inr ⟨self, hself, hbegins _⟩)
    simp only [Worker.inbox, hduty, hinbox, List.prefix_rfl]
  rw [turnSession]
  cases a.stage with
  | arriving => exact hother { a with stage := .serving } _ rfl fun _ => .nothing none
  | leaving => exact hother a.ended _ rfl fun _ => .nothing none
  | ended => exact .unnoticed rfl rfl rfl
  | serving =>
    cases htake : a.inbox.take? with
    | some taken => exact turnover_take hworker hduty hself htake .serving
    | none =>
      simp only
      split
      · exact .unnoticed rfl rfl rfl
      · exact hother { a with stage := .leaving } _ rfl fun _ => .parting a.session

/-- A consumer takes in a frame that was posted. -/
theorem Sound.turnover_turnConsumer (h : n.Sound ledgers) {w : Watch}
    (hworker : n.workers[place]? = some worker) (hduty : worker.duty = .consumer w) :
    n.Turnover (n.turnConsumer place worker w) := by
  rcases turnConsumer_cases h worker (watch?_eq_some hworker hduty) with
    hsame | ⟨p, rest, bus, hdrop, heq, _⟩
  · rw [hsame]
    exact .unnoticed rfl rfl rfl
  · rw [heq]
    rcases (h.workers place worker hworker).obeys with ⟨self, hself, _⟩
    have hp : p ∈ n.posted := by
      have hmem : p ∈ (n.postedTo w.subscription).drop w.taken := hdrop ▸ List.mem_cons_self
      exact (List.mem_filter.1 (List.mem_of_mem_drop hmem)).1
    refine .replaced hworker rfl rfl rfl ?_ (Or.inr ⟨self, hself, .takingIn p hp⟩)
    simp only [Worker.inbox, hduty]
    exact List.prefix_rfl

theorem Sound.turnover_turn (h : n.Sound ledgers) (hworker : n.workers[place]? = some worker) :
    n.Turnover (n.turn place worker) := by
  rw [Network.turn]
  cases hduty : worker.duty with
  | errand => exact .unnoticed rfl rfl rfl
  | consumer w => exact h.turnover_turnConsumer hworker hduty
  | session a =>
    cases hself : n.cluster.profile? worker.host with
    | none => exact .unnoticed rfl rfl rfl
    | some self => exact turnover_turnSession hworker hduty hself

theorem Sound.turnover_cancel (h : n.Sound ledgers) (hworker : n.workers[place]? = some worker) :
    n.Turnover (n.cancel place worker) := by
  rcases (h.workers place worker hworker).obeys with ⟨self, hself, _⟩
  rw [Network.cancel]
  cases hduty : worker.duty with
  | errand =>
    exact .replaced hworker rfl rfl rfl (by simp only [Worker.inbox, hduty, List.prefix_rfl])
      (Or.inr ⟨self, hself, .nothing _⟩)
  | consumer w =>
    exact .replaced hworker rfl rfl rfl (by simp only [Worker.inbox, hduty, List.prefix_rfl])
      (Or.inr ⟨self, hself, .nothing _⟩)
  | session a =>
    refine .replaced hworker rfl rfl rfl ?_ (Or.inr ⟨self, hself, .nothing _⟩)
    simp only [Worker.inbox, hduty, Attendance.ended, Mailbox.closeReceiver]
    exact List.prefix_rfl

theorem turnover_updateAttendance (n : Network) (place : Nat) {f : Attendance → Attendance}
    (hf : ∀ a, a.taken ++ a.inbox.items <+: (f a).taken ++ (f a).inbox.items) :
    n.Turnover (n.updateAttendance place f) := by
  rw [updateAttendance]
  split
  · next host a origin rest hworker =>
    exact .replaced hworker rfl rfl rfl (hf a) (Or.inl ⟨rfl, rfl, rfl⟩)
  · exact .unnoticed rfl rfl rfl

/-! ## Moves -/

/-- A move comes to a turnover, a step of a worker, or a publication from outside. -/
theorem Sound.act_cases (h : n.Sound ledgers) (move : Move) :
    n.Turnover (n.act move) ∨
    (∃ place worker e next, n.workers[place]? = some worker ∧ worker.rest = .ask e next ∧
      n.act move = n.step place worker e next) ∨
    ∃ topic frame, move = .publish topic frame := by
  cases move with
  | start profile clock queueCapacity =>
    refine Or.inl (.added rfl rfl rfl ⟨profile, ?_, .nothing none⟩)
    rw [Network.act, profile?_start, if_pos rfl]
  | listen host =>
    rw [Network.act, Network.listen]
    cases hself : n.cluster.profile? host with
    | none => exact Or.inl (.unnoticed rfl rfl rfl)
    | some self => exact Or.inl (.added rfl rfl rfl ⟨self, hself, .nothing none⟩)
  | chore host chore =>
    rw [Network.act]
    cases hself : n.cluster.profile? host with
    | none => exact Or.inl (.unnoticed rfl rfl rfl)
    | some self => exact Or.inl (.added rfl rfl rfl ⟨self, hself, .chore chore⟩)
  | attach host user =>
    rw [Network.act, Network.attach]
    cases hself : n.cluster.profile? host with
    | none => exact Or.inl (.unnoticed rfl rfl rfl)
    | some self =>
      cases hnode : n.nodes.find? host with
      | none => exact Or.inl (.unnoticed rfl rfl rfl)
      | some node =>
        refine Or.inl (.added rfl rfl rfl ⟨self, hself, .greeting _ ?_⟩)
        rw [Holds, seat?]
        simp only [addWorker, List.getElem?_concat_length, Option.bind_some, Worker.seat?]
  | send place item =>
    refine Or.inl (turnover_updateAttendance n place fun a => ?_)
    cases hoffer : a.inbox.offer item with
    | error e => exact List.prefix_rfl
    | ok inbox =>
      rw [((a.inbox.offer_eq_ok_iff inbox item).1 hoffer).2.2, ← List.append_assoc]
      exact List.prefix_append _ _
  | endInput place => exact Or.inl (turnover_updateAttendance n place fun a => List.prefix_rfl)
  | proceed place =>
    cases hworker : n.workers[place]? with
    | none =>
      have hact : n.act (.proceed place) = n := by rw [Network.act, hworker]
      rw [hact]
      exact Or.inl (.unnoticed rfl rfl rfl)
    | some worker =>
      cases hrest : worker.rest with
      | done _ =>
        rw [act_proceed_done hworker hrest]
        exact Or.inl (h.turnover_turn hworker)
      | ask e next =>
        exact Or.inr (Or.inl
          ⟨place, worker, e, next, hworker, hrest, act_proceed_ask hworker hrest⟩)
  | cancel place =>
    rw [Network.act]
    cases hworker : n.workers[place]? with
    | none => exact Or.inl (.unnoticed rfl rfl rfl)
    | some worker => exact Or.inl (h.turnover_cancel hworker)
  | publish topic frame => exact Or.inr (Or.inr ⟨topic, frame, rfl⟩)
  | read | hangUp | callStore | setStore | setBus | wait | setClock | setWallClock =>
    exact Or.inl (.unnoticed rfl rfl rfl)

end Network

end ChatCluster
