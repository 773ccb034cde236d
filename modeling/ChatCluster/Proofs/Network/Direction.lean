import ChatCluster.Proofs.Network.Step

/-!
# Nothing Goes Astray

Whatever happens in a cluster, in whatever order, all that is ever put into the outbound queue of a
session belongs there.

Every move comes to one of five things (`Network.Passage`): something happens outside, a worker
comes, a worker turns to something that has nothing to do with frames, a consumer takes a frame in,
or a worker takes a step. What is shown of networks from here on is shown for these five.

## Main definitions

* `Network.Passage`: What a move comes to.

## Theorems

* `Network.Sound.act`, `Network.Sound.run`: Soundness is kept, whatever happens.
* `Network.no_misdelivery`: All that is put into an outbound queue belongs there.
-/

namespace ChatCluster

namespace Network

variable {n n' : Network} {ledgers ledgers' : Nat → Ledger} {place : Nat} {worker : Worker}
  {e : Effect} {next : e.Reply → Operation Unit}

/-! ## What a move comes to -/

/-- A worker that is no consumer has turned to something else, or its inbox has changed. What it
    does now stems from nothing, or from a new item, or it is what it did before. -/
structure Turns (worker : Worker) (l : Ledger) (worker' : Worker) (l' : Ledger) : Prop where
  stays : Stays worker worker'
  watch : worker'.watch? = none
  duty : ∀ a, worker.duty = .session a → ∃ a', worker'.duty = .session a' ∧
    a.taken.length ≤ a'.taken.length ∧ ∀ o, worker'.origin = some o →
      a.taken.length ≤ o.position ∨ worker.origin = some o ∧ l' = l

/-- A new worker does nothing that stems from an item, and if it is a consumer, its subscription is
    a new one to the topic for notices or, for the first of an instance, to that of the instance. -/
structure Arrives (n n' : Network) (worker : Worker) : Prop where
  origin : worker.origin = none
  watch : ∀ w, worker.duty = .consumer w → n.cluster.bus.nextId ≤ w.subscription ∧
    ∃ self, n'.cluster.profile? worker.host = some self ∧
      (w.topic = self.topics.broadcast ∨
        worker.host = n.workers.length ∧ w.topic = self.topics.ofInstance self.id)

/-- What a move comes to, and what becomes of the ledgers. -/
inductive Passage (n : Network) (ledgers : Nat → Ledger) : Network → (Nat → Ledger) → Prop where
  /-- Something happens outside. -/
  | outside {n' : Network} (frames : List Posted) (workers : n'.workers = n.workers)
    (offered : n'.offered = n.offered) (posted : n'.posted = n.posted ++ frames)
    (origins : ∀ p ∈ frames, p.origin = none) : Passage n ledgers n' ledgers
  /-- A worker comes. -/
  | newcomer {n' : Network} (worker : Worker) (l : Ledger)
    (workers : n'.workers = n.workers ++ [worker]) (offered : n'.offered = n.offered)
    (posted : n'.posted = n.posted) (arrives : n.Arrives n' worker) :
    Passage n ledgers n' (Function.update ledgers n.workers.length l)
  /-- A worker turns to something that has nothing to do with frames. -/
  | turned {n' : Network} (place : Nat) (worker worker' : Worker) (l : Ledger)
    (old : n.workers[place]? = some worker) (workers : n'.workers = n.workers.set place worker')
    (offered : n'.offered = n.offered) (posted : n'.posted = n.posted)
    (turns : Turns worker (ledgers place) worker' l) :
    Passage n ledgers n' (Function.update ledgers place l)
  /-- A consumer takes in the frame that has waited longest. -/
  | took {n' : Network} (place : Nat) (worker worker' : Worker) (w : Watch) (p : Posted)
    (l : Ledger) (old : n.workers[place]? = some worker) (duty : worker.duty = .consumer w)
    (waiting : p ∈ ((n.postedTo w.subscription).drop w.taken).head?)
    (workers : n'.workers = n.workers.set place worker') (host : worker'.host = worker.host)
    (duty' : worker'.duty = .consumer { w with taken := w.taken + 1 })
    (origin : worker'.origin = p.origin)
    (due : ∀ user, l.due user → frameAudience p.frame = .one user)
    (offered : n'.offered = n.offered) (posted : n'.posted = n.posted) :
    Passage n ledgers n' (Function.update ledgers place l)
  /-- A worker takes a step. -/
  | stepped (place : Nat) (worker : Worker) (e : Effect) (next : e.Reply → Operation Unit)
    (old : n.workers[place]? = some worker) (rest : worker.rest = .ask e next) :
    Passage n ledgers (n.step place worker e next) (Function.update ledgers place
      ((ledgers place).after e (n.cluster.perform worker.host e).1))

/-- Nobody notices. -/
theorem Passage.unnoticed (hworkers : n'.workers = n.workers) (hoffered : n'.offered = n.offered)
    (hposted : n'.posted = n.posted) : n.Passage ledgers n' ledgers :=
  .outside [] hworkers hoffered (by rw [hposted, List.append_nil])
    fun p hp => absurd hp List.not_mem_nil

theorem Passage.refl (n : Network) (ledgers : Nat → Ledger) : n.Passage ledgers n ledgers :=
  .unnoticed rfl rfl rfl

-- No way of passing from one network to the next takes away a session or an item of an inbox.
theorem Passage.later (h : n.Passage ledgers n' ledgers')
    (hprofiles : ∀ host self, n.cluster.profile? host = some self →
      n'.cluster.profile? host = some self) : n.Later n' := by
  cases h with
  | outside frames workers =>
    exact later_of (fun _ w hw => ⟨w, by rw [workers, hw], Stays.refl w⟩) hprofiles
  | newcomer worker l workers =>
    refine later_of (fun place w hw => ⟨w, ?_, Stays.refl w⟩) hprofiles
    rw [workers, List.getElem?_append_left (List.getElem?_eq_some_iff.1 hw).1, hw]
  | turned place worker worker' l old workers _ _ turns =>
    exact later_setWorker old turns.stays workers hprofiles
  | took place worker worker' w p l old duty _ workers host duty' =>
    refine later_setWorker old ⟨?_, ?_⟩ workers hprofiles
    · simp only [Worker.seat?, duty, duty']
    · simp only [Worker.inbox, duty, duty', Nat.le_refl]
  | stepped place worker e next old => exact later_step old

theorem Progress.turns {self : Profile} {a : Attendance} {worker' : Worker}
    (hduty : worker.duty = .session a) (h : Progress place self a worker worker') (l l' : Ledger) :
    Turns worker l worker' l' := by
  rcases h.duty with ⟨a', hduty', hsession, htaken, hinbox, horigin⟩
  refine ⟨⟨?_, ?_⟩, ?_, fun b hb => ?_⟩
  · simp only [Worker.seat?, hduty, hduty', h.host, hsession]
  · rw [Worker.inbox, Worker.inbox, hduty, hduty']
    exact hinbox
  · simp only [Worker.watch?, hduty']
  · rw [hduty, Duty.session.injEq] at hb
    subst hb
    refine ⟨a', hduty', htaken, fun o ho => Or.inl ?_⟩
    have hposition := congrArg Origin.position (horigin o ho).1
    exact Nat.le_of_eq hposition.symm

theorem Sound.turn (h : n.Sound ledgers) (hworker : n.workers[place]? = some worker) :
    ∃ ledgers', n.Passage ledgers (n.turn place worker) ledgers' ∧
      (n.turn place worker).Sound ledgers' := by
  rw [Network.turn]
  -- An errand is done once, a consumer has its next frame, and a session its next item.
  cases hduty : worker.duty with
  | errand => exact ⟨ledgers, .refl n ledgers, h⟩
  | consumer w =>
    have hwatch := watch?_eq_some hworker hduty
    change ∃ ledgers', n.Passage ledgers (n.turnConsumer place worker w) ledgers' ∧
      (n.turnConsumer place worker w).Sound ledgers'
    rcases turnConsumer_cases h worker hwatch with
      hsame | ⟨p, rest, bus, hdrop, heq, htakes⟩
    · rw [hsame]
      exact ⟨ledgers, .refl n ledgers, h⟩
    · rw [heq]
      refine ⟨_, .took place worker _ w p _ hworker hduty ?_ rfl rfl rfl rfl (fun _ hdue => hdue)
        rfl rfl, h.takeIn hworker hduty hdrop htakes⟩
      rw [hdrop]
      rfl
  | session a =>
    cases hself : n.cluster.profile? worker.host with
    | none => exact ⟨ledgers, .refl n ledgers, h⟩
    | some self =>
      change ∃ ledgers', n.Passage ledgers (n.turnSession place worker a self) ledgers' ∧
        (n.turnSession place worker a self).Sound ledgers'
      rcases n.turnSession_cases place worker a self with hsame | ⟨worker', heq, hprogress⟩
      · rw [hsame]
        exact ⟨ledgers, .refl n ledgers, h⟩
      · rw [heq]
        exact ⟨_, .turned place worker worker' _ hworker rfl rfl rfl (hprogress.turns hduty _ _),
          h.progress hworker hduty hself hprogress⟩

-- Whatever kind of worker it was, it stems from nothing and consumes nothing afterwards.
theorem passage_cancel (hworker : n.workers[place]? = some worker) :
    n.Passage ledgers (n.cancel place worker) (Function.update ledgers place (.blank false)) := by
  rw [Network.cancel]
  cases hduty : worker.duty with
  | session a =>
    refine .turned place worker _ _ hworker rfl rfl rfl ⟨⟨?_, ?_⟩, rfl, fun b hb => ?_⟩
    · simp only [Worker.seat?, hduty, Attendance.ended]
    · simp only [Worker.inbox, hduty, Attendance.ended, Mailbox.closeReceiver, Nat.le_refl]
    · rw [hduty, Duty.session.injEq] at hb
      subst hb
      exact ⟨a.ended, rfl, Nat.le_refl _, fun o ho => by simp only [reduceCtorEq] at ho⟩
  | errand =>
    refine .turned place worker _ _ hworker rfl rfl rfl ⟨⟨?_, ?_⟩, rfl, fun a ha => ?_⟩
    · simp only [Worker.seat?, hduty]
    · simp only [Worker.inbox, hduty, Nat.le_refl]
    · rw [hduty] at ha
      exact absurd ha Duty.noConfusion
  | consumer w =>
    refine .turned place worker _ _ hworker rfl rfl rfl ⟨⟨?_, ?_⟩, rfl, fun a ha => ?_⟩
    · simp only [Worker.seat?, hduty]
    · simp only [Worker.inbox, hduty, Nat.le_refl]
    · rw [hduty] at ha
      exact absurd ha Duty.noConfusion

-- The place need not be that of a session. If it is not, nothing happens.
theorem passage_updateAttendance (n : Network) (ledgers : Nat → Ledger) (place : Nat)
    {f : Attendance → Attendance} (hf : ∀ a, (f a).session = a.session ∧ (f a).taken = a.taken ∧
      a.inbox.items.length ≤ (f a).inbox.items.length) :
    n.Passage ledgers (n.updateAttendance place f) ledgers := by
  rw [updateAttendance]
  split
  · next host a origin rest hworker =>
    rcases hf a with ⟨hsession, htaken, hinbox⟩
    have hturns : Turns { host, duty := .session a, origin, rest } (ledgers place)
        { host, duty := .session (f a), origin, rest } (ledgers place) := by
      refine ⟨⟨?_, ?_⟩, rfl, fun b hb => ?_⟩
      · simp only [Worker.seat?, hsession]
      · simp only [Worker.inbox, htaken, List.length_append]
        omega
      · rw [Duty.session.injEq] at hb
        subst hb
        exact ⟨f a, rfl, Nat.le_of_eq (by rw [htaken]), fun o ho => Or.inr ⟨ho, rfl⟩⟩
    have hpassage : n.Passage ledgers
        (n.setWorker place { host, duty := .session (f a), origin, rest })
        (Function.update ledgers place (ledgers place)) :=
      .turned place _ _ _ hworker rfl rfl rfl hturns
    -- The ledger is the one it was.
    rw [Function.update_eq_self] at hpassage
    exact hpassage
  · exact .refl n ledgers

/-- Whatever happens, a sound network remains sound. -/
theorem Sound.act (h : n.Sound ledgers) (move : Move) :
    ∃ ledgers', n.Passage ledgers (n.act move) ledgers' ∧ (n.act move).Sound ledgers' := by
  have hidle : n.act move = n → ∃ ledgers', n.Passage ledgers (n.act move) ledgers' ∧
      (n.act move).Sound ledgers' := by
    intro hact
    rw [hact]
    exact ⟨ledgers, .refl n ledgers, h⟩
  have hunnoticed : (n.act move).workers = n.workers → (n.act move).offered = n.offered →
      (n.act move).posted = n.posted → (n.act move).Sound ledgers →
      ∃ ledgers', n.Passage ledgers (n.act move) ledgers' ∧ (n.act move).Sound ledgers' :=
    fun hworkers hoffered hposted hsound =>
      ⟨ledgers, .unnoticed hworkers hoffered hposted, hsound⟩
  have hupdated : ∀ place (f : Attendance → Attendance),
      (∀ a, (f a).session = a.session ∧ (f a).taken = a.taken ∧
        a.inbox.items.length ≤ (f a).inbox.items.length) →
      n.act move = n.updateAttendance place f →
      ∃ ledgers', n.Passage ledgers (n.act move) ledgers' ∧ (n.act move).Sound ledgers' := by
    intro place f hf hact
    rw [hact]
    exact ⟨ledgers, passage_updateAttendance n ledgers place hf, h.updateAttendance place hf⟩
  -- Moves without effect, and those that change the surroundings only, are dealt with above.
  cases move with
  | start profile clock queueCapacity =>
    refine ⟨_, .newcomer _ _ rfl rfl rfl ⟨rfl, fun w hw => ?_⟩, h.start profile clock queueCapacity⟩
    rw [← Duty.consumer.inj hw]
    refine ⟨Nat.le_refl _, profile, ?_, Or.inr ⟨rfl, rfl⟩⟩
    rw [Network.act, profile?_start, if_pos rfl]
  | listen host =>
    cases hself : n.cluster.profile? host with
    | none => exact hidle (by rw [Network.act, Network.listen, hself])
    | some self =>
      have hsound := h.listen hself
      rw [Network.act]
      rw [Network.listen, hself] at hsound ⊢
      refine ⟨_, .newcomer _ _ rfl rfl rfl ⟨rfl, fun w hw => ?_⟩, hsound⟩
      rw [← Duty.consumer.inj hw]
      exact ⟨Nat.le_refl _, self, hself, Or.inl rfl⟩
  | chore host chore =>
    cases hself : n.cluster.profile? host with
    | none => exact hidle (by rw [Network.act, hself])
    | some self =>
      have hsound := h.beginChore hself chore
      rw [Network.act, hself] at hsound ⊢
      exact ⟨_, .newcomer _ _ rfl rfl rfl ⟨rfl, fun w hw => absurd hw Duty.noConfusion⟩, hsound⟩
  | attach host user =>
    cases hself : n.cluster.profile? host with
    | none => exact hidle (by rw [Network.act, Network.attach, hself])
    | some self =>
      cases hnode : n.nodes.find? host with
      | none => exact hidle (by rw [Network.act, Network.attach, hself, hnode])
      | some node =>
        have hsound := h.attach hself hnode user
        rw [Network.act]
        rw [Network.attach, hself, hnode] at hsound ⊢
        exact ⟨_, .newcomer _ _ rfl rfl rfl ⟨rfl, fun w hw => absurd hw Duty.noConfusion⟩, hsound⟩
  | send place item =>
    refine hupdated place _ (fun a => ?_) rfl
    cases hoffer : a.inbox.offer item with
    | error e => exact ⟨rfl, rfl, Nat.le_refl _⟩
    | ok inbox =>
      refine ⟨rfl, rfl, ?_⟩
      simp only [((a.inbox.offer_eq_ok_iff inbox item).1 hoffer).2.2, List.length_append,
        Nat.le_add_right]
  | endInput place =>
    refine hupdated place _ (fun a => ?_) rfl
    exact ⟨rfl, rfl, Nat.le_refl _⟩
  | proceed place =>
    cases hworker : n.workers[place]? with
    | none => exact hidle (by rw [Network.act, hworker])
    | some worker =>
      cases hrest : worker.rest with
      | done _ =>
        rw [act_proceed_done hworker hrest]
        exact h.turn hworker
      | ask e next =>
        rw [act_proceed_ask hworker hrest]
        exact ⟨_, .stepped place worker e next hworker hrest, h.step hworker hrest⟩
  | cancel place =>
    cases hworker : n.workers[place]? with
    | none => exact hidle (by rw [Network.act, hworker])
    | some worker =>
      rw [Network.act, hworker]
      exact ⟨_, passage_cancel hworker, h.cancel hworker⟩
  | publish topic frame =>
    refine ⟨ledgers, .outside _ rfl rfl rfl fun p hp => ?_, h.publish topic frame⟩
    rcases List.mem_map.1 hp with ⟨id, _, rfl⟩
    rfl
  | read place =>
    exact hunnoticed rfl rfl rfl (h.updateQueue place fun box => List.tail_suffix box.items)
  | hangUp place =>
    exact hunnoticed rfl rfl rfl (h.updateQueue place fun box => List.suffix_refl box.items)
  | callStore call =>
    exact hunnoticed rfl rfl rfl
      (h.withSurroundings rfl rfl (h.tidy.sets.storeCall _ call) rfl rfl)
  | setStore unavailable stalled =>
    exact hunnoticed rfl rfl rfl (h.withSurroundings rfl rfl h.tidy.sets rfl rfl)
  | setBus unavailable =>
    exact hunnoticed rfl rfl rfl (h.withSurroundings rfl rfl h.tidy.sets rfl rfl)
  | wait ms => exact hunnoticed rfl rfl rfl (h.withSurroundings rfl rfl h.tidy.sets rfl rfl)
  | setClock host time => exact hunnoticed rfl rfl rfl (h.setClock host time)
  | setWallClock time =>
    exact hunnoticed rfl rfl rfl (h.withSurroundings rfl rfl h.tidy.sets rfl rfl)

theorem Sound.run (h : n.Sound ledgers) (moves : List Move) :
    ∃ ledgers', (n.run moves).Sound ledgers' := by
  induction moves generalizing n ledgers with
  | nil => exact ⟨ledgers, h⟩
  | cons move moves ih =>
    rcases h.act move with ⟨ledgers', _, hnext⟩
    exact ih hnext

/-- Whatever happens in a cluster, in whatever order, all that is ever put into the outbound queue
    of a session belongs there. A message is of a broadcast kind or addressed to the session's user,
    and a rejection stems from an item that the session's own client has handed in. -/
theorem no_misdelivery (opTimeout busCapacity : Nat) (wallClock : Int64) (moves : List Move) :
    let n := (new opTimeout busCapacity wallClock).run moves
    ∀ place host session, n.seat? place = some (host, session) →
      (∀ box, n.cluster.queues.find? place = some box →
        box.items <:+ (n.received place).map Offered.item) ∧
      ∀ o ∈ n.received place,
        match o.item with
        | .message m => m.kind = .join ∨ m.kind = .leave ∨ m.kind = .system ∨
            m.receiver = some session.user
        | .rejection _ => ∃ position item, o.origin = some { session := place, position } ∧
            (n.inboxOf place)[position]? = some item := by
  intro n place host session hseat
  -- At the start nobody works, so any ledgers will do.
  rcases (sound_new opTimeout busCapacity wallClock fun _ => .blank false).run moves with
    ⟨ledgers, hsound⟩
  refine ⟨fun box hbox => hsound.tidy.queues place box hbox, fun o ho => ?_⟩
  rcases List.mem_filter.1 ho with ⟨hmem, hqueue⟩
  have hqueue : o.queue = place := of_decide_eq_true hqueue
  rcases hsound.tidy.offered o hmem with ⟨host', session', hseat', hitem⟩
  -- The queue is that of one session only.
  have hsession : session' = session := by
    rw [hqueue] at hseat'
    exact (Prod.mk.inj (Option.some.inj (hseat'.symm.trans hseat))).2
  subst hsession
  cases hi : o.item with
  | message m =>
    rw [hi] at hitem
    rcases hitem with hkind | hreceiver
    · cases hk : m.kind with
      | join => exact Or.inl hk
      | leave => exact Or.inr (Or.inl hk)
      | system => exact Or.inr (Or.inr (Or.inl hk))
      | chat | typing | read => exact absurd hkind (by rw [hk]; exact Bool.false_ne_true)
    · exact Or.inr (Or.inr (Or.inr hreceiver))
  | rejection r =>
    rw [hi] at hitem
    rcases hitem with ⟨origin, horigin, hsession, hposition⟩
    rw [hqueue] at hsession hposition
    refine ⟨origin.position, _, ?_, List.getElem?_eq_getElem hposition⟩
    rw [horigin, ← hsession]

end Network

end ChatCluster
