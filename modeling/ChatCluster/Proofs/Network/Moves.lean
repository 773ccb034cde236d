import ChatCluster.Proofs.Network.Sound

/-!
# Moves That Hand Nothing On

The moves after which nothing new is in any mailbox. The surroundings change, an inbox fills or
ends, a worker turns to something else, a consumer takes in what was there for it, or somebody
comes. Each of them keeps a network sound, and each is shown by one of the three general lemmas:
nobody notices, one worker changes, or one worker comes.

## Main definitions

* `Network.Progress`: What the worker of a session turns to.

## Theorems

* `Network.turnSession_cases`, `Network.turnConsumer_cases`: What a worker turns to.
* `Network.Sound.progress`, `Network.Sound.takeIn`: Soundness when it does.
* `Network.Sound.start`, `Network.Sound.listen`, `Network.Sound.attach`: Somebody comes.
-/

namespace ChatCluster

/-- What is taken from a mailbox stood in front of what remains. -/
theorem Mailbox.items_of_take? {α : Type} {box box' : Mailbox α} {item : α}
    (h : box.take? = some (item, box')) : box.items = item :: box'.items := by
  rw [Mailbox.take?] at h
  split at h
  · simp only [reduceCtorEq] at h
  · next first rest hfirst =>
    simp only [Option.some.injEq, Prod.mk.injEq] at h
    rcases h with ⟨rfl, rfl⟩
    exact hfirst

namespace Network

variable {n : Network} {ledgers : Nat → Ledger}

-- All clauses are about somebody or something that is there, and nothing is.
theorem sound_new (opTimeout busCapacity : Nat) (wallClock : Int64) (ledgers : Nat → Ledger) :
    (new opTimeout busCapacity wallClock).Sound ledgers := by
  refine ⟨⟨?_, ?_, ?_, ?_, ?_, ?_, ?_⟩, ?_, ?_⟩
  · intro host user session hfind
    exact absurd hfind (by simp only [new, Cluster.new, Cluster.directory, Table.find?_empty,
      Option.map_none, Option.getD_none, reduceCtorEq, not_false_eq_true])
  · intro host self hself
    exact absurd hself (by simp only [new, Cluster.new, Cluster.profile?, Table.find?_empty,
      Option.map_none, reduceCtorEq, not_false_eq_true])
  · exact Slots.setsNodup_empty
  · exact MemoryBus.sound_new busCapacity
  · exact fun p hp => absurd hp List.not_mem_nil
  · exact fun o ho => absurd ho List.not_mem_nil
  · intro place box hbox
    exact absurd hbox (by simp only [new, Cluster.new, Table.find?_empty, reduceCtorEq,
      not_false_eq_true])
  · exact fun place worker hworker => absurd hworker (by simp only [new, List.getElem?_nil,
      reduceCtorEq, not_false_eq_true])
  · exact fun i j w w' hi => absurd hi (by simp only [watch?, new, List.getElem?_nil,
      Option.bind_none, reduceCtorEq, not_false_eq_true])

/-! ## The surroundings -/

/-- The store, the bus and the clocks may do as they like, so long as what is queued stays. -/
theorem Sound.withSurroundings (h : n.Sound ledgers) {c : Cluster}
    (hhosts : c.hosts = n.cluster.hosts) (hqueues : c.queues = n.cluster.queues)
    (hsets : c.store.slots.SetsNodup) (htopics : c.bus.topics = n.cluster.bus.topics)
    (hnextId : c.bus.nextId = n.cluster.bus.nextId) :
    ({ n with cluster := c } : Network).Sound ledgers := by
  refine h.withCluster ⟨fun host user session hfind => ?_, fun _ => hsets, fun hbus => ?_,
    Nat.le_of_eq hnextId.symm, fun place box hbox => ?_⟩ (fun host => ?_)
    fun id topic frames hw => ?_
  · rw [Cluster.directory, hhosts] at hfind
    exact hfind
  · refine ⟨?_, ?_, ?_⟩
    · rw [htopics]
      exact hbus.within
    · rw [htopics]
      exact hbus.across
    · rw [htopics, hnextId]
      exact hbus.fresh
  · rw [hqueues] at hbox
    exact Or.inr ⟨box, hbox, List.suffix_refl _⟩
  · rw [Cluster.profile?, Cluster.profile?, hhosts]
  · rw [MemoryBus.Waits, htopics]
    exact hw

theorem Sound.setClock (h : n.Sound ledgers) (host : Nat) (time : Int64) :
    (n.act (.setClock host time)).Sound ledgers := by
  have hdirectory : ∀ other, (n.cluster.updateHost host fun h => { h with clock := time }).directory
      other = n.cluster.directory other :=
    fun other => Cluster.directory_updateHost _ host other fun _ => rfl
  refine h.withCluster ⟨fun other user session hfind => ?_, id, id, Nat.le_refl _,
    fun _ box hbox => Or.inr ⟨box, hbox, List.suffix_refl _⟩⟩ (fun other => ?_) fun _ _ _ hw => hw
  · rw [hdirectory] at hfind
    exact hfind
  · exact Cluster.profile?_updateHost _ host other fun _ => rfl

/-- The client of a session takes something out of the queue, or leaves. -/
theorem Sound.updateQueue (h : n.Sound ledgers) (place : Nat)
    {f : Mailbox Outbound → Mailbox Outbound} (hf : ∀ box, (f box).items <:+ box.items) :
    ({ n with cluster := n.cluster.updateQueue place f } : Network).Sound ledgers := by
  refine h.withCluster ⟨fun _ _ _ hfind => hfind, id, id, Nat.le_refl _, fun other box' hbox' => ?_⟩
    (fun _ => rfl) fun _ _ _ hw => hw
  simp only [Cluster.updateQueue, Table.find?_update] at hbox'
  split at hbox'
  · rcases Option.map_eq_some_iff.1 hbox' with ⟨box, hbox, rfl⟩
    exact Or.inr ⟨box, hbox, hf box⟩
  · exact Or.inr ⟨box', hbox', List.suffix_refl _⟩

/-! ## Inboxes -/

theorem Sound.updateAttendance (h : n.Sound ledgers) (place : Nat) {f : Attendance → Attendance}
    (hf : ∀ a, (f a).session = a.session ∧ (f a).taken = a.taken ∧
      a.inbox.items.length ≤ (f a).inbox.items.length) :
    (n.updateAttendance place f).Sound ledgers := by
  rw [Network.updateAttendance]
  split
  · next host a origin rest hworker =>
    rcases hf a with ⟨hsession, htaken, hinbox⟩
    have hold := h.workers place _ hworker
    have hseat : Worker.seat? { host, duty := .session (f a), origin, rest } =
        Worker.seat? { host, duty := .session a, origin, rest } := by
      simp only [Worker.seat?, hsession]
    have hstays : Stays { host, duty := .session a, origin, rest }
        { host, duty := .session (f a), origin, rest } := by
      refine ⟨hseat, ?_⟩
      simp only [Worker.inbox, htaken, List.length_append]
      omega
    have hsound : (n.setWorker place { host, duty := .session (f a), origin, rest }).Sound
        (Function.update ledgers place (ledgers place)) := by
      refine h.setWorker (c := n.cluster) hworker hstays (Cluster.Calm.refl _) (fun _ => rfl)
        (fun _ _ _ _ _ hw => hw) (fun w hw => ?_) fun hlater => ?_
      · simp only [Worker.watch?, reduceCtorEq] at hw
      · -- Neither the session nor what was taken has changed, so the rules are the same.
        rcases hold.obeys with ⟨self, hself, hobeys⟩
        refine ⟨⟨self, hlater.profiles _ _ hself, ?_⟩, fun s hs => hlater.holds (hold.found s hs),
          hold.bound, ?_⟩
        · rw [Worker.brief, hseat]
          exact hobeys
        · have hduty := hold.duty
          simp only at hduty ⊢
          rw [hsession, htaken]
          exact hduty
    rw [Function.update_eq_self] at hsound
    exact hsound
  · exact h

/-! ## Sessions turn to something else -/

/-- The worker of a session has turned to something else: to the item that it has just taken, or
    to something that stems from none. -/
structure Progress (place : Nat) (profile : Profile) (a : Attendance) (worker worker' : Worker) :
    Prop where
  host : worker'.host = worker.host
  duty : ∃ a', worker'.duty = .session a' ∧ a'.session = a.session ∧
    a.taken.length ≤ a'.taken.length ∧
    (a.taken ++ a.inbox.items).length ≤ (a'.taken ++ a'.inbox.items).length ∧
    ∀ origin, worker'.origin = some origin →
      origin = { session := place, position := a.taken.length } ∧
        a'.taken.length = a.taken.length + 1
  obeys : (worker'.brief profile).rules.Obeys (.blank worker'.origin.isSome) worker'.rest
    fun _ _ => True

/-- A worker that does nothing more of its own. -/
theorem Progress.idle {place : Nat} {self : Profile} {a a' : Attendance} {worker : Worker}
    (hsession : a'.session = a.session) (htaken : a'.taken = a.taken)
    (hinbox : a'.inbox.items = a.inbox.items) :
    Progress place self a worker
      { worker with duty := .session a', origin := none, rest := pure () } where
  host := rfl
  duty := ⟨a', rfl, hsession, Nat.le_of_eq (by rw [htaken]),
    Nat.le_of_eq (by rw [htaken, hinbox]), fun _ h => by simp only [reduceCtorEq] at h⟩
  obeys := trivial

theorem turnSession_cases (n : Network) (place : Nat) (worker : Worker) (a : Attendance)
    (self : Profile) :
    n.turnSession place worker a self = n ∨ ∃ worker',
      n.turnSession place worker a self = n.setWorker place worker' ∧
        Progress place self a worker worker' := by
  rw [turnSession]
  cases hstage : a.stage with
  | arriving => exact Or.inr ⟨_, rfl, .idle rfl rfl rfl⟩
  | leaving => exact Or.inr ⟨_, rfl, .idle rfl rfl rfl⟩
  | ended => exact Or.inl rfl
  | serving =>
    cases htake : a.inbox.take? with
    | some taken =>
      -- The item moves from the inbox to those that were taken, so nothing is lost.
      rcases taken with ⟨item, inbox⟩
      have hitems := Mailbox.items_of_take? htake
      refine Or.inr ⟨_, rfl, rfl, ⟨_, rfl, rfl, ?_, ?_, fun origin horigin => ?_⟩, ?_⟩
      · simp only [List.length_append]
        omega
      · rw [hitems, List.append_assoc]
        exact Nat.le_refl _
      · exact ⟨(Option.some.inj horigin).symm, List.length_append⟩
      · exact obeys_handle self.limits item rfl rfl fun _ => trivial
    | none =>
      -- An empty inbox is waited for, unless nothing more can come.
      simp only
      split
      · exact Or.inl rfl
      · refine Or.inr ⟨_, rfl, rfl,
          ⟨_, rfl, rfl, Nat.le_refl _, Nat.le_refl _, fun origin h => ?_⟩, ?_⟩
        · simp only [reduceCtorEq] at h
        · exact (obeys_part rfl a.session rfl).mono fun _ _ _ => trivial

-- The new rest obeys with a blank ledger, as the operation starts anew.
theorem Sound.progress (h : n.Sound ledgers) {place : Nat} {worker worker' : Worker}
    {a : Attendance} {self : Profile} (hworker : n.workers[place]? = some worker)
    (hduty : worker.duty = .session a) (hself : n.cluster.profile? worker.host = some self)
    (hprogress : Progress place self a worker worker') :
    (n.setWorker place worker').Sound
      (Function.update ledgers place (.blank worker'.origin.isSome)) := by
  have hold := h.workers place worker hworker
  rcases hprogress.duty with ⟨a', hduty', hsession, _, hinbox, horigin⟩
  have hseat : worker'.seat? = worker.seat? := by
    simp only [Worker.seat?, hduty, hduty', hprogress.host, hsession]
  have hstays : Stays worker worker' := by
    refine ⟨hseat, ?_⟩
    rw [Worker.inbox, Worker.inbox, hduty, hduty']
    exact hinbox
  refine h.setWorker (c := n.cluster) hworker hstays (Cluster.Calm.refl _) (fun _ => rfl)
    (fun _ _ _ _ _ hw => hw) (fun w hw => ?_) fun hlater => ?_
  · rw [Worker.watch?, hduty'] at hw
    simp only [reduceCtorEq] at hw
  · refine ⟨⟨self, ?_, hprogress.obeys⟩, fun s hs => absurd hs List.not_mem_nil, rfl, ?_⟩
    · rw [hprogress.host]
      exact hself
    · have hqueue := hold.duty
      rw [hduty] at hqueue
      rw [hduty']
      refine ⟨by rw [hsession]; exact hqueue.1, fun origin ho => ?_⟩
      rcases horigin origin ho with ⟨rfl, hlength⟩
      exact ⟨rfl, hlength.symm⟩

/-! ## Consumers turn to something else -/

/-- The next frame that a consumer takes in is the one that was posted to it next. -/
theorem turnConsumer_cases (h : n.Sound ledgers) {place : Nat} (worker : Worker) {w : Watch}
    (hw : n.watch? place = some w) :
    n.turnConsumer place worker w = n ∨ ∃ p rest bus,
      (n.postedTo w.subscription).drop w.taken = p :: rest ∧
      n.turnConsumer place worker w =
        ({ n with cluster := { n.cluster with bus } } : Network).setWorker place
          { worker with
            duty := .consumer { w with taken := w.taken + 1 }
            origin := p.origin
            rest := Router.receive p.frame >>= fun _ => pure () } ∧
      n.cluster.bus.Takes bus w.subscription w.topic (rest.map Posted.frame) := by
  rw [turnConsumer]
  cases htake : n.cluster.bus.take? w.subscription with
  | none => exact Or.inl rfl
  | some taken =>
    rcases taken with ⟨frame, bus⟩
    rcases (h.awaits hw).waits.take h.tidy.bus htake with ⟨frames, hframes, htakes⟩
    -- What waits are the frames that were posted and not yet taken in, so this is the next of them.
    cases hdrop : (n.postedTo w.subscription).drop w.taken with
    | nil =>
      rw [hdrop] at hframes
      simp only [List.map_nil, reduceCtorEq] at hframes
    | cons p rest =>
      rw [hdrop, List.map_cons, List.cons.injEq] at hframes
      rcases hframes with ⟨rfl, rfl⟩
      -- The record and the mailbox agree about what is next.
      have hnth : (n.postedTo w.subscription)[w.taken]? = some p := by
        rw [← List.head?_drop, hdrop, List.head?_cons]
      refine Or.inr ⟨p, rest, bus, rfl, ?_, htakes⟩
      simp only [hnth, Option.bind_some]

-- Three things come together: the frame is no notice if the worker is bound, what still waits is
-- what was posted behind it, and no other consumer has noticed.
theorem Sound.takeIn (h : n.Sound ledgers) {place : Nat} {worker : Worker} {w : Watch} {p : Posted}
    {rest : List Posted} {bus : MemoryBus} (hworker : n.workers[place]? = some worker)
    (hduty : worker.duty = .consumer w)
    (hdrop : (n.postedTo w.subscription).drop w.taken = p :: rest)
    (htakes : n.cluster.bus.Takes bus w.subscription w.topic (rest.map Posted.frame)) :
    (({ n with cluster := { n.cluster with bus } } : Network).setWorker place
      { worker with
        duty := .consumer { w with taken := w.taken + 1 }
        origin := p.origin
        rest := Router.receive p.frame >>= fun _ => pure () }).Sound
      (Function.update ledgers place
        { found := [], bound := p.origin.isSome,
          due := fun user => frameAudience p.frame = .one user }) := by
  have hold := h.workers place worker hworker
  have hwatch := watch?_eq_some hworker hduty
  have hlt : w.taken < (n.postedTo w.subscription).length := by
    have hlength := congrArg List.length hdrop
    rw [List.length_drop, List.length_cons] at hlength
    omega
  -- The frame was posted, so it is no notice if it stems from an item.
  have hp : p ∈ n.posted := by
    have hmem : p ∈ (n.postedTo w.subscription).drop w.taken := hdrop ▸ List.mem_cons_self
    exact (List.mem_filter.1 (List.mem_of_mem_drop hmem)).1
  rcases hold.obeys with ⟨self, hself, _⟩
  have hcalm : n.cluster.Calm { n.cluster with bus } :=
    .withBus (fun _ => htakes.sound) (Nat.le_of_eq htakes.nextId.symm)
  refine h.setWorker hworker ⟨?_, ?_⟩ hcalm (fun _ => rfl)
    (fun other w' hne hw' frames => ?_) (fun w' hw' => ?_) fun hlater => ?_
  · simp only [Worker.seat?, hduty]
  · simp only [Worker.inbox, hduty, Nat.le_refl]
  · -- Nobody else has this subscription.
    exact htakes.others _ _ _ fun heq => hne (h.apart other place w' w hw' hwatch heq)
  · rw [Worker.watch?, Option.some.injEq] at hw'
    exact ⟨w, by rw [Worker.watch?, hduty], by rw [← hw']⟩
  · refine ⟨⟨self, hself, ?_⟩, fun s hs => absurd hs List.not_mem_nil, rfl, ?_⟩
    -- Only those the frame is for are due.
    · refine Rules.obeys_bind (obeys_receive (h.tidy.posted p hp).2 fun _ user huser => huser)
        fun _ _ _ => trivial
    · refine ⟨hlt, ?_⟩
      have hrest : (n.postedTo w.subscription).drop (w.taken + 1) = rest := by
        rw [← List.tail_drop, hdrop, List.tail_cons]
      change bus.Waits w.subscription w.topic
        (((n.postedTo w.subscription).drop (w.taken + 1)).map Posted.frame)
      rw [hrest]
      exact htakes.waits

/-! ## Work is broken off -/

-- With nothing left to do every rule is kept. A consumer also gives up its subscription.
theorem Sound.cancel (h : n.Sound ledgers) {place : Nat} {worker : Worker}
    (hworker : n.workers[place]? = some worker) :
    (n.cancel place worker).Sound (Function.update ledgers place (.blank false)) := by
  have hold := h.workers place worker hworker
  rcases hold.obeys with ⟨self, hself, _⟩
  rw [Network.cancel]
  cases hduty : worker.duty with
  | session a => exact h.progress hworker hduty hself (.idle rfl rfl rfl)
  | errand =>
    have horigin := hold.duty
    rw [hduty] at horigin
    refine h.setWorker (c := n.cluster) hworker ⟨?_, ?_⟩ (Cluster.Calm.refl _)
      (fun _ => rfl) (fun _ _ _ _ _ hw => hw) (fun w' hw' => ?_) fun hlater => ?_
    · simp only [Worker.seat?, hduty]
    · simp only [Worker.inbox, hduty, Nat.le_refl]
    · simp only [Worker.watch?, reduceCtorEq] at hw'
    · refine ⟨⟨self, hself, trivial⟩, fun s hs => absurd hs List.not_mem_nil, ?_, horigin⟩
      rw [horigin]
      rfl
  | consumer w =>
    have hwatch := watch?_eq_some hworker hduty
    have hcalm : n.cluster.Calm { n.cluster with bus := n.cluster.bus.close w.subscription } :=
      .withBus (fun hbus => hbus.updateBox _ _) (Nat.le_refl _)
    refine h.setWorker hworker ⟨?_, ?_⟩ hcalm (fun _ => rfl)
      (fun other w' hne hw' frames hwaits => ?_) (fun w' hw' => ?_) fun hlater => ?_
    · simp only [Worker.seat?, hduty]
    · simp only [Worker.inbox, hduty, Nat.le_refl]
    · -- The subscription that ends is nobody else's.
      exact hwaits.updateBox_of_ne (fun heq => hne (h.apart other place w' w hw' hwatch heq)) _
    · simp only [Worker.watch?, reduceCtorEq] at hw'
    · exact ⟨⟨self, hself, trivial⟩, fun s hs => absurd hs List.not_mem_nil, rfl, rfl⟩

/-! ## Somebody comes -/

/-- Nothing waits for a consumer that has just subscribed. -/
theorem Sound.awaits_subscribe {n' : Network} (h : n.Sound ledgers) {topic : String}
    (hposted : n'.posted = n.posted)
    (hbus : n'.cluster.bus = (n.cluster.bus.subscribe topic).2) :
    n'.Awaits { topic, subscription := (n.cluster.bus.subscribe topic).1, taken := 0 } := by
  -- Whatever was posted went to subscriptions with smaller numbers.
  have hnone : n'.postedTo (n.cluster.bus.subscribe topic).1 = [] := by
    rw [postedTo, hposted, List.filter_eq_nil_iff]
    intro p hp heq
    have hlt := (h.tidy.posted p hp).1
    rw [of_decide_eq_true heq] at hlt
    exact Nat.lt_irrefl _ hlt
  refine ⟨Nat.zero_le _, ?_⟩
  rw [hnone, hbus]
  exact n.cluster.bus.waits_subscribe topic

theorem profile?_start (n : Network) (profile : Profile) (clock : Int64)
    (queueCapacity host : Nat) :
    (n.start profile clock queueCapacity).cluster.profile? host =
      if host = n.workers.length then some profile else n.cluster.profile? host := by
  simp only [Network.start, addWorker, Cluster.profile?, Table.find?_insert]
  split
  · rfl
  · rfl

-- The first worker of an instance takes the next place, by which the instance goes from then on.
theorem Sound.start (h : n.Sound ledgers) (profile : Profile) (clock : Int64)
    (queueCapacity : Nat) :
    (n.start profile clock queueCapacity).Sound
      (Function.update ledgers n.workers.length (.blank false)) := by
  refine h.grow rfl rfl rfl
    ⟨fun other user session hfind => ?_, id, fun hbus => hbus.subscribe _, Nat.le_succ _,
      fun _ box hbox => Or.inr ⟨box, hbox, List.suffix_refl _⟩⟩ (fun other hne => ?_)
    (fun _ _ _ hw => hw.subscribe _) (fun w hw => ?_) fun _ => ?_
  · simp only [Network.start, addWorker, Cluster.directory, Table.find?_insert] at hfind
    split at hfind
    · exact absurd hfind (by simp only [Option.map_some, Option.getD_some, Host.new,
        Table.find?_empty, reduceCtorEq, not_false_eq_true])
    · exact hfind
  · rw [profile?_start, if_neg hne]
  · rw [Worker.watch?, Option.some.injEq] at hw
    subst hw
    exact Nat.le_refl _
  · refine ⟨⟨profile, ?_, trivial⟩, fun s hs => absurd hs List.not_mem_nil, rfl, ?_⟩
    · rw [profile?_start, if_pos rfl]
    · exact h.awaits_subscribe rfl rfl

theorem Sound.listen (h : n.Sound ledgers) {host : Nat} {self : Profile}
    (hself : n.cluster.profile? host = some self) :
    (n.listen host).Sound (Function.update ledgers n.workers.length (.blank false)) := by
  rw [Network.listen, hself]
  refine h.grow rfl rfl rfl (.withBus (fun hbus => hbus.subscribe _) (Nat.le_succ _))
    (fun _ _ => rfl) (fun _ _ _ hw => hw.subscribe _) (fun w hw => ?_) fun _ => ?_
  · rw [Worker.watch?, Option.some.injEq] at hw
    subst hw
    exact Nat.le_refl _
  · refine ⟨⟨self, hself, trivial⟩, fun s hs => absurd hs List.not_mem_nil, rfl, ?_⟩
    exact h.awaits_subscribe rfl rfl

/-- What an instance does by itself hands on nothing but notices. -/
theorem obeys_chore {self : Profile} {b : Brief} {l : Ledger} (chore : Chore)
    (hrouter : b.router = self.router) (hbound : l.bound = false) :
    b.rules.Obeys l (chore.operation self) fun _ _ => True := by
  cases chore with
  | firstHeartbeat => exact (quiet_firstHeartbeat self b l).mono fun _ _ _ => trivial
  | heartbeat => exact (quiet_timedHeartbeat self b l).mono fun _ _ _ => trivial
  | reap => exact (quiet_timedReap self b l).mono fun _ _ _ => trivial
  | shutdown => exact obeys_leave hrouter hbound

theorem Sound.beginChore (h : n.Sound ledgers) {host : Nat} {self : Profile}
    (hself : n.cluster.profile? host = some self) (chore : Chore) :
    (n.act (.chore host chore)).Sound
      (Function.update ledgers n.workers.length (.blank false)) := by
  rw [act, hself]
  refine h.grow rfl rfl rfl (Cluster.Calm.refl _) (fun _ _ => rfl) (fun _ _ _ hw => hw)
    (fun w hw => ?_) fun _ => ?_
  · simp only [Worker.watch?, reduceCtorEq] at hw
  · exact ⟨⟨self, hself, obeys_chore chore rfl rfl⟩, fun s hs => absurd hs List.not_mem_nil, rfl,
      rfl⟩

-- The queue is made at the place of the new worker, where there is none, so nothing is lost in it.
theorem Sound.attach (h : n.Sound ledgers) {host : Nat} {self : Profile} {node : NodeState}
    (hself : n.cluster.profile? host = some self) (hnode : n.nodes.find? host = some node)
    (user : UserId) :
    (n.attach host user).Sound (Function.update ledgers n.workers.length (.blank false)) := by
  rw [Network.attach, hself, hnode]
  refine h.grow rfl rfl rfl ⟨fun _ _ _ hfind => hfind, id, id, Nat.le_refl _,
    fun place box hbox => ?_⟩ (fun _ _ => rfl) (fun _ _ _ hw => hw) (fun w hw => ?_) fun _ => ?_
  · simp only [addWorker, Table.find?_insert] at hbox
    split at hbox
    -- The queue of the new session is empty, and all others are what they were.
    · rw [← Option.some.inj hbox]
      exact Or.inl rfl
    · exact Or.inr ⟨box, hbox, List.suffix_refl _⟩
  · simp only [Worker.watch?, reduceCtorEq] at hw
  · refine ⟨⟨self, hself, obeys_greet rfl rfl rfl⟩, fun s hs => absurd hs List.not_mem_nil, rfl,
      rfl, fun origin horigin => ?_⟩
    simp only [reduceCtorEq] at horigin

end Network

end ChatCluster
