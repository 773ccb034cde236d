import ChatCluster.Proofs.Network.Moves

/-!
# Handing Something On

The two moves that hand something on. A step of a worker may hand on a frame
(`Network.posted_step_cases`) or an item (`Network.offered_step_cases`), and since the worker keeps
the rules of delivery, what it hands on belongs where it goes. A publication from outside may be
anything, so it is to its credit only that it stems from no item.

## Theorems

* `Network.posted_step_cases`, `Network.offered_step_cases`: What a step hands on.
* `Network.exists_run_alone`: What a worker does that is left alone.
* `Network.Conducts.belongs`: What a worker offers belongs where it goes.
* `Network.Sound.step`, `Network.Sound.publish`: The moves keep a network sound.
-/

namespace ChatCluster

namespace Network

variable {n : Network} {ledgers : Nat → Ledger} {place : Nat} {worker : Worker} {e : Effect}
  {next : e.Reply → Operation Unit}

/-! ## A step -/

/-- A step publishes a frame, or the bus is left alone. -/
theorem posted_step_cases (n : Network) (place : Nat) (worker : Worker) (e : Effect)
    (next : e.Reply → Operation Unit) :
    (∃ topic frame, e = .publish topic frame ∧
      (n.step place worker e next).posted =
        n.posted ++ postedOn n.cluster.bus worker.origin topic frame ∧
      (n.step place worker e next).cluster.bus = (n.cluster.bus.publish topic frame).2) ∨
    ((n.step place worker e next).posted = n.posted ∧
      (n.step place worker e next).cluster.bus = n.cluster.bus) := by
  have hbus := Cluster.bus_perform n.cluster worker.host e
  cases e with
  | publish topic frame => exact Or.inl ⟨topic, frame, rfl, rfl, hbus⟩
  | _ => exact Or.inr ⟨List.append_nil _, hbus⟩

/-- A step puts an item at the end of an outbound queue, or the queues are left alone. -/
theorem offered_step_cases (n : Network) (place : Nat) (worker : Worker) (e : Effect)
    (next : e.Reply → Operation Unit) :
    (∃ session item box, e = .offer session item ∧
      n.cluster.queues.find? session.queue = some box ∧
      (n.step place worker e next).offered =
        n.offered ++ [{ queue := session.queue, item, origin := worker.origin }] ∧
      (n.step place worker e next).cluster.queues =
        n.cluster.queues.insert session.queue { box with items := box.items ++ [item] }) ∨
    ((n.step place worker e next).offered = n.offered ∧
      (n.step place worker e next).cluster.queues = n.cluster.queues) := by
  have hqueues := Cluster.queues_perform n.cluster worker.host e
  cases e with
  | offer session item =>
    -- An offer that is refused is remembered by nobody.
    rcases n.cluster.offer_cases session item with ⟨error, hoffer⟩ | ⟨box, hbox, hoffer⟩
    · refine Or.inr ⟨?_, ?_⟩
      · simp only [step, Cluster.perform, hoffer, offeredBy, List.append_nil]
      · simp only [step, Cluster.perform, hoffer]
    · refine Or.inl ⟨session, item, box, rfl, hbox, ?_, ?_⟩
      · simp only [step, Cluster.perform, hoffer, offeredBy]
      · simp only [step, Cluster.perform, hoffer]
  | _ => exact Or.inr ⟨List.append_nil _, hqueues⟩

theorem workers_step (n : Network) (place : Nat) (worker : Worker) (e : Effect)
    (next : e.Reply → Operation Unit) :
    (n.step place worker e next).workers =
      n.workers.set place { worker with rest := next (n.cluster.perform worker.host e).1 } := rfl

theorem later_step (hworker : n.workers[place]? = some worker) :
    n.Later (n.step place worker e next) := by
  have hstays : Stays worker { worker with rest := next (n.cluster.perform worker.host e).1 } :=
    ⟨rfl, Nat.le_refl _⟩
  exact later_setWorker hworker hstays (workers_step n place worker e next) fun host self hself =>
    (Cluster.profile?_perform n.cluster worker.host host e).trans hself

theorem act_proceed_done {result : Unit} (hworker : n.workers[place]? = some worker)
    (hrest : worker.rest = .done result) : n.act (.proceed place) = n.turn place worker := by
  simp only [Network.act, hworker, hrest]

theorem act_proceed_ask (hworker : n.workers[place]? = some worker)
    (hrest : worker.rest = .ask e next) :
    n.act (.proceed place) = n.step place worker e next := by
  simp only [Network.act, hworker, hrest]

/-- A worker that is left alone does what its operation does when it is run alone. -/
theorem exists_run_alone (hworker : n.workers[place]? = some worker) :
    ∃ steps, (n.run (List.replicate steps (.proceed place))).cluster =
        (Cluster.runAlone worker.host worker.rest n.cluster).2 ∧
      (n.run (List.replicate steps (.proceed place))).workers =
        n.workers.set place { worker with rest := pure () } := by
  -- By induction on what is left to do; each step leaves a worker with less of it.
  rcases worker with ⟨host, duty, origin, rest⟩
  induction rest generalizing n with
  | done result =>
    refine ⟨0, rfl, ?_⟩
    rcases List.getElem?_eq_some_iff.1 hworker with ⟨hlt, hget⟩
    have hself := List.set_getElem_self hlt
    rw [hget] at hself
    exact hself.symm
  | ask e next ih =>
    have hworkers := workers_step n place { host, duty, origin, rest := .ask e next } e next
    have hnext := getElem?_workers hworker hworkers place
    rw [if_pos rfl] at hnext
    rcases ih _ hnext with ⟨steps, hcluster, hrest⟩
    refine ⟨steps + 1, ?_, ?_⟩
    · rw [List.replicate_succ, run, List.foldl_cons, act_proceed_ask hworker rfl]
      exact hcluster
    · rw [List.replicate_succ, run, List.foldl_cons, act_proceed_ask hworker rfl]
      refine hrest.trans ?_
      rw [hworkers, List.set_set]

/-- The worker of a session works for the session at its own place. -/
theorem Conducts.own {l : Ledger} {self : Profile} {session : SessionHandle}
    (h : n.Conducts place worker l) (hworker : n.workers[place]? = some worker)
    (hown : (worker.brief self).own = some session) :
    session.queue = place ∧ n.Holds worker.host session ∧ ∀ origin, worker.origin = some origin →
      origin.session = place ∧ origin.position < (n.inboxOf place).length := by
  -- Only the worker of a session has a session of its own.
  have hduty := h.duty
  rw [Worker.brief] at hown
  cases hd : worker.duty with
  | session a =>
    rw [hd] at hduty
    rcases hduty with ⟨hqueue, horigin⟩
    simp only [Worker.seat?, hd, Option.map_some, Option.some.injEq] at hown
    subst hown
    refine ⟨hqueue, ?_, fun origin ho => ⟨(horigin origin ho).1, ?_⟩⟩
    · rw [Holds, hqueue]
      exact seat?_eq_some hworker hd
    · have hposition := (horigin origin ho).2
      simp only [inboxOf, hworker, Option.map_some, Option.getD_some, Worker.inbox, hd,
        List.length_append]
      omega
  | consumer w => simp only [Worker.seat?, hd, Option.map_none, reduceCtorEq] at hown
  | errand => simp only [Worker.seat?, hd, Option.map_none, reduceCtorEq] at hown

/-- What a worker that keeps the rules offers belongs where it goes. -/
theorem Conducts.belongs {l : Ledger} {self : Profile} {session : SessionHandle} {item : Outbound}
    (h : n.Conducts place worker l) (hworker : n.workers[place]? = some worker)
    (hallows : (worker.brief self).rules.allows l (.offer session item)) :
    n.Belongs { queue := session.queue, item, origin := worker.origin } := by
  cases item with
  | message m =>
    -- Messages go to sessions that were looked up.
    exact ⟨worker.host, session, h.found session hallows.1, hallows.2.1⟩
  | rejection r =>
    -- Rejections go to the session whose item is being handled.
    rcases h.own hworker hallows.1 with ⟨hqueue, hholds, horigin⟩
    have hsome : worker.origin.isSome = true := h.bound.symm.trans hallows.2
    rcases Option.isSome_iff_exists.1 hsome with ⟨origin, ho⟩
    rcases horigin origin ho with ⟨hsession, hposition⟩
    refine ⟨worker.host, session, hholds, origin, ho, ?_, ?_⟩
    · rw [hqueue, hsession]
    · rw [hqueue]
      exact hposition

/-- A reply is one that the rules count on. -/
theorem Tidy.possible (h : n.Tidy) (b : Brief) (host : Nat) (e : Effect) :
    b.rules.possible e (n.cluster.perform host e).1 := by
  cases e with
  | findSession user =>
    intro session hfind
    exact (h.directories host user session hfind).1
  | store call =>
    cases call with
    | members key =>
      -- That no set holds a name twice is needed here, so that no member of a room is served twice.
      intro names hnames
      exact h.sets.nodup_storeCall hnames
    | get | set | delete | expire | keys | addMember | removeMember => exact trivial
  | publish | clock | postmark | spareId | insertSession | removeSession | removeSessionIf
  | listSessions | countSessions | isOpen | offer | lifecycle | comeAlive | stop | setReady | warn
  | count | gaugeSessions => exact trivial

/-- The sessions that have been looked up are sessions of the instance. -/
theorem Conducts.found_after {l : Ledger} (h : n.Conducts place worker l) (htidy : n.Tidy)
    (e : Effect) : ∀ session ∈ (l.after e (n.cluster.perform worker.host e).1).found,
      n.Holds worker.host session := by
  intro session hsession
  cases e with
  | findSession user =>
    rcases List.mem_append.1 hsession with hnew | hold
    · exact (htidy.directories worker.host user session (Option.mem_toList.1 hnew)).2
    · exact h.found session hold
  | listSessions =>
    rcases List.mem_append.1 hsession with hnew | hold
    · rcases List.mem_map.1 hnew with ⟨⟨user, found⟩, hentry, rfl⟩
      have hfind := (Table.mem_iff_find? _ user found).1 hentry
      exact (htidy.directories worker.host user found hfind).2
    · exact h.found session hold
  | offer other item => cases item <;> exact h.found session hsession
  | publish | store | clock | postmark | spareId | insertSession | removeSession | removeSessionIf
  | countSessions | isOpen | lifecycle | comeAlive | stop | setReady | warn | count
  | gaugeSessions => exact h.found session hsession

theorem received_append {n' : Network} {o : Offered} (h : n'.offered = n.offered ++ [o])
    (queue : Nat) :
    n'.received queue = n.received queue ++ if o.queue = queue then [o] else [] := by
  rw [received, h, List.filter_append, List.filter_singleton]
  by_cases hqueue : o.queue = queue
  · simp only [hqueue, decide_true, cond_true, if_true, received]
  · simp only [hqueue, decide_false, cond_false, if_false, received]

section

variable (h : n.Sound ledgers) (hworker : n.workers[place]? = some worker) {self : Profile}
  (hallows : (worker.brief self).rules.allows (ledgers place) e)

include h hworker hallows

theorem Sound.directories_step (host : Nat) (user : UserId) (session : SessionHandle)
    (hfind : ((n.step place worker e next).cluster.directory host).find? user = some session) :
    session.user = user ∧ (n.step place worker e next).Holds host session := by
  have hlater : n.Later (n.step place worker e next) := later_step hworker
  -- Only the operation that greets a session puts it into the directory.
  rcases Cluster.find?_directory_perform hfind with hold | ⟨rfl, rfl, rfl⟩
  · rcases h.tidy.directories host user session hold with ⟨huser, hholds⟩
    exact ⟨huser, hlater.holds hholds⟩
  · exact ⟨rfl, hlater.holds ((h.workers place worker hworker).own hworker hallows).2.1⟩

theorem Sound.posted_step (p : Posted) (hp : p ∈ (n.step place worker e next).posted) :
    p.subscription < (n.step place worker e next).cluster.bus.nextId ∧
      (p.origin.isSome = true → frameAudience p.frame ≠ .everybody) := by
  have hold : p ∈ n.posted → p.subscription < n.cluster.bus.nextId ∧
      (p.origin.isSome = true → frameAudience p.frame ≠ .everybody) := h.tidy.posted p
  rcases posted_step_cases n place worker e next with ⟨topic, frame, rfl, hposted, hbus⟩ |
    ⟨hposted, hbus⟩
  · rw [hposted] at hp
    rw [hbus, (MemoryBus.publish_snd _ topic frame).2]
    rcases List.mem_append.1 hp with hp | hnew
    · exact hold hp
    · -- An operation that handles an item is bound, and may not publish for everybody.
      rcases List.mem_map.1 hnew with ⟨id, hid, rfl⟩
      refine ⟨MemoryBus.lt_nextId_of_mem_takers h.tidy.bus hid, fun hsome => ?_⟩
      exact (hallows ((h.workers place worker hworker).bound.trans hsome)).2.2.1
  · rw [hposted] at hp
    rw [hbus]
    exact hold hp

theorem Sound.offered_step (o : Offered) (ho : o ∈ (n.step place worker e next).offered) :
    (n.step place worker e next).Belongs o := by
  have hlater : n.Later (n.step place worker e next) := later_step hworker
  have hold : o ∈ n.offered → (n.step place worker e next).Belongs o :=
    fun ho => hlater.belongs (h.tidy.offered o ho)
  rcases offered_step_cases n place worker e next with ⟨session, item, _, rfl, _, hoffered, _⟩ |
    ⟨hoffered, _⟩
  · rw [hoffered] at ho
    rcases List.mem_append.1 ho with ho | hnew
    · exact hold ho
    · rw [List.mem_singleton.1 hnew]
      exact hlater.belongs ((h.workers place worker hworker).belongs hworker hallows)
  · rw [hoffered] at ho
    exact hold ho

omit hworker hallows in
theorem Sound.queues_step (queue : Nat) (box : Mailbox Outbound)
    (hbox : (n.step place worker e next).cluster.queues.find? queue = some box) :
    box.items <:+ ((n.step place worker e next).received queue).map Offered.item := by
  -- The queue and the record of what it took grow by the same item, at the same end.
  rcases offered_step_cases n place worker e next with
    ⟨session, item, old, rfl, hold, hoffered, hqueues⟩ | ⟨hoffered, hqueues⟩
  · rw [hqueues, Table.find?_insert] at hbox
    rw [received_append hoffered, List.map_append]
    by_cases hqueue : queue = session.queue
    · subst hqueue
      rw [if_pos rfl, Option.some.injEq] at hbox
      subst hbox
      rw [if_pos rfl, List.map_singleton, List.suffix_append_self_iff]
      exact h.tidy.queues _ old hold
    · rw [if_neg hqueue] at hbox
      rw [if_neg (Ne.symm hqueue), List.map_nil, List.append_nil]
      exact h.tidy.queues queue box hbox
  · rw [hqueues] at hbox
    rw [received, hoffered]
    exact h.tidy.queues queue box hbox

theorem Sound.tidy_step : (n.step place worker e next).Tidy where
  directories := h.directories_step hworker hallows
  hosts host profile hprofile := by
    rw [workers_step, List.length_set]
    exact h.tidy.hosts host profile ((Cluster.profile?_perform _ _ _ _).symm.trans hprofile)
  sets := Cluster.setsNodup_perform worker.host e h.tidy.sets
  bus := by
    rcases posted_step_cases n place worker e next with ⟨topic, frame, rfl, _, hbus⟩ | ⟨_, hbus⟩
    · rw [hbus]
      exact h.tidy.bus.publish topic frame
    · rw [hbus]
      exact h.tidy.bus
  posted := h.posted_step hworker hallows
  offered := h.offered_step hworker hallows
  queues := h.queues_step

end

-- Whether an operation is bound is settled when it starts.
theorem Ledger.bound_after (l : Ledger) (e : Effect) (reply : e.Reply) :
    (l.after e reply).bound = l.bound := by
  cases e with
  | offer session item => cases item <;> rfl
  | publish | findSession | listSessions | store | clock | postmark | spareId | insertSession
  | removeSession | removeSessionIf | countSessions | isOpen | lifecycle | comeAlive | stop
  | setReady | warn | count | gaugeSessions => rfl

-- A consumer gets a published frame at the end of what waits, or does not get it at all.
theorem Sound.awaits_step (h : n.Sound ledgers) {w : Watch} (hawaits : n.Awaits w) :
    (n.step place worker e next).Awaits w := by
  rcases posted_step_cases n place worker e next with ⟨_, _, rfl, hposted, hbus⟩ | ⟨hposted, hbus⟩
  · exact hawaits.publish h.tidy.bus hposted hbus
  · refine hawaits.of_waits hposted fun frames hw => ?_
    rw [hbus]
    exact hw

/-- A worker that keeps the rules takes a step. -/
theorem Sound.step (h : n.Sound ledgers) (hworker : n.workers[place]? = some worker)
    (hrest : worker.rest = .ask e next) :
    (n.step place worker e next).Sound (Function.update ledgers place
      ((ledgers place).after e (n.cluster.perform worker.host e).1)) := by
  have hconducts := h.workers place worker hworker
  have hlater : n.Later (n.step place worker e next) := later_step hworker
  have hget := getElem?_workers hworker (workers_step n place worker e next)
  rcases hconducts.obeys with ⟨self, hself, hobeys⟩
  rw [hrest] at hobeys
  refine h.shift hlater (h.tidy_step hworker hobeys.1)
    (fun other hne => (hget other).trans (if_neg hne)) (fun w hw => ?_)
    (fun _ _ _ _ hawaits => h.awaits_step hawaits) fun other w w' hne hw hw' => ?_
  · -- The rest of the operation obeys after any reply that is possible, and this one is.
    have heq := Option.some.inj (((hget place).trans (if_pos rfl)).symm.trans hw)
    subst heq
    refine ⟨⟨self, hlater.profiles _ _ hself, ?_⟩, fun session hsession => ?_, ?_, ?_⟩
    · exact hobeys.2 _ (h.tidy.possible _ worker.host e)
    · exact hlater.holds (hconducts.found_after h.tidy e session hsession)
    · rw [Ledger.bound_after]
      exact hconducts.bound
    · have hduty := hconducts.duty
      revert hduty
      cases worker.duty with
      | session a => exact id
      | consumer w => exact h.awaits_step
      | errand => exact id
  · have hwatch : n.watch? place = some w := by
      rw [watch?, hworker]
      have hget' : (n.step place worker e next).workers[place]? = _ :=
        (hget place).trans (if_pos rfl)
      rw [watch?, hget'] at hw
      exact hw
    exact fun heq => hne (h.apart other place w' w hw' hwatch heq.symm)

/-! ## A publication from outside -/

/-- Whoever publishes from outside serves nobody in particular, and may publish anything. -/
theorem Sound.publish (h : n.Sound ledgers) (topic : String) (frame : Bytes) :
    (n.act (.publish topic frame)).Sound ledgers := by
  have hbus : (n.act (.publish topic frame)).cluster.bus = (n.cluster.bus.publish topic frame).2 :=
    Cluster.bus_perform n.cluster 0 (.publish topic frame)
  have hqueues : (n.act (.publish topic frame)).cluster.queues = n.cluster.queues :=
    Cluster.queues_perform n.cluster 0 (.publish topic frame)
  have hprofiles : ∀ host, (n.act (.publish topic frame)).cluster.profile? host =
      n.cluster.profile? host :=
    fun host => Cluster.profile?_perform n.cluster 0 host (.publish topic frame)
  have hlater : n.Later (n.act (.publish topic frame)) :=
    later_of (fun _ w hw => ⟨w, hw, Stays.refl w⟩) fun host self hself =>
      (hprofiles host).trans hself
  have hposted : (n.act (.publish topic frame)).posted =
      n.posted ++ postedOn n.cluster.bus none topic frame := rfl
  refine ⟨⟨fun host user session hfind => ?_, fun host self hself => ?_, ?_, ?_, fun p hp => ?_,
    fun o ho => hlater.belongs (h.tidy.offered o ho), fun place box hbox => ?_⟩,
    fun place worker hworker => ?_, h.apart⟩
  · have hfind' : ((n.cluster.perform 0 (.publish topic frame)).2.directory host).find? user =
        some session := hfind
    rcases Cluster.find?_directory_perform hfind' with hold | ⟨_, hinsert, _⟩
    · exact h.tidy.directories host user session hold
    · exact absurd hinsert Effect.noConfusion
  · exact h.tidy.hosts host self ((hprofiles host).symm.trans hself)
  · exact Cluster.setsNodup_perform 0 (.publish topic frame) h.tidy.sets
  · rw [hbus]
    exact h.tidy.bus.publish topic frame
  · rw [hbus, (MemoryBus.publish_snd _ topic frame).2]
    rw [hposted] at hp
    rcases List.mem_append.1 hp with hold | hnew
    · exact h.tidy.posted p hold
    · rcases List.mem_map.1 hnew with ⟨id, hid, rfl⟩
      refine ⟨MemoryBus.lt_nextId_of_mem_takers h.tidy.bus hid, fun hsome => ?_⟩
      exact absurd hsome Bool.false_ne_true
  · rw [hqueues] at hbox
    exact h.tidy.queues place box hbox
  · exact hlater.conducts (h.workers place worker hworker) fun w _ hawaits =>
      hawaits.publish h.tidy.bus hposted hbus

end Network

end ChatCluster
