import ChatCluster.Proofs.Network.Path
import Mathlib.Data.List.Sort

/-!
# Everything in Order

What a session receives from another stems from the items of that other session in the order in
which they were handed in, and nothing stems from the same item twice.

What a step hands on is the item that is being handled, or what a consumer has in its hands. A
consumer moves it on along the way. For the worker of a session there are two cases. Either it
publishes a frame for another instance, and the item is put at the end of the way; or it hands a
message over within its own instance, and then nothing is on the way but what has arrived, since
frames go to other instances only. Within one item the receiver is served once, so the next thing
that is put on the way is a later item.

## Theorems

* `Network.Ordered.publish`, `Network.Ordered.offer`: What a step hands on.
* `Network.Ordered.passage`, `Network.Ordered.run`: All moves keep the ways in order.
* `Network.received_in_order`: What arrives is in order.
-/

namespace ChatCluster

namespace Network

variable {n n' : Network} {ledgers ledgers' : Nat → Ledger} {place : Nat} {worker : Worker}
  {e : Effect} {next : e.Reply → Operation Unit} {sender receiver host : Nat} {user : UserId}

/-! ## A step -/

-- The three lemmas say that a step leaves the worker as it was, up to the rest of what it is doing.
theorem getElem?_step (hworker : n.workers[place]? = some worker) (other : Nat) :
    (n.step place worker e next).workers[other]? =
      if other = place then some { worker with rest := next (n.cluster.perform worker.host e).1 }
      else n.workers[other]? :=
  getElem?_workers hworker (workers_step n place worker e next) other

theorem watch?_step (hworker : n.workers[place]? = some worker) (other : Nat) :
    (n.step place worker e next).watch? other = n.watch? other := by
  rw [watch?, watch?, getElem?_step hworker]
  by_cases hother : other = place
  · rw [if_pos hother, hother, hworker]
    rfl
  · rw [if_neg hother]

theorem carried?_step (hworker : n.workers[place]? = some worker) (other : Nat) :
    (n.step place worker e next).carried? other = n.carried? other := by
  rw [carried?, carried?, getElem?_step hworker]
  by_cases hother : other = place
  · rw [if_pos hother, hother, hworker]
    rfl
  · rw [if_neg hother]

/-- Whoever may be served after a step could be served before. -/
theorem Ledger.due_after {l : Ledger} {reply : e.Reply} (h : (l.after e reply).due user) :
    l.due user := by
  cases e with
  | offer session item =>
    cases item with
    | message m => exact h.1
    | rejection r => exact h
  | publish topic frame => exact h.1
  | findSession | listSessions | store | clock | postmark | spareId | insertSession | removeSession
  | removeSessionIf | countSessions | isOpen | lifecycle | comeAlive | stop | setReady | warn
  | count | gaugeSessions => exact h

/-- The ledgers after a step. -/
def ledgersAfter (n : Network) (ledgers : Nat → Ledger) (place : Nat) (worker : Worker)
    (e : Effect) : Nat → Ledger :=
  Function.update ledgers place ((ledgers place).after e (n.cluster.perform worker.host e).1)

theorem due_ledgersAfter {other : Nat}
    (h : (n.ledgersAfter ledgers place worker e other).due user) : (ledgers other).due user := by
  by_cases hother : other = place
  · subst hother
    rw [ledgersAfter, Function.update_self] at h
    exact Ledger.due_after h
  · rw [ledgersAfter, Function.update_of_ne hother] at h
    exact h

theorem inHand_step (hworker : n.workers[place]? = some worker) :
    ((n.step place worker e next).inHand (n.ledgersAfter ledgers place worker e) sender host
      user).Sublist (n.inHand ledgers sender host user) :=
  inHand_sublist fun _ hcarried hdue =>
    ⟨(carried?_step hworker host).symm.trans hcarried, due_ledgersAfter hdue⟩

theorem Below.step (hworker : n.workers[place]? = some worker) {x : Nat}
    (h : n.Below ledgers sender user x) :
    (n.step place worker e next).Below (n.ledgersAfter ledgers place worker e) sender user x := by
  by_cases hsender : sender = place
  · subst hsender
    rcases h with ⟨old, a, hget, hduty, hlt, hlast⟩
    rw [hworker, Option.some.injEq] at hget
    subst hget
    exact ⟨_, a, (getElem?_step hworker sender).trans (if_pos rfl), hduty, hlt,
      fun o ho hdue => hlast o ho (due_ledgersAfter hdue)⟩
  · exact h.of_worker ((getElem?_step hworker sender).trans (if_neg hsender)) due_ledgersAfter

/-! ## Within an instance -/

theorem exists_of_carried?_eq_some {o : Origin} (h : n.carried? place = some o) :
    ∃ worker w, n.workers[place]? = some worker ∧ worker.duty = .consumer w ∧
      worker.origin = some o := by
  rcases Option.bind_eq_some_iff.1 h with ⟨worker, hworker, ho⟩
  split at ho
  · next hwatch =>
    rcases Option.isSome_iff_exists.1 hwatch with ⟨w, hw⟩
    have hplace : n.watch? place = some w := by rw [watch?, hworker, Option.bind_some, hw]
    rcases exists_of_watch?_eq_some hplace with ⟨worker', hworker', hduty⟩
    rw [hworker, Option.some.injEq] at hworker'
    exact ⟨worker, w, hworker, hworker' ▸ hduty, ho⟩
  · simp only [reduceCtorEq] at ho

theorem exists_of_mem_waiting {p : Posted} (h : p ∈ n.waiting place) :
    ∃ worker w, n.workers[place]? = some worker ∧ worker.duty = .consumer w ∧ p ∈ n.posted ∧
      p.subscription = w.subscription := by
  rw [waiting] at h
  cases hw : n.watch? place with
  | none =>
    rw [hw] at h
    exact absurd h List.not_mem_nil
  | some w =>
    rw [hw] at h
    rcases exists_of_watch?_eq_some hw with ⟨worker, hworker, hduty⟩
    rcases List.mem_filter.1 (List.mem_of_mem_drop h) with ⟨hposted, hsubscription⟩
    exact ⟨worker, w, hworker, hduty, hposted, of_decide_eq_true hsubscription⟩

/-- What crosses to an instance is from none of its own sessions. -/
theorem Crosses.positionIn?_eq_none {origin : Option Origin}
    (h : n.Crosses place worker origin) {session : SessionHandle}
    (hseat : n.seat? sender = some (place, session)) :
    (origin.bind fun o => o.positionIn? sender) = none := by
  cases origin with
  | none => rfl
  | some o =>
    rcases h o rfl with ⟨_, host', session', hseat', hne⟩
    rw [Option.bind_some, Origin.positionIn?, if_neg]
    rintro rfl
    rw [hseat, Option.some.injEq, Prod.mk.injEq] at hseat'
    exact hne hseat'.1.symm

/-- Nothing of a session passes through the consumer of its own instance. -/
theorem Wired.inHand_eq_nil (h : n.Wired) {session : SessionHandle}
    (hseat : n.seat? sender = some (host, session)) (ledgers : Nat → Ledger) (user : UserId) :
    n.inHand ledgers sender host user = [] := by
  unfold inHand
  split
  · cases hcarried : n.carried? host with
    | none => rfl
    | some o =>
      rcases exists_of_carried?_eq_some hcarried with ⟨worker, w, hworker, hduty, ho⟩
      have hcrosses := (h host worker w hworker hduty).inHand
      rw [ho] at hcrosses
      rw [hcrosses.positionIn?_eq_none hseat]
      rfl
  · rfl

/-- Nothing of a session waits for the consumer of its own instance. -/
theorem Wired.pending_eq_nil (h : n.Wired) {session : SessionHandle}
    (hseat : n.seat? sender = some (host, session)) (user : UserId) :
    n.pending sender host user = [] := by
  rw [pending, List.filterMap_eq_nil_iff]
  intro p hp
  rcases exists_of_mem_waiting hp with ⟨worker, w, hworker, hduty, hposted, hsubscription⟩
  have hcrosses := (h host worker w hworker hduty).posted p hposted hsubscription
  rw [Posted.position?, framePosition?, hcrosses.positionIn?_eq_none hseat, ite_self]

/-! ## What is handed on -/

/-- A worker of a session that handles an item handles the one that it has taken last. -/
theorem Conducts.item {l : Ledger} {self : Profile} {o : Origin} (h : n.Conducts place worker l)
    (ho : worker.origin = some o) (hown : (worker.brief self).own.isSome = true) :
    o.session = place ∧ ∃ a, worker.duty = .session a ∧ o.position + 1 = a.taken.length := by
  have hduty := h.duty
  rw [Worker.brief] at hown
  cases hd : worker.duty with
  | session a =>
    rw [hd] at hduty
    rcases hduty.2 o ho with ⟨hsession, hposition⟩
    exact ⟨hsession, a, rfl, hposition⟩
  | consumer w => simp only [Worker.seat?, hd, Option.map_none, Option.isSome_none,
      Bool.false_eq_true] at hown
  | errand => simp only [Worker.seat?, hd, Option.map_none, Option.isSome_none,
      Bool.false_eq_true] at hown

/-- The item that is being handled is put at the end of the way, and its receiver is served. -/
theorem InOrder.handOn {o : Origin} {positions : List Nat} {a : Attendance}
    (h : n.InOrder ledgers sender user positions) (hworker : n.workers[sender]? = some worker)
    (hduty : worker.duty = .session a) (ho : worker.origin = some o)
    (hposition : o.position + 1 = a.taken.length) (hdue : (ledgers sender).due user)
    (hserved : ¬(n.ledgersAfter ledgers sender worker e sender).due user) :
    (n.step sender worker e next).InOrder (n.ledgersAfter ledgers sender worker e) sender user
      (positions ++ [o.position]) := by
  refine h.concat (fun x hx => hx.step hworker) (fun x hx => ?_) ?_
  · -- The user was still to be served, so all that is on the way stems from earlier items.
    rcases h.below x hx with ⟨old, _, hget, _, _, hlast⟩
    rw [hworker, Option.some.injEq] at hget
    subst hget
    exact hlast o ho hdue
  · refine ⟨_, a, (getElem?_step hworker sender).trans (if_pos rfl), hduty, by omega,
      fun _ _ hd => absurd hd hserved⟩

/-- A step that puts nothing on the way of a session's items. -/
theorem InOrder.step (h : n.InOrder ledgers sender user (n.path ledgers sender receiver host user))
    (hworker : n.workers[place]? = some worker)
    (hdelivered : (n.step place worker e next).delivered sender receiver =
      n.delivered sender receiver)
    (hpending : (n.step place worker e next).pending sender host user =
      n.pending sender host user) :
    (n.step place worker e next).InOrder (n.ledgersAfter ledgers place worker e) sender user
      ((n.step place worker e next).path (n.ledgersAfter ledgers place worker e) sender receiver
        host user) := by
  refine h.sublist (path_sublist hdelivered (inHand_step hworker) ?_) fun x hx => hx.step hworker
  rw [hpending]

/-- What waits after a publication. -/
theorem Sound.pending_publish (hsound : n.Sound ledgers) {topic : String} {frame : Bytes}
    (hworker : n.workers[place]? = some worker)
    (hposted : (n.step place worker e next).posted =
      n.posted ++ postedOn n.cluster.bus worker.origin topic frame) (sender host : Nat)
    (user : UserId) :
    (n.step place worker e next).pending sender host user = n.pending sender host user ∨
      (n.step place worker e next).pending sender host user =
        n.pending sender host user ++ (framePosition? sender user frame worker.origin).toList := by
  have hwatch : (n.step place worker e next).watch? host = n.watch? host := watch?_step hworker host
  rw [pending, pending]
  cases hw : n.watch? host with
  | none =>
    refine Or.inl ?_
    rw [waiting, waiting, hwatch, hw]
  | some w =>
    rw [hsound.waiting_append hw (hwatch.trans hw) hposted, filter_postedOn hsound.tidy.bus,
      List.filterMap_append]
    split
    · refine Or.inr ?_
      rw [List.filterMap_cons, List.filterMap_nil, Posted.position?]
      cases framePosition? sender user frame worker.origin <;> rfl
    · refine Or.inl ?_
      rw [List.filterMap_nil, List.append_nil]

-- A frame is put on one way only: that of the worker's own items to the user it is for, on the
-- instance whose topic it goes to. The rules say that this user was still to be served.
theorem Ordered.publish (h : n.Ordered ledgers) (hsound : n.Sound ledgers) {topic : String}
    {frame : Bytes} {next : (Effect.publish topic frame).Reply → Operation Unit}
    (hworker : n.workers[place]? = some worker)
    (hrest : worker.rest = .ask (.publish topic frame) next) :
    (n.step place worker (.publish topic frame) next).Ordered
      (n.ledgersAfter ledgers place worker (.publish topic frame)) := by
  intro sender receiver host user hfits
  have hpath := h sender receiver host user (hfits.earlier (later_step hworker))
  have hdelivered : (n.step place worker (.publish topic frame) next).delivered sender receiver =
      n.delivered sender receiver := delivered_eq (List.append_nil _)
  have hposted : (n.step place worker (.publish topic frame) next).posted =
      n.posted ++ postedOn n.cluster.bus worker.origin topic frame := rfl
  -- The frame goes on this way only if the consumer takes it, it is for the user, and the item is
  -- one of the sender.
  rcases hsound.pending_publish hworker hposted sender host user with hsame | hmore
  · exact hpath.step hworker hdelivered hsame
  · cases hitem : framePosition? sender user frame worker.origin with
    | none =>
      rw [hitem, Option.toList_none, List.append_nil] at hmore
      exact hpath.step hworker hdelivered hmore
    | some position =>
      rw [hitem, Option.toList_some] at hmore
      rw [framePosition?] at hitem
      split at hitem
      · next haudience =>
        rcases Option.bind_eq_some_iff.1 hitem with ⟨o, ho, hin⟩
        rw [Origin.positionIn?] at hin
        split at hin
        · next hsession =>
          rw [Option.some.injEq] at hin
          subst hin
          have hconducts := hsound.workers place worker hworker
          rcases hconducts.obeys with ⟨self, _, hobeys⟩
          rw [hrest] at hobeys
          rcases hobeys.1 (by rw [hconducts.bound, ho]; rfl) with ⟨hown, _, _, hdue⟩
          rcases hconducts.item ho hown with ⟨hplace, a, hduty, hposition⟩
          -- So it is the sender itself that publishes, and it has not served the user yet.
          have hsender : sender = place := hsession.symm.trans hplace
          subst hsender
          have hserved : ¬(n.ledgersAfter ledgers sender worker (.publish topic frame) sender).due
              user := by
            rw [ledgersAfter, Function.update_self]
            exact fun hd => hd.2 haudience
          refine (hpath.handOn hworker hduty ho hposition (hdue user haudience) hserved).sublist ?_
            fun _ hx => hx
          rw [path, path, hdelivered, hmore, List.append_assoc, List.append_assoc]
          exact ((inHand_step hworker).append_right _).append_left _
        · simp only [reduceCtorEq] at hin
      · simp only [reduceCtorEq] at hitem

theorem delivered_append {o : Offered} (hoffered : n'.offered = n.offered ++ [o])
    (sender receiver : Nat) :
    n'.delivered sender receiver = n.delivered sender receiver ++
      if o.queue = receiver then (o.position? sender).toList else [] := by
  rw [delivered, delivered, received_append hoffered, List.filterMap_append]
  congr 1
  split
  · rw [List.filterMap_cons, List.filterMap_nil]
    cases o.position? sender <;> rfl
  · rfl

/-- A message that stems from an item is handed over by the worker of the item's session, within
    its instance, or by the consumer of the receiver's instance. -/
theorem InOrder.handOver (hsound : n.Sound ledgers) (hwired : n.Wired) {session : SessionHandle}
    {m : Message} {next : (Effect.offer session (.message m)).Reply → Operation Unit} {o : Origin}
    (h : n.InOrder ledgers o.session session.user
      (n.path ledgers o.session receiver worker.host session.user))
    (hworker : n.workers[place]? = some worker) (ho : worker.origin = some o)
    (hdue : (ledgers place).due session.user)
    (hdelivered : (n.step place worker (.offer session (.message m)) next).delivered o.session
      receiver = n.delivered o.session receiver ++ [o.position])
    (hpending : (n.step place worker (.offer session (.message m)) next).pending o.session
      worker.host session.user = n.pending o.session worker.host session.user) :
    (n.step place worker (.offer session (.message m)) next).InOrder
      (n.ledgersAfter ledgers place worker (.offer session (.message m))) o.session session.user
      ((n.step place worker (.offer session (.message m)) next).path
        (n.ledgersAfter ledgers place worker (.offer session (.message m))) o.session receiver
        worker.host session.user) := by
  have hserved : ¬(n.ledgersAfter ledgers place worker (.offer session (.message m)) place).due
      session.user := by
    rw [ledgersAfter, Function.update_self]
    exact fun hd => hd.2 rfl
  have hduty := (hsound.workers place worker hworker).duty
  cases hd : worker.duty with
  | errand =>
    rw [hd] at hduty
    rw [hduty] at ho
    simp only [reduceCtorEq] at ho
  | session a =>
    rw [hd] at hduty
    rcases hduty.2 o ho with ⟨hplace, hposition⟩
    have hseat : n.seat? o.session = some (worker.host, a.session) := by
      rw [hplace]
      exact seat?_eq_some hworker hd
    -- Within an instance all that is on the way has arrived.
    have hinHand := hwired.inHand_eq_nil hseat ledgers session.user
    have hnothing := hwired.pending_eq_nil hseat session.user
    subst hplace
    refine (h.handOn hworker hd ho hposition hdue hserved).sublist ?_ fun _ hx => hx
    have hnone : (n.step o.session worker (.offer session (.message m)) next).inHand
        (n.ledgersAfter ledgers o.session worker (.offer session (.message m))) o.session
        worker.host session.user = [] :=
      List.sublist_nil.1 (hinHand ▸ inHand_step hworker)
    rw [path, path, hdelivered, hpending, hinHand, hnothing, hnone, List.append_nil,
      List.append_nil, List.append_nil]
  | consumer w =>
    -- The item goes from the hands of the consumer to the receiver.
    have hhost := (((hwired place worker w hworker hd).inHand) o ho).1
    refine h.sublist ?_ fun x hx => hx.step hworker
    have hbefore : n.inHand ledgers o.session worker.host session.user = [o.position] := by
      rw [inHand, hhost, if_pos hdue, carried?, hworker, Option.bind_some, Worker.watch?, hd,
        Option.isSome_some, if_pos rfl, ho, Option.bind_some, Origin.positionIn?, if_pos rfl]
      rfl
    have hafter : (n.step place worker (.offer session (.message m)) next).inHand
        (n.ledgersAfter ledgers place worker (.offer session (.message m))) o.session worker.host
        session.user = [] := by
      rw [inHand, hhost, if_neg hserved]
    rw [path, path, hdelivered, hpending, hbefore, hafter, List.nil_append, List.append_assoc]

theorem Ordered.offer (h : n.Ordered ledgers) (hsound : n.Sound ledgers) (hwired : n.Wired)
    {session : SessionHandle} {item : Outbound}
    {next : (Effect.offer session item).Reply → Operation Unit}
    (hworker : n.workers[place]? = some worker)
    (hrest : worker.rest = .ask (.offer session item) next)
    (hposted : (n.step place worker (.offer session item) next).posted = n.posted)
    (hoffered : (n.step place worker (.offer session item) next).offered =
      n.offered ++ [{ queue := session.queue, item, origin := worker.origin }]) :
    (n.step place worker (.offer session item) next).Ordered
      (n.ledgersAfter ledgers place worker (.offer session item)) := by
  intro sender receiver host user hfits
  have hearlier : n.Fits receiver host user := hfits.earlier (later_step hworker)
  have hpath := h sender receiver host user hearlier
  have hpending : (n.step place worker (.offer session item) next).pending sender host user =
      n.pending sender host user := by
    rw [pending, pending, waiting_eq (watch?_step hworker host) hposted]
  have hdelivered := delivered_append hoffered sender receiver
  by_cases hqueue : session.queue = receiver
  · rw [if_pos hqueue] at hdelivered
    cases hitem : Offered.position? sender { queue := session.queue, item, origin := worker.origin }
    with
    | none =>
      rw [hitem, Option.toList_none, List.append_nil] at hdelivered
      exact hpath.step hworker hdelivered hpending
    | some position =>
      rw [hitem, Option.toList_some] at hdelivered
      cases item with
      | rejection r => simp only [Offered.position?, reduceCtorEq] at hitem
      | message m =>
        rw [Offered.position?] at hitem
        rcases Option.bind_eq_some_iff.1 hitem with ⟨o, ho, hin⟩
        change worker.origin = some o at ho
        rw [Origin.positionIn?] at hin
        split at hin
        · next hsession =>
          rw [Option.some.injEq] at hin
          subst hin hsession
          have hconducts := hsound.workers place worker hworker
          rcases hconducts.obeys with ⟨self, _, hobeys⟩
          rw [hrest] at hobeys
          rcases hobeys.1 with ⟨hfound, _, hdue⟩
          -- The session that was looked up is the receiver, and it sits where the way leads to.
          have hholds := hconducts.found session hfound
          rw [Holds, hqueue] at hholds
          rcases hearlier _ hholds with ⟨hhost, huser⟩
          subst hhost huser
          exact hpath.handOver hsound hwired hworker ho (hdue (by rw [hconducts.bound, ho]; rfl))
            hdelivered hpending
        · simp only [reduceCtorEq] at hin
  · rw [if_neg hqueue, List.append_nil] at hdelivered
    exact hpath.step hworker hdelivered hpending

/-- All moves keep all ways in order. -/
theorem Ordered.passage (h : n.Ordered ledgers) (hsound : n.Sound ledgers) (hwired : n.Wired)
    (hpassage : n.Passage ledgers n' ledgers') (hlater : n.Later n') : n'.Ordered ledgers' := by
  cases hpassage with
  | outside frames workers offered posted origins =>
    exact h.outside hsound hlater workers offered posted origins
  | newcomer worker l workers offered posted arrives =>
    exact h.newcomer hsound hlater workers offered posted arrives
  | turned place worker worker' l old workers offered posted turns =>
    exact h.turned hlater old workers offered posted turns
  | took place worker worker' w p l old duty waiting workers host duty' origin due offered posted =>
    exact h.took hlater old duty waiting workers duty' origin due offered posted
  | stepped place worker e next old rest =>
    rcases posted_step_cases n place worker e next with ⟨topic, frame, rfl, _⟩ | ⟨hposted, _⟩
    · exact h.publish hsound old rest
    · rcases offered_step_cases n place worker e next with ⟨session, item, _, rfl, _, hoffered, _⟩ |
        ⟨hoffered, _⟩
      · exact h.offer hsound hwired old rest hposted hoffered
      · intro sender receiver host user hfits
        refine (h sender receiver host user (hfits.earlier hlater)).step old
          (delivered_eq hoffered) ?_
        rw [pending, pending, waiting_eq (watch?_step old host) hposted]

/-! ## Runs -/

-- Nothing is on its way where nobody is.
theorem ordered_new (opTimeout busCapacity : Nat) (wallClock : Int64) (ledgers : Nat → Ledger) :
    (new opTimeout busCapacity wallClock).Ordered ledgers := by
  intro sender receiver host user _
  have hnothing :
      (new opTimeout busCapacity wallClock).path ledgers sender receiver host user = [] := by
    have hcarried : (new opTimeout busCapacity wallClock).carried? host = none := rfl
    have hpending : (new opTimeout busCapacity wallClock).pending sender host user = [] := rfl
    have hdelivered : (new opTimeout busCapacity wallClock).delivered sender receiver = [] := rfl
    rw [path, inHand, hcarried, hpending, hdelivered, Option.bind_none, Option.toList_none,
      ite_self]
    rfl
  rw [hnothing]
  exact ⟨List.Pairwise.nil, fun x hx => absurd hx List.not_mem_nil⟩

/-- Whatever happens, so long as the nodes that start have the standard topics and new names. -/
theorem Ordered.run (h : n.Ordered ledgers) (hsound : n.Sound ledgers) (hnamed : n.Named)
    (hwired : n.Wired) {moves : List Move}
    (htopics : ∀ profile ∈ moves.filterMap Move.started?, profile.topics = .standard)
    (hnames : ((moves.filterMap Move.started?).map Profile.id).Nodup)
    (hnew : ∀ host self, n.cluster.profile? host = some self →
      self.id ∉ (moves.filterMap Move.started?).map Profile.id) :
    ∃ ledgers', (n.run moves).Sound ledgers' ∧ (n.run moves).Ordered ledgers' := by
  induction moves generalizing n ledgers with
  | nil => exact ⟨ledgers, hsound, h⟩
  | cons move moves ih =>
    -- One move, and then the others, among which no node starts that is there already.
    rcases hsound.act move with ⟨ledgers', hpassage, hsound'⟩
    have hlater : n.Later (n.act move) :=
      hpassage.later fun host self hself => hsound.profile?_act move hself
    have hstarts : ∀ profile, move.started? = some profile →
        profile ∈ (move :: moves).filterMap Move.started? :=
      fun profile hstarted => List.mem_filterMap.2 ⟨move, List.mem_cons_self, hstarted⟩
    have hrest : ((moves.filterMap Move.started?).map Profile.id).Sublist
        (((move :: moves).filterMap Move.started?).map Profile.id) :=
      ((List.sublist_cons_self move moves).filterMap _).map _
    have hnamed' : (n.act move).Named := by
      refine hnamed.act move (fun profile hstarted => htopics profile (hstarts profile hstarted)) ?_
      intro profile hstarted host self hself heq
      exact hnew host self hself (heq ▸ List.mem_map_of_mem (hstarts profile hstarted))
    refine ih (h.passage hsound hwired hpassage hlater) hsound' hnamed'
      (hwired.passage hnamed hnamed' hsound hpassage hlater) (fun profile hprofile => ?_)
      (hnames.sublist hrest) fun host self hself => ?_
    · exact htopics profile (((List.sublist_cons_self move moves).filterMap _).subset hprofile)
    · rcases profile?_act_cases hself with hold | ⟨_, hstarted⟩
      · exact fun hmem => hnew host self hold (hrest.subset hmem)
      · rw [List.filterMap_cons_some hstarted, List.map_cons, List.nodup_cons] at hnames
        exact hnames.1

/-- In a cluster of nodes with different names and the standard topics, whatever happens and in
    whatever order, the messages that a session receives from another stem from items of the other's
    inbox in the order in which they were handed in, and no two of them stem from the same item. -/
theorem received_in_order (opTimeout busCapacity : Nat) (wallClock : Int64) (moves : List Move)
    (htopics : ∀ profile ∈ moves.filterMap Move.started?, profile.topics = .standard)
    (hnames : ((moves.filterMap Move.started?).map Profile.id).Nodup) :
    let n := (new opTimeout busCapacity wallClock).run moves
    ∀ sender receiver,
      (∀ box, n.cluster.queues.find? receiver = some box →
        box.items <:+ (n.received receiver).map Offered.item) ∧
      ((n.received receiver).filterMap (Offered.position? sender)).Sublist
        (List.range (n.inboxOf sender).length) := by
  intro n sender receiver
  have hnobody : ∀ host self,
      (new opTimeout busCapacity wallClock).cluster.profile? host ≠ some self := by
    intro host self hself
    simp only [new, Cluster.new, Cluster.profile?, Table.find?_empty, Option.map_none,
      reduceCtorEq] at hself
  have hnamed : (new opTimeout busCapacity wallClock).Named :=
    ⟨fun host self hself => absurd hself (hnobody host self),
      fun host _ self _ hself => absurd hself (hnobody host self)⟩
  have hwired : (new opTimeout busCapacity wallClock).Wired := by
    intro place worker w hworker
    simp only [new, List.getElem?_nil, reduceCtorEq] at hworker
  rcases (ordered_new opTimeout busCapacity wallClock fun _ => .blank false).run (sound_new _ _ _ _)
    hnamed hwired htopics hnames fun host self hself => absurd hself (hnobody host self) with
    ⟨ledgers, hsound, hordered⟩
  refine ⟨fun box hbox => hsound.tidy.queues receiver box hbox, ?_⟩
  -- The session at the place decides which way is meant; if there is none, any will do.
  have hfits : ∃ host user, n.Fits receiver host user := by
    cases hseat : n.seat? receiver with
    | none => exact ⟨0, default, fun seat h => by simp only [hseat, reduceCtorEq] at h⟩
    | some seat =>
      refine ⟨seat.1, seat.2.user, fun other h => ?_⟩
      rw [hseat, Option.some.injEq] at h
      rw [h]
      exact ⟨rfl, rfl⟩
  rcases hfits with ⟨host, user, hfits⟩
  have horder := (hordered sender receiver host user hfits).sublist
    (List.sublist_append_left _ _) fun _ hx => hx
  refine List.sublist_of_subperm_of_pairwise (List.subperm_of_subset ?_ fun x hx => ?_)
    horder.ascending List.pairwise_lt_range
  · exact horder.ascending.imp Nat.ne_of_lt
  · exact List.mem_range.2 (horder.below x hx).lt_inbox

/-- Two nodes and a session on each. One of them writes to the other twice, its items are handled,
    and the other's node takes the frames in. -/
def correspondence : List Move :=
  [.start (.standard ⟨"north"⟩) 0 8, .start (.standard ⟨"south"⟩) 0 8, .attach 0 ⟨"ann"⟩,
    .attach 1 ⟨"ben"⟩] ++ List.replicate 5 (.proceed 3) ++
  List.replicate 2 (.send 2 (.draft { Draft.empty with receiver := some "ben" })) ++
  List.replicate 28 (.proceed 2) ++ List.replicate 10 (.proceed 1)

theorem received_in_order_correspondence :
    (∀ profile ∈ correspondence.filterMap Move.started?, profile.topics = .standard) ∧
    ((correspondence.filterMap Move.started?).map Profile.id).Nodup ∧
    (((new 100 16 0).run correspondence).received 3).filterMap (Offered.position? 2) = [0, 1] ∧
    ((((new 100 16 0).run correspondence).received 3).filterMap (Offered.position? 2)).Sublist
      (List.range (((new 100 16 0).run correspondence).inboxOf 2).length) := by
  have hstarted : correspondence.filterMap Move.started? =
      [.standard ⟨"north"⟩, .standard ⟨"south"⟩] := rfl
  have htopics :
      ∀ profile ∈ correspondence.filterMap Move.started?, profile.topics = .standard := by
    rw [hstarted]
    intro profile hprofile
    rcases List.mem_cons.1 hprofile with rfl | hprofile
    · rfl
    · rw [List.mem_singleton.1 hprofile]
      rfl
  have hnames : ((correspondence.filterMap Move.started?).map Profile.id).Nodup := by
    rw [hstarted]
    decide
  refine ⟨htopics, hnames, ?_, (received_in_order 100 16 0 correspondence htopics hnames 2 3).2⟩
  -- Both messages arrive.
  decide +kernel

end Network

end ChatCluster
