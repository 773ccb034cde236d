import ChatCluster.Proofs.Network.Direction

/-!
# Which Way Frames Go

In a cluster whose nodes have different names and use the standard topics, every frame that stems
from an item of a session goes to the topic of another instance than that of the session, and only
the own consumer of that other instance takes it in. So what reaches a session from one on its own
instance has come directly, and what reaches it from one on another instance has come through the
consumer of its own.

## Main definitions

* `Network.Crosses`: What stems from an item has come to another instance.
* `Network.Named`, `Network.Wired`: The nodes are told apart, and it always has.

## Theorems

* `Topics.ofInstance_injective`, `Topics.ofInstance_ne_broadcast`: Topics are told apart.
* `Network.Wired.passage`: All moves keep a network wired.
-/

namespace ChatCluster

theorem Topics.ofInstance_injective (t : Topics) {id id' : InstanceId}
    (h : t.ofInstance id = t.ofInstance id') : id = id' := by
  have hlists := congrArg String.toList h
  simp only [Topics.ofInstance, String.toList_append] at hlists
  have htext : id.text = id'.text := String.toList_inj.1 (List.append_cancel_left hlists)
  cases id
  cases id'
  exact congrArg InstanceId.mk htext

theorem Topics.ofInstance_ne_broadcast (id : InstanceId) :
    Topics.standard.ofInstance id ≠ Topics.standard.broadcast := by
  intro h
  have hlists := congrArg String.toList h
  simp only [Topics.ofInstance, Topics.standard, String.toList_append] at hlists
  -- The two differ in the sixth letter.
  have hletter := congrArg (fun l => l[5]?) hlists
  rw [List.getElem?_append_left (by decide)] at hletter
  exact absurd hletter (by decide)

namespace Network

/-- If it stems from an item, it stems from one of another instance, and the worker at the place is
    the own consumer of its instance. -/
def Crosses (n : Network) (place : Nat) (worker : Worker) (origin : Option Origin) : Prop :=
  ∀ o, origin = some o → worker.host = place ∧
    ∃ host session, n.seat? o.session = some (host, session) ∧ host ≠ place

/-- A consumer takes in notices, or what has come from other instances. -/
structure Wires (n : Network) (place : Nat) (worker : Worker) (w : Watch) : Prop where
  topic : w.topic = Topics.standard.broadcast ∨ worker.host = place ∧
    ∃ self, n.cluster.profile? place = some self ∧ w.topic = Topics.standard.ofInstance self.id
  posted : ∀ p ∈ n.posted, p.subscription = w.subscription → n.Crosses place worker p.origin
  inHand : n.Crosses place worker worker.origin

/-- The nodes have different names and use the standard topics. -/
structure Named (n : Network) : Prop where
  topics : ∀ host self, n.cluster.profile? host = some self → self.topics = .standard
  names : ∀ host host' self self', n.cluster.profile? host = some self →
    n.cluster.profile? host' = some self' → self.id = self'.id → host = host'

/-- Whatever stems from an item and is in the hands of a consumer, or waits for one, has come from
    another instance. -/
def Wired (n : Network) : Prop :=
  ∀ place worker w, n.workers[place]? = some worker → worker.duty = .consumer w →
    n.Wires place worker w

variable {n n' : Network} {ledgers : Nat → Ledger} {place : Nat} {worker : Worker} {e : Effect}
  {next : e.Reply → Operation Unit} {ledgers' : Nat → Ledger}

theorem Crosses.later {origin : Option Origin} (h : n.Crosses place worker origin)
    (hlater : n.Later n') : n'.Crosses place worker origin := by
  intro o ho
  rcases h o ho with ⟨hhost, host, session, hseat, hne⟩
  exact ⟨hhost, host, session, hlater.seats _ _ hseat, hne⟩

-- It has to be shown only for frames that are new, and only if they are for this consumer.
theorem Wires.later {w : Watch} (h : n.Wires place worker w) (hlater : n.Later n')
    (hposted : ∀ p ∈ n'.posted, p ∈ n.posted ∨
      (p.subscription = w.subscription → n.Crosses place worker p.origin)) :
    n'.Wires place worker w := by
  refine ⟨?_, fun p hp hsubscription => ?_, h.inHand.later hlater⟩
  · rcases h.topic with htopic | ⟨hhost, self, hself, htopic⟩
    · exact Or.inl htopic
    · exact Or.inr ⟨hhost, self, hlater.profiles _ _ hself, htopic⟩
  · rcases hposted p hp with hold | hnew
    · exact (h.posted p hold hsubscription).later hlater
    · exact (hnew hsubscription).later hlater

/-! ## Nodes -/

-- Turning to something else has nothing to do with configurations, whichever way it goes.
theorem profile?_turn (n : Network) (place : Nat) (worker : Worker) (host : Nat) :
    (n.turn place worker).cluster.profile? host = n.cluster.profile? host := by
  rw [turn]
  split
  · rfl
  · rw [turnConsumer]
    split
    · rfl
    · rfl
  · split
    · rfl
    · rw [turnSession]
      split
      · rfl
      · split
        · rfl
        · split
          · rfl
          · rfl
      · rfl
      · rfl

/-- Configurations change only when a node starts. -/
theorem profile?_act (n : Network) {move : Move} (h : move.started? = none) (host : Nat) :
    (n.act move).cluster.profile? host = n.cluster.profile? host := by
  cases move with
  | start profile clock queueCapacity => simp only [Move.started?, reduceCtorEq] at h
  | listen other =>
    rw [act, listen]
    split
    · rfl
    · rfl
  | chore other chore =>
    rw [act]
    split
    · rfl
    · rfl
  | attach other user =>
    rw [act, attach]
    split
    · rfl
    · rfl
  | send place item =>
    rw [act, updateAttendance]
    split
    · rfl
    · rfl
  | endInput place =>
    rw [act, updateAttendance]
    split
    · rfl
    · rfl
  | proceed place =>
    rw [act]
    split
    · rfl
    · split
      · exact profile?_turn n place _ host
      · exact Cluster.profile?_perform n.cluster _ host _
  | cancel place =>
    rw [act]
    split
    · rfl
    · rw [cancel]
      split
      · rfl
      · rfl
      · rfl
  | publish topic frame => exact Cluster.profile?_perform n.cluster 0 host (.publish topic frame)
  | setClock other time => exact Cluster.profile?_updateHost n.cluster other host fun _ => rfl
  | read | hangUp | callStore | setStore | setBus | wait | setWallClock => rfl

/-- A node keeps its configuration. -/
theorem Sound.profile?_act (h : n.Sound ledgers) (move : Move) {host : Nat} {self : Profile}
    (hself : n.cluster.profile? host = some self) :
    (n.act move).cluster.profile? host = some self := by
  cases hstarted : move.started? with
  | none => exact (n.profile?_act hstarted host).trans hself
  | some profile =>
    cases move with
    | start profile clock queueCapacity =>
      have hlt := h.tidy.hosts host self hself
      rw [Network.act, profile?_start, if_neg (Nat.ne_of_lt hlt), hself]
    | _ => simp only [Move.started?, reduceCtorEq] at hstarted

/-- A node that is there was there before, or has just started. -/
theorem profile?_act_cases {move : Move} {host : Nat} {self : Profile}
    (h : (n.act move).cluster.profile? host = some self) :
    n.cluster.profile? host = some self ∨
      host = n.workers.length ∧ move.started? = some self := by
  cases hstarted : move.started? with
  | none => exact Or.inl ((n.profile?_act hstarted host).symm.trans h)
  | some profile =>
    cases move with
    | start profile' clock queueCapacity =>
      rw [act, profile?_start] at h
      split at h
      · next hhost => exact Or.inr ⟨hhost, hstarted.symm.trans h⟩
      · exact Or.inl h
    | _ => simp only [Move.started?, reduceCtorEq] at hstarted

/-- The nodes remain told apart if one that starts has a name of its own. -/
theorem Named.act (h : n.Named) (move : Move)
    (htopics : ∀ profile, move.started? = some profile → profile.topics = .standard)
    (hnew : ∀ profile, move.started? = some profile → ∀ host self,
      n.cluster.profile? host = some self → self.id ≠ profile.id) : (n.act move).Named := by
  refine ⟨fun host self hself => ?_, fun host host' self self' hself hself' hid => ?_⟩
  · rcases profile?_act_cases hself with hold | ⟨_, hstarted⟩
    · exact h.topics host self hold
    · exact htopics self hstarted
  · rcases profile?_act_cases hself with hold | ⟨hhost, hstarted⟩
    · rcases profile?_act_cases hself' with hold' | ⟨_, hstarted'⟩
      · exact h.names host host' self self' hold hold' hid
      · exact absurd hid (hnew self' hstarted' host self hold)
    · rcases profile?_act_cases hself' with hold' | ⟨hhost', _⟩
      · exact absurd hid.symm (hnew self hstarted host' self' hold')
      · rw [hhost, hhost']

/-! ## Frames -/

/-- What a worker does next has no bearing on how it is wired. -/
theorem Wires.withRest {w : Watch} (h : n.Wires place worker w) (rest : Operation Unit) :
    n.Wires place { worker with rest } w :=
  ⟨h.topic, h.posted, h.inHand⟩

/-- A worker that handles an item publishes for other instances only, and nobody else listens. -/
theorem Wired.crosses_publish (h : n.Wired) (hnamed : n.Named) (hsound : n.Sound ledgers)
    (hworker : n.workers[place]? = some worker) {self : Profile}
    (hself : n.cluster.profile? worker.host = some self) {topic : String} {frame : Bytes}
    (hallows : (worker.brief self).rules.allows (ledgers place) (.publish topic frame))
    {other : Nat} {listener : Worker} {w : Watch} (hlistener : n.workers[other]? = some listener)
    (hduty : listener.duty = .consumer w) (htakes : w.subscription ∈ n.cluster.bus.takers topic) :
    n.Crosses other listener worker.origin := by
  intro o ho
  have hconducts := hsound.workers place worker hworker
  -- What stems from an item is published by the worker of its session, to another's topic.
  rcases hallows (by rw [hconducts.bound, ho]; rfl) with ⟨hown, ⟨owner, howner, htopic⟩, _⟩
  rcases Option.isSome_iff_exists.1 hown with ⟨session, hsession⟩
  rcases hconducts.own hworker hsession with ⟨hqueue, hholds, horigin⟩
  have hstandard : topic = Topics.standard.ofInstance owner := by
    rw [htopic, ← hnamed.topics worker.host self hself]
    rfl
  -- The listener takes the frame, so it listens to this topic and no other.
  have hwaits : n.Awaits w := hsound.awaits (watch?_eq_some hlistener hduty)
  have hsame : w.topic = topic := by
    rcases hwaits.waits with ⟨c, hc, s, hs, hid, _⟩
    rcases MemoryBus.mem_takers_iff.1 htakes with ⟨_, c', hc', s', hs', hid', _⟩
    exact hsound.tidy.bus.across w.topic c topic c' hc hc' s hs s' hs' (hid.trans hid'.symm)
  -- That topic is not the one for notices, so the listener is the own consumer of the owner.
  rcases (h other listener w hlistener hduty).topic with hbroadcast | ⟨hhost, self', hself', hid⟩
  · refine absurd ?_ (Topics.ofInstance_ne_broadcast owner)
    rw [← hstandard, ← hsame, hbroadcast]
  · have hlisteners : self'.id = owner :=
      Topics.standard.ofInstance_injective (by rw [← hid, hsame, hstandard])
    refine ⟨hhost, worker.host, session, ?_, fun heq => ?_⟩
    · rw [(horigin o ho).1, ← hqueue]
      exact hholds
    · rw [← heq, hself, Option.some.injEq] at hself'
      exact howner (by rw [← hlisteners, ← hself']; rfl)

/-- All moves keep a network wired. -/
theorem Wired.passage (h : n.Wired) (hnamed : n.Named) (hnamed' : n'.Named)
    (hsound : n.Sound ledgers) (hpassage : n.Passage ledgers n' ledgers') (hlater : n.Later n') :
    n'.Wired := by
  have hkeeps : ∀ other worker w, n.workers[other]? = some worker → worker.duty = .consumer w →
      n'.posted = n.posted → n'.Wires other worker w := by
    intro other worker w hget hduty hposted
    refine (h other worker w hget hduty).later hlater fun p hp => Or.inl ?_
    rw [← hposted]
    exact hp
  cases hpassage with
  | outside frames workers offered posted origins =>
    intro other worker w hget hduty
    rw [workers] at hget
    refine (h other worker w hget hduty).later hlater fun p hp => ?_
    rw [posted] at hp
    rcases List.mem_append.1 hp with hold | hnew
    · exact Or.inl hold
    · refine Or.inr fun _ o ho => ?_
      rw [origins p hnew] at ho
      simp only [reduceCtorEq] at ho
  | newcomer worker l workers offered posted arrives =>
    intro other worker' w hget hduty
    rw [workers] at hget
    by_cases hlt : other < n.workers.length
    · rw [List.getElem?_append_left hlt] at hget
      exact hkeeps other worker' w hget hduty posted
    · have hother : other = n.workers.length := by
        have hle := (List.getElem?_eq_some_iff.1 hget).1
        rw [List.length_append, List.length_singleton] at hle
        omega
      -- Nothing has been posted to a new subscription, and its consumer has taken nothing in.
      rw [hother, List.getElem?_concat_length, Option.some.injEq] at hget
      subst hget
      rcases arrives.watch w hduty with ⟨hfresh, self, hself, htopic⟩
      rw [hnamed'.topics _ self hself] at htopic
      refine ⟨?_, fun p hp hsubscription => ?_, fun o ho => ?_⟩
      · rcases htopic with hbroadcast | ⟨hhost, hinstance⟩
        · exact Or.inl hbroadcast
        · refine Or.inr ⟨hhost.trans hother.symm, self, ?_, hinstance⟩
          rw [hother, ← hhost]
          exact hself
      · rw [posted] at hp
        have hlt := (hsound.tidy.posted p hp).1
        omega
      · rw [arrives.origin] at ho
        simp only [reduceCtorEq] at ho
  | turned place worker worker' l old workers offered posted turns =>
    intro other listener w hget hduty
    have hset := hget.symm.trans (getElem?_workers old workers other)
    by_cases hother : other = place
    · rw [if_pos hother, Option.some.injEq] at hset
      have hnone := turns.watch
      rw [← hset, Worker.watch?, hduty] at hnone
      simp only [reduceCtorEq] at hnone
    · rw [if_neg hother] at hset
      exact hkeeps other listener w hset.symm hduty posted
  | took place worker worker' w p l old duty waiting workers host duty' origin due offered posted =>
    intro other listener w' hget hduty
    have hset := hget.symm.trans (getElem?_workers old workers other)
    by_cases hother : other = place
    · rw [if_pos hother, Option.some.injEq] at hset
      subst hset hother
      rw [duty', Duty.consumer.injEq] at hduty
      subst hduty
      have hwires := hkeeps other worker w old duty posted
      have hp : p ∈ n.postedTo w.subscription :=
        List.mem_of_mem_drop (List.mem_of_mem_head? waiting)
      rcases List.mem_filter.1 hp with ⟨hmem, hsubscription⟩
      -- What has waited has come from another instance, and now it is in hand.
      have hcross := hwires.posted p (by rw [posted]; exact hmem) (of_decide_eq_true hsubscription)
      refine ⟨?_, fun q hq hqs => ?_, ?_⟩
      · rw [host]
        exact hwires.topic
      · rw [Crosses, host]
        exact hwires.posted q hq hqs
      · rw [Crosses, host, origin]
        exact hcross
    · rw [if_neg hother] at hset
      exact hkeeps other listener w' hset.symm hduty posted
  | stepped place worker e next old rest =>
    have hobeys := (hsound.workers place worker old).obeys
    rw [rest] at hobeys
    rcases hobeys with ⟨self, hself, hallows, _⟩
    -- A step may publish, and then every listener that takes the frame is wired for it.
    have hlisteners : ∀ other listener w, n.workers[other]? = some listener →
        listener.duty = .consumer w → (n.step place worker e next).Wires other listener w := by
      intro other listener w hget hduty
      refine (h other listener w hget hduty).later hlater fun p hp => ?_
      rcases posted_step_cases n place worker e next with ⟨topic, frame, rfl, hposted, _⟩ |
        ⟨hposted, _⟩
      · rw [hposted] at hp
        rcases List.mem_append.1 hp with hold | hnew
        · exact Or.inl hold
        · rcases List.mem_map.1 hnew with ⟨id, hid, rfl⟩
          refine Or.inr fun hsubscription => ?_
          change id = w.subscription at hsubscription
          subst hsubscription
          exact h.crosses_publish hnamed hsound old hself hallows hget hduty hid
      · rw [hposted] at hp
        exact Or.inl hp
    intro other listener w hget hduty
    have hset := hget.symm.trans (getElem?_workers old (workers_step n place worker e next) other)
    by_cases hother : other = place
    · rw [if_pos hother, Option.some.injEq] at hset
      subst hset hother
      exact (hlisteners other worker w old hduty).withRest _
    · rw [if_neg hother] at hset
      exact hlisteners other listener w hset.symm hduty

end Network

end ChatCluster
