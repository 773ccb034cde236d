import ChatCluster.Proofs.Instance.Delivery
import ChatCluster.Proofs.Network.State
import Mathlib.Logic.Function.Basic

/-!
# Sound Networks

An invariant of networks. Its core is that everybody keeps the rules of delivery in what is left of
what they are doing (`Network.Conducts`), which goes on holding while others act because the rules
do not speak of the state. What else is needed is that the rules are about something: the sessions
that an operation has looked up are sessions of its instance, and the frames that a consumer takes
in are those that were put there for it, in that order.

All moves but two hand nothing on. What they leave alone is said once (`Cluster.Calm`), and each of
them changes at most one worker (`Sound.shift`). The two that do hand something on, a step of a
worker and a publication from outside, come after that.

## Main definitions

* `Network.Belongs`: What was taken into an outbound queue was for it.
* `Network.Awaits`: What waits for a consumer.
* `Network.Conducts`: A worker keeps the rules.
* `Network.Sound`: The invariant.
* `Network.Later`: What only grows.

## Theorems

* `Network.Sound.shift`: One worker changes and the others do not notice.
-/

namespace ChatCluster

/-- For whom a worker works. -/
def Worker.brief (worker : Worker) (self : Profile) : Brief where
  router := self.router
  own := worker.seat?.map Prod.snd

namespace Network

/-- The session is one of the instance. -/
def Holds (n : Network) (host : Nat) (session : SessionHandle) : Prop :=
  n.seat? session.queue = some (host, session)

/-- What was taken into an outbound queue belongs there: the queue is that of a session, a message
    is a notice or addressed to its user, and a rejection stems from an item of its own inbox. -/
def Belongs (n : Network) (o : Offered) : Prop :=
  ∃ host session, n.seat? o.queue = some (host, session) ∧
    match o.item with
    | .message m => m.kind.isBroadcast = true ∨ m.receiver = some session.user
    | .rejection _ => ∃ origin, o.origin = some origin ∧ origin.session = o.queue ∧
        origin.position < (n.inboxOf o.queue).length

/-- The subscription of the worker at a place. -/
def watch? (n : Network) (place : Nat) : Option Watch :=
  (n.workers[place]?).bind Worker.watch?

/-- The frames that wait for a consumer are those that it has not yet taken in. -/
structure Awaits (n : Network) (w : Watch) : Prop where
  taken_le : w.taken ≤ (n.postedTo w.subscription).length
  waits : n.cluster.bus.Waits w.subscription w.topic
    (((n.postedTo w.subscription).drop w.taken).map Posted.frame)

/-- A worker keeps the rules in what is left of what it is doing, and what it is doing stems from
    the item that it has taken last. -/
structure Conducts (n : Network) (place : Nat) (worker : Worker) (l : Ledger) : Prop where
  obeys : ∃ self, n.cluster.profile? worker.host = some self ∧
    (worker.brief self).rules.Obeys l worker.rest fun _ _ => True
  found : ∀ session ∈ l.found, n.Holds worker.host session
  bound : l.bound = worker.origin.isSome
  duty :
    match worker.duty with
    | .session a => a.session.queue = place ∧ ∀ origin, worker.origin = some origin →
        origin.session = place ∧ origin.position + 1 = a.taken.length
    | .consumer w => n.Awaits w
    | .errand => worker.origin = none

/-- What holds of the parts that workers share. -/
structure Tidy (n : Network) : Prop where
  /-- A directory holds sessions of its instance, under the names of their users. -/
  directories : ∀ host user session, (n.cluster.directory host).find? user = some session →
    session.user = user ∧ n.Holds host session
  /-- An instance goes by the place of a worker. -/
  hosts : ∀ host self, n.cluster.profile? host = some self → host < n.workers.length
  /-- No set of the store holds a name twice. -/
  sets : n.cluster.store.slots.SetsNodup
  /-- The listeners of the bus are told apart. -/
  bus : n.cluster.bus.Sound
  /-- Listeners are known, and no item of a client has caused a notice. -/
  posted : ∀ p ∈ n.posted, p.subscription < n.cluster.bus.nextId ∧
    (p.origin.isSome = true → frameAudience p.frame ≠ .everybody)
  /-- Whatever was taken into an outbound queue belongs there. -/
  offered : ∀ o ∈ n.offered, n.Belongs o
  /-- What is in an outbound queue is the last of what was taken into it. -/
  queues : ∀ place box, n.cluster.queues.find? place = some box →
    box.items <:+ (n.received place).map Offered.item

/-- What holds of a network whatever has happened in it. For each worker there is a ledger of what
    it remembers. -/
structure Sound (n : Network) (ledgers : Nat → Ledger) : Prop where
  tidy : n.Tidy
  /-- Everybody keeps the rules. -/
  workers : ∀ place worker, n.workers[place]? = some worker →
    n.Conducts place worker (ledgers place)
  /-- Every subscription has one consumer. -/
  apart : ∀ i j w w', n.watch? i = some w → n.watch? j = some w' →
    w.subscription = w'.subscription → i = j

/-! ## Later networks -/

/-- Sessions and instances have remained what they were, and inboxes have lost nothing. -/
structure Later (n n' : Network) : Prop where
  seats : ∀ place seat, n.seat? place = some seat → n'.seat? place = some seat
  inboxes : ∀ place, (n.inboxOf place).length ≤ (n'.inboxOf place).length
  profiles : ∀ host self, n.cluster.profile? host = some self →
    n'.cluster.profile? host = some self

/-- A worker is the same as before, whatever it is doing. -/
structure Stays (worker worker' : Worker) : Prop where
  seat : worker'.seat? = worker.seat?
  inbox : worker.inbox.length ≤ worker'.inbox.length

variable {n n' : Network} {ledgers : Nat → Ledger}

theorem Stays.refl (worker : Worker) : Stays worker worker := ⟨rfl, Nat.le_refl _⟩

theorem later_of (hworkers : ∀ (place : Nat) (worker : Worker), n.workers[place]? = some worker →
      ∃ worker', n'.workers[place]? = some worker' ∧ Stays worker worker')
    (hprofiles : ∀ host self, n.cluster.profile? host = some self →
      n'.cluster.profile? host = some self) : n.Later n' := by
  refine ⟨fun place seat hseat => ?_, fun place => ?_, hprofiles⟩
  · rcases Option.bind_eq_some_iff.1 hseat with ⟨worker, hworker, hseat⟩
    rcases hworkers place worker hworker with ⟨worker', hworker', hstays⟩
    rw [seat?, hworker', Option.bind_some, hstays.seat, hseat]
  · cases hworker : n.workers[place]? with
    | none =>
      rw [inboxOf, hworker]
      exact Nat.zero_le _
    | some worker =>
      rcases hworkers place worker hworker with ⟨worker', hworker', hstays⟩
      rw [inboxOf, inboxOf, hworker, hworker']
      exact hstays.inbox

theorem Later.holds (h : n.Later n') {host : Nat} {session : SessionHandle}
    (hs : n.Holds host session) : n'.Holds host session :=
  h.seats _ _ hs

theorem Later.belongs (h : n.Later n') {o : Offered} (ho : n.Belongs o) : n'.Belongs o := by
  rcases ho with ⟨host, session, hseat, hitem⟩
  refine ⟨host, session, h.seats _ _ hseat, ?_⟩
  cases hi : o.item with
  | message m =>
    rw [hi] at hitem
    exact hitem
  | rejection r =>
    rw [hi] at hitem
    rcases hitem with ⟨origin, horigin, hsession, hposition⟩
    exact ⟨origin, horigin, hsession, Nat.lt_of_lt_of_le hposition (h.inboxes _)⟩

-- The rules do not speak of the state, so the rest goes on obeying. What has to be shown for the
-- later network is what waits for a consumer.
theorem Later.conducts (h : n.Later n') {place : Nat} {worker : Worker} {l : Ledger}
    (hw : n.Conducts place worker l)
    (hawaits : ∀ w, worker.watch? = some w → n.Awaits w → n'.Awaits w) :
    n'.Conducts place worker l := by
  rcases hw.obeys with ⟨self, hself, hobeys⟩
  refine ⟨⟨self, h.profiles _ _ hself, hobeys⟩, fun s hs => h.holds (hw.found s hs), hw.bound, ?_⟩
  -- Only a consumer has to do with what is posted.
  have hduty := hw.duty
  revert hawaits hduty
  rw [Worker.watch?]
  cases worker.duty with
  | session a => exact fun _ hduty => hduty
  | consumer w => exact fun hawaits hduty => hawaits w rfl hduty
  | errand => exact fun _ hduty => hduty

/-! ## Moves that hand nothing on -/

end Network

/-- Nothing is handed on between two states of a cluster. -/
structure Cluster.Calm (c c' : Cluster) : Prop where
  directories : ∀ host user session, (c'.directory host).find? user = some session →
    (c.directory host).find? user = some session
  sets : c.store.slots.SetsNodup → c'.store.slots.SetsNodup
  bus : c.bus.Sound → c'.bus.Sound
  nextId : c.bus.nextId ≤ c'.bus.nextId
  queues : ∀ place box', c'.queues.find? place = some box' →
    box'.items = [] ∨ ∃ box, c.queues.find? place = some box ∧ box'.items <:+ box.items

theorem Cluster.Calm.withBus {c : Cluster} {bus : MemoryBus} (hsound : c.bus.Sound → bus.Sound)
    (hnextId : c.bus.nextId ≤ bus.nextId) : c.Calm { c with bus } :=
  ⟨fun _ _ _ h => h, id, hsound, hnextId, fun _ box h => Or.inr ⟨box, h, List.suffix_refl _⟩⟩

theorem Cluster.Calm.refl (c : Cluster) : c.Calm c :=
  ⟨fun _ _ _ h => h, id, id, Nat.le_refl _, fun _ box h => Or.inr ⟨box, h, List.suffix_refl _⟩⟩

namespace Network

variable {n n' : Network} {ledgers : Nat → Ledger}

-- Each clause follows from its own clause and from one of calmness, so that moves after which
-- nothing is handed on need only be shown to be calm.
theorem Tidy.calm (h : n.Tidy) (hlater : n.Later n') (hcalm : n.cluster.Calm n'.cluster)
    (hhosts : ∀ host self, n'.cluster.profile? host = some self → host < n'.workers.length)
    (hposted : n'.posted = n.posted) (hoffered : n'.offered = n.offered) : n'.Tidy where
  directories host user session hfind := by
    rcases h.directories host user session (hcalm.directories host user session hfind) with
      ⟨huser, hholds⟩
    exact ⟨huser, hlater.holds hholds⟩
  hosts := hhosts
  sets := hcalm.sets h.sets
  bus := hcalm.bus h.bus
  posted p hp := by
    rw [hposted] at hp
    rcases h.posted p hp with ⟨hlt, haudience⟩
    exact ⟨Nat.lt_of_lt_of_le hlt hcalm.nextId, haudience⟩
  offered o ho := by
    rw [hoffered] at ho
    exact hlater.belongs (h.offered o ho)
  queues place box' hbox' := by
    rw [received, hoffered]
    rcases hcalm.queues place box' hbox' with hnil | ⟨box, hbox, hsuffix⟩
    · rw [hnil]
      exact List.nil_suffix
    · exact hsuffix.trans (h.queues place box hbox)

/-- One worker changes, or comes, and the others do not notice. -/
theorem Sound.shift (h : n.Sound ledgers) {place : Nat} {l : Ledger} (hlater : n.Later n')
    (htidy : n'.Tidy)
    (hothers : ∀ other, other ≠ place → n'.workers[other]? = n.workers[other]?)
    (hworker : ∀ worker, n'.workers[place]? = some worker → n'.Conducts place worker l)
    (hawaits : ∀ other w, other ≠ place → n.watch? other = some w → n.Awaits w → n'.Awaits w)
    (hapart : ∀ other w w', other ≠ place → n'.watch? place = some w → n.watch? other = some w' →
      w.subscription ≠ w'.subscription) :
    n'.Sound (Function.update ledgers place l) := by
  have hwatch : ∀ other, other ≠ place → n'.watch? other = n.watch? other := by
    intro other hne
    rw [watch?, watch?, hothers other hne]
  refine ⟨htidy, fun other worker hget => ?_, fun i j w w' hi hj heq => ?_⟩
  · -- The ledger at the place is a new one, all others are kept.
    by_cases hother : other = place
    · subst hother
      rw [Function.update_self]
      exact hworker worker hget
    · rw [Function.update_of_ne hother]
      rw [hothers other hother] at hget
      refine hlater.conducts (h.workers other worker hget) fun w hw => ?_
      exact hawaits other w hother (by rw [watch?, hget, Option.bind_some, hw])
  · -- Of two consumers at most one has changed, or they are the same.
    by_cases hip : i = place
    · by_cases hjp : j = place
      · rw [hip, hjp]
      · subst hip
        rw [hwatch j hjp] at hj
        exact absurd heq (hapart j w w' hjp hi hj)
    · rw [hwatch i hip] at hi
      by_cases hjp : j = place
      · subst hjp
        exact absurd heq.symm (hapart i w' w hip hj hi)
      · rw [hwatch j hjp] at hj
        exact h.apart i j w w' hi hj heq

/-! ## What waits -/

theorem Awaits.of_waits {w : Watch} (h : n.Awaits w) (hposted : n'.posted = n.posted)
    (hwaits : ∀ frames, n.cluster.bus.Waits w.subscription w.topic frames →
      n'.cluster.bus.Waits w.subscription w.topic frames) : n'.Awaits w := by
  have hpostedTo : n'.postedTo w.subscription = n.postedTo w.subscription := by
    rw [postedTo, postedTo, hposted]
  refine ⟨?_, ?_⟩
  · rw [hpostedTo]
    exact h.taken_le
  · rw [hpostedTo]
    exact hwaits _ h.waits

/-- A listener gets a published frame once or not at all. -/
theorem filter_postedOn {bus : MemoryBus} (hbus : bus.Sound) (origin : Option Origin)
    (topic : String) (frame : Bytes) (id : Nat) :
    ((postedOn bus origin topic frame).filter fun p => p.subscription = id) =
      if id ∈ bus.takers topic then [{ subscription := id, frame, origin }] else [] := by
  -- A listener stands at most once among those that take the frame.
  have hnodup := MemoryBus.nodup_takers hbus topic
  simp only [postedOn, List.filter_map, Function.comp_def]
  rw [List.filter_congr (q := fun t => t == id) fun t _ => by rw [beq_eq_decide], List.filter_beq,
    List.Nodup.count hnodup]
  split
  · rfl
  · rfl

theorem Awaits.publish {w : Watch} (h : n.Awaits w) (hbus : n.cluster.bus.Sound) {topic : String}
    {frame : Bytes} {origin : Option Origin}
    (hposted : n'.posted = n.posted ++ postedOn n.cluster.bus origin topic frame)
    (hbus' : n'.cluster.bus = (n.cluster.bus.publish topic frame).2) : n'.Awaits w := by
  have hpostedTo : n'.postedTo w.subscription = n.postedTo w.subscription ++
      if w.subscription ∈ n.cluster.bus.takers topic then
        [{ subscription := w.subscription, frame, origin }] else [] := by
    rw [postedTo, hposted, List.filter_append, filter_postedOn hbus]
    rfl
  refine ⟨?_, ?_⟩
  · rw [hpostedTo, List.length_append]
    exact Nat.le_trans h.taken_le (Nat.le_add_right _ _)
  · -- The frames taken in stand before the new one, which is not dropped with them.
    rw [hpostedTo, hbus', List.drop_append_of_le_length h.taken_le, List.map_append]
    have hwaits := h.waits.publish hbus topic frame
    split
    · next hmem =>
      rw [if_pos hmem] at hwaits
      exact hwaits
    · next hmem =>
      rw [if_neg hmem] at hwaits
      exact hwaits

/-! ## Workers -/

theorem watch?_eq_some {place : Nat} {worker : Worker} {w : Watch}
    (hworker : n.workers[place]? = some worker) (hduty : worker.duty = .consumer w) :
    n.watch? place = some w := by
  rw [watch?, hworker, Option.bind_some, Worker.watch?, hduty]

theorem exists_of_watch?_eq_some {place : Nat} {w : Watch} (h : n.watch? place = some w) :
    ∃ worker, n.workers[place]? = some worker ∧ worker.duty = .consumer w := by
  rcases Option.bind_eq_some_iff.1 h with ⟨worker, hworker, hwatch⟩
  refine ⟨worker, hworker, ?_⟩
  rw [Worker.watch?] at hwatch
  cases hduty : worker.duty with
  | consumer w' =>
    rw [hduty, Option.some.injEq] at hwatch
    rw [hwatch]
  | session a => simp only [hduty, reduceCtorEq] at hwatch
  | errand => simp only [hduty, reduceCtorEq] at hwatch

theorem seat?_eq_some {place : Nat} {worker : Worker} {a : Attendance}
    (hworker : n.workers[place]? = some worker) (hduty : worker.duty = .session a) :
    n.seat? place = some (worker.host, a.session) := by
  rw [seat?, hworker, Option.bind_some, Worker.seat?, hduty]

/-- The workers after one of them was replaced. -/
theorem getElem?_workers {place : Nat} {worker worker' : Worker}
    (hworker : n.workers[place]? = some worker)
    (hworkers : n'.workers = n.workers.set place worker') (other : Nat) :
    n'.workers[other]? = if other = place then some worker' else n.workers[other]? := by
  rcases List.getElem?_eq_some_iff.1 hworker with ⟨hlt, _⟩
  rw [hworkers]
  by_cases ho : other = place
  · subst ho
    rw [if_pos rfl]
    exact List.getElem?_set_self hlt
  · rw [if_neg ho]
    exact List.getElem?_set_ne (Ne.symm ho)

theorem later_setWorker {place : Nat} {worker worker' : Worker}
    (hworker : n.workers[place]? = some worker) (hstays : Stays worker worker')
    (hworkers : n'.workers = n.workers.set place worker')
    (hprofiles : ∀ host self, n.cluster.profile? host = some self →
      n'.cluster.profile? host = some self) : n.Later n' := by
  refine later_of (fun other w hw => ?_) hprofiles
  have hget := getElem?_workers hworker hworkers other
  by_cases ho : other = place
  · subst ho
    rw [hworker, Option.some.injEq] at hw
    subst hw
    exact ⟨worker', by rw [hget, if_pos rfl], hstays⟩
  · exact ⟨w, by rw [hget, if_neg ho, hw], Stays.refl w⟩

/-- The cluster changes, and nobody notices. -/
theorem Sound.withCluster (h : n.Sound ledgers) {c : Cluster} (hcalm : n.cluster.Calm c)
    (hprofiles : ∀ host, c.profile? host = n.cluster.profile? host)
    (hwaits : ∀ id topic frames, n.cluster.bus.Waits id topic frames →
      c.bus.Waits id topic frames) : ({ n with cluster := c } : Network).Sound ledgers := by
  have hlater : n.Later { n with cluster := c } :=
    later_of (fun _ w hw => ⟨w, hw, Stays.refl w⟩) fun host self hself =>
      (hprofiles host).trans hself
  have htidy : ({ n with cluster := c } : Network).Tidy :=
    h.tidy.calm hlater hcalm
      (fun host self hself => h.tidy.hosts host self ((hprofiles host).symm.trans hself)) rfl rfl
  refine ⟨htidy, fun place worker hworker => ?_, h.apart⟩
  exact hlater.conducts (h.workers place worker hworker) fun w _ hawaits =>
    hawaits.of_waits rfl (hwaits _ _)

/-- A worker turns to something else, and perhaps its subscription ends. -/
theorem Sound.setWorker (h : n.Sound ledgers) {place : Nat} {worker worker' : Worker} {l : Ledger}
    {c : Cluster} (hworker : n.workers[place]? = some worker) (hstays : Stays worker worker')
    (hcalm : n.cluster.Calm c) (hprofiles : ∀ host, c.profile? host = n.cluster.profile? host)
    (hwaits : ∀ other w, other ≠ place → n.watch? other = some w → ∀ frames,
      n.cluster.bus.Waits w.subscription w.topic frames →
        c.bus.Waits w.subscription w.topic frames)
    (hwatch : ∀ w', worker'.watch? = some w' →
      ∃ w, worker.watch? = some w ∧ w'.subscription = w.subscription)
    (hconducts : n.Later (({ n with cluster := c } : Network).setWorker place worker') →
      (({ n with cluster := c } : Network).setWorker place worker').Conducts place worker' l) :
    (({ n with cluster := c } : Network).setWorker place worker').Sound
      (Function.update ledgers place l) := by
  have hget : ∀ other : Nat, (({ n with cluster := c } : Network).setWorker place
      worker').workers[other]? = if other = place then some worker' else n.workers[other]? :=
    getElem?_workers hworker rfl
  have hlater : n.Later (({ n with cluster := c } : Network).setWorker place worker') :=
    later_setWorker hworker hstays rfl fun host self hself => (hprofiles host).trans hself
  refine h.shift hlater ?_ (fun other hne => ?_) (fun w hw => ?_) (fun other w hne hw hawaits => ?_)
    fun other w w' hne hw hw' => ?_
  · refine h.tidy.calm hlater hcalm (fun host self hself => ?_) rfl rfl
    change host < (n.workers.set place worker').length
    rw [List.length_set]
    exact h.tidy.hosts host self ((hprofiles host).symm.trans hself)
  · exact (hget other).trans (if_neg hne)
  · have heq : worker' = w := Option.some.inj (((hget place).trans (if_pos rfl)).symm.trans hw)
    exact heq ▸ hconducts hlater
  · exact hawaits.of_waits rfl (hwaits other w hne hw)
  · have hget' : (({ n with cluster := c } : Network).setWorker place worker').workers[place]? =
        some worker' := (hget place).trans (if_pos rfl)
    rw [watch?, hget', Option.bind_some] at hw
    -- It has kept its subscription, which was nobody else's before.
    rcases hwatch w hw with ⟨old, hold, hsubscription⟩
    rw [hsubscription]
    intro heq
    exact hne (h.apart other place w' old hw' (by rw [watch?, hworker, Option.bind_some, hold])
      heq.symm)

theorem Sound.awaits (h : n.Sound ledgers) {place : Nat} {w : Watch}
    (hw : n.watch? place = some w) : n.Awaits w := by
  rcases exists_of_watch?_eq_some hw with ⟨worker, hworker, hduty⟩
  have hawaits := (h.workers place worker hworker).duty
  rw [hduty] at hawaits
  exact hawaits

theorem Sound.subscription_lt (h : n.Sound ledgers) {place : Nat} {w : Watch}
    (hw : n.watch? place = some w) : w.subscription < n.cluster.bus.nextId :=
  (h.awaits hw).waits.lt_nextId h.tidy.bus

/-- A new worker comes, and perhaps a new subscription. -/
theorem Sound.grow (h : n.Sound ledgers) {worker : Worker} {l : Ledger}
    (hworkers : n'.workers = n.workers ++ [worker]) (hposted : n'.posted = n.posted)
    (hoffered : n'.offered = n.offered) (hcalm : n.cluster.Calm n'.cluster)
    (hprofiles : ∀ host, host ≠ n.workers.length →
      n'.cluster.profile? host = n.cluster.profile? host)
    (hwaits : ∀ id topic frames, n.cluster.bus.Waits id topic frames →
      n'.cluster.bus.Waits id topic frames)
    (hwatch : ∀ w, worker.watch? = some w → n.cluster.bus.nextId ≤ w.subscription)
    (hconducts : n.Later n' → n'.Conducts n.workers.length worker l) :
    n'.Sound (Function.update ledgers n.workers.length l) := by
  -- The new worker stands behind all others, at a place by which nothing has gone so far.
  have hnew : n'.workers[n.workers.length]? = some worker := by
    rw [hworkers, List.getElem?_concat_length]
  have hold : ∀ other, other ≠ n.workers.length → n'.workers[other]? = n.workers[other]? := by
    intro other hne
    rw [hworkers]
    by_cases hlt : other < n.workers.length
    · rw [List.getElem?_append_left hlt]
    · rw [List.getElem?_eq_none, List.getElem?_eq_none (by omega)]
      rw [List.length_append, List.length_singleton]
      omega
  have hlater : n.Later n' := by
    refine later_of (fun place w hw => ?_) fun host self hself => ?_
    · have hlt := (List.getElem?_eq_some_iff.1 hw).1
      exact ⟨w, by rw [hold place (by omega), hw], Stays.refl w⟩
    · have hlt := h.tidy.hosts host self hself
      rw [hprofiles host (by omega), hself]
  refine h.shift hlater ?_ hold (fun w hw => ?_) (fun other w hne hw hawaits => ?_)
    fun other w w' hne hw hw' => ?_
  · refine h.tidy.calm hlater hcalm (fun host self hself => ?_) hposted hoffered
    rw [hworkers, List.length_append, List.length_singleton]
    by_cases hhost : host = n.workers.length
    · omega
    · rw [hprofiles host hhost] at hself
      have hlt := h.tidy.hosts host self hself
      omega
  · rw [hnew, Option.some.injEq] at hw
    exact hw ▸ hconducts hlater
  · exact hawaits.of_waits hposted (hwaits _ _)
  · -- Subscriptions that are in use have smaller numbers than the new one.
    rw [watch?, hnew, Option.bind_some] at hw
    have hle := hwatch w hw
    have hlt := h.subscription_lt hw'
    omega

end Network

end ChatCluster
