import ChatCluster.Proofs.Network.Undertakings
import ChatCluster.Proofs.Network.Wiring
import Mathlib.Data.List.Induction

/-!
# Nobody Speaks for Another

Whatever clients hand in, nothing is said in a cluster in the name of a user but what the user has
said, and that the user has come or gone. This holds so long as frames reach the bus through the
nodes only.

What is said is attested by something that has happened (`Network.Attested`): an item was taken from
the inbox of a session of the user, the user has a session on the instance, or the user was taken
out of its directory. Every worker keeps the rules of vouching in what is left of what it is doing,
with a voucher that is backed in this way (`Network.Backs`), and so all that was ever posted or
offered is attested (`Network.Truthful`). None of this is ever taken back, as sessions stay what
they are, inboxes lose nothing, and what has happened has happened.

## Main definitions

* `Network.Detached`: A user has been taken out of a directory.
* `Network.Attested`: It has happened.
* `Network.Backs`, `Network.Truthful`: All that is said is attested.

## Theorems

* `Network.Truthful.act`, `Network.Truthful.run`: It remains so.
* `Network.no_forgery`: Nobody speaks for another.
-/

namespace ChatCluster

/-! ## Who has been let go -/

theorem mem_goneAfter {gone : List UserId} {e : Effect} {reply : e.Reply} {user : UserId}
    (h : user ∈ goneAfter gone e reply) : user ∈ gone ∨ user ∈ goneAfter [] e reply := by
  cases e with
  | removeSessionIf other id =>
    cases reply with
    | none => exact Or.inl h
    | some session =>
      rcases List.mem_cons.1 h with rfl | hold
      · exact Or.inr List.mem_cons_self
      · exact Or.inl hold
  | publish | store | clock | postmark | spareId | insertSession | findSession | removeSession
  | listSessions | countSessions | isOpen | offer | lifecycle | comeAlive | stop | setReady | warn
  | count | gaugeSessions => exact Or.inl h

/-- Whoever is let go in a step was in the directory before it, and is not there after it. -/
theorem Cluster.find?_directory_of_gone {c : Cluster} {host : Nat} {e : Effect} {user : UserId}
    (h : user ∈ goneAfter [] e (c.perform host e).1) :
    ((c.directory host).find? user).isSome = true ∧
      ((c.perform host e).2.directory host).find? user = none := by
  cases e with
  | removeSessionIf other id =>
    simp only [perform] at h ⊢
    cases hfind : (c.directory host).find? other with
    | none =>
      rw [hfind] at h
      exact absurd h List.not_mem_nil
    | some session =>
      rw [hfind] at h
      by_cases hid : session.id = id
      · simp only [if_pos hid, goneAfter, List.mem_singleton] at h ⊢
        subst h
        exact ⟨by rw [hfind]; rfl, c.find?_directory_erase_self host user⟩
      · simp only [if_neg hid, goneAfter, List.not_mem_nil] at h
  | publish | store | clock | postmark | spareId | insertSession | findSession | removeSession
  | listSessions | countSessions | isOpen | offer | lifecycle | comeAlive | stop | setReady | warn
  | count | gaugeSessions => exact absurd h List.not_mem_nil

namespace Network

/-! ## What is attested -/

/-- In the course of some moves, one of them has taken the user out of the directory of the
    instance. -/
def Detached (start : Network) (moves : List Move) (host : Nat) (user : UserId) : Prop :=
  ∃ past move, past ++ [move] <+: moves ∧
    (((start.run past).cluster.directory host).find? user).isSome = true ∧
    ((start.run (past ++ [move])).cluster.directory host).find? user = none

/-- What is said stems from what has happened on the instance. -/
inductive Attested (n : Network) (left : Nat → UserId → Prop) (host : Nat) :
    Option Origin → Gist → Prop where
  /-- It is what an item says that was in the inbox of a session of the instance, in the name of the
      user of that session. -/
  | stamped (o : Origin) (session : SessionHandle) (item : Inbound) (draft : Draft)
      (seat : n.seat? o.session = some (host, session))
      (inbox : (n.inboxOf o.session)[o.position]? = some item)
      (reads : item.draft? = some draft) (directed : draft.isBroadcast = false) :
      Attested n left host (some o)
        { sender := session.user, kind := draft.kind.getD .chat, payload := draft.payload }
  /-- It is that somebody has come who has a session on the instance. -/
  | joined (session : SessionHandle) (mark : Postmark) (seat : n.Holds host session) :
      Attested n left host none (Message.join mark session.user).gist
  /-- It is that somebody has gone who was taken out of the directory of the instance. -/
  | left (user : UserId) (mark : Postmark) (gone : left host user) :
      Attested n left host none (Message.leave mark user).gist

variable {n n' : Network} {left left' : Nat → UserId → Prop} {ledgers : Nat → Ledger} {host : Nat}
  {origin : Option Origin} {g : Gist}

/-- What was attested remains so. -/
theorem Attested.mono (h : n.Attested left host origin g)
    (hseats : ∀ place seat, n.seat? place = some seat → n'.seat? place = some seat)
    (hinboxes : ∀ place, n.inboxOf place <+: n'.inboxOf place)
    (hleft : ∀ host user, left host user → left' host user) : n'.Attested left' host origin g := by
  cases h with
  | stamped o session item draft seat inbox reads directed =>
    refine .stamped o session item draft (hseats _ _ seat) ?_ reads directed
    have hlt := (List.getElem?_eq_some_iff.1 inbox).1
    rw [List.prefix_iff_getElem?.1 (hinboxes o.session) o.position hlt,
      ← List.getElem?_eq_getElem hlt]
    exact inbox
  | joined session mark seat => exact .joined session mark (hseats _ _ seat)
  | left user mark gone => exact .left user mark (hleft host user gone)

/-- What may be handed on under the voucher is attested: what is offered on some instance, and what
    is published on this one. -/
structure Backs (n : Network) (left : Nat → UserId → Prop) (host : Nat) (origin : Option Origin)
    (v : Voucher) (gone : List UserId) : Prop where
  offers : ∀ g, v.offers g → ∃ other, n.Attested left other origin g
  publishes : ∀ g, v.publishes g → n.Attested left host origin g
  farewells : v.farewells → origin = none
  gone : ∀ user ∈ gone, left host user

/-- A worker keeps the rules of vouching in what is left of what it is doing, in the name of its
    instance and with a voucher that is backed. -/
def Vouches (n : Network) (left : Nat → UserId → Prop) (worker : Worker) : Prop :=
  ∃ self v gone, n.cluster.profile? worker.host = some self ∧ v.id = self.id ∧
    n.Backs left worker.host worker.origin v gone ∧
    (vouching v).Obeys gone worker.rest fun _ _ => True

/-- All that is said is attested. -/
structure Truthful (n : Network) (left : Nat → UserId → Prop) : Prop where
  workers : ∀ (place : Nat) (worker : Worker), n.workers[place]? = some worker →
    n.Vouches left worker
  posted : ∀ p ∈ n.posted, ∃ id m host, BusFrame.encode { origin := id, message := m } =
    .ok p.frame ∧ n.Attested left host p.origin m.gist
  offered : ∀ o ∈ n.offered, ∀ m, o.item = .message m → ∃ host, n.Attested left host o.origin m.gist

variable {v : Voucher} {gone : List UserId} {worker : Worker}

/-- Whatever an operation may publish is attested. -/
theorem Backs.attested (h : n.Backs left host origin v gone) {m : Message} (hm : v.Admits gone m) :
    n.Attested left host origin m.gist := by
  rcases hm with hpublishes | ⟨hfarewells, mark, user, huser, rfl⟩
  · exact h.publishes _ hpublishes
  · rw [h.farewells hfarewells]
    exact .left user mark (h.gone user huser)

/-! ## What workers begin -/

/-- Whatever a worker begins, it has a voucher for it that is backed. -/
theorem Begins.exists_voucher {self : Profile} {rest : Operation Unit}
    (h : n.Begins self host origin rest)
    (hposted : ∀ p ∈ n.posted, ∃ id m host, BusFrame.encode { origin := id, message := m } =
      .ok p.frame ∧ n.Attested left host p.origin m.gist) :
    ∃ v, v.id = self.id ∧ n.Backs left host origin v [] ∧
      (vouching v).Obeys [] rest fun _ _ => True := by
  -- What may be offered and published is what is attested, and nobody has been let go so far.
  have hbacks : ∀ (origin : Option Origin),
      n.Backs left host origin
        { id := self.id, offers := fun g => ∃ other, n.Attested left other origin g,
          publishes := n.Attested left host origin, farewells := origin = none } [] :=
    fun origin => ⟨fun _ => id, fun _ => id, id, fun user huser => absurd huser List.not_mem_nil⟩
  refine ⟨_, rfl, hbacks origin, ?_⟩
  cases h with
  | nothing => exact trivial
  | greeting session seat => exact vouching_greet rfl fun mark => .joined session mark seat
  | handling o session item seat inbox =>
    refine vouching_handle rfl fun draft hdraft => ?_
    rcases (item.admissible_eq_ok_iff draft).1 hdraft with ⟨hreads, hdirected⟩
    have hattested : n.Attested left host (some o) (draft.gist session.user) :=
      .stamped o session item draft seat inbox hreads hdirected
    exact ⟨⟨host, hattested⟩, hattested⟩
  | parting session => exact vouching_part rfl rfl session
  | chore chore =>
    cases chore with
    | firstHeartbeat =>
      exact vouching_alone (within_firstHeartbeat self (fun _ => trivial) trivial)
    | heartbeat => exact vouching_alone (within_timedHeartbeat self (fun _ => trivial) trivial)
    | reap => exact vouching_alone (within_timedReap self fun _ => trivial)
    | shutdown => exact vouching_leave rfl rfl
  | takingIn p hp =>
    rcases hposted p hp with ⟨id, m, other, hencode, hattested⟩
    refine Rules.obeys_bind (vouching_receive fun spare f hdecode => ?_) fun _ _ _ => trivial
    rw [gist_of_decode hencode hdecode]
    exact ⟨other, hattested⟩

/-! ## Moves -/

theorem Backs.mono (h : n.Backs left host origin v gone)
    (hseats : ∀ place seat, n.seat? place = some seat → n'.seat? place = some seat)
    (hinboxes : ∀ place, n.inboxOf place <+: n'.inboxOf place)
    (hleft : ∀ host user, left host user → left' host user) :
    n'.Backs left' host origin v gone where
  offers g hg := by
    rcases h.offers g hg with ⟨other, hattested⟩
    exact ⟨other, hattested.mono hseats hinboxes hleft⟩
  publishes g hg := (h.publishes g hg).mono hseats hinboxes hleft
  farewells := h.farewells
  gone user huser := hleft host user (h.gone user huser)

section

variable (h : n.Truthful left) (hsound : n.Sound ledgers) (hlater : n.Later n')
  (hinboxes : ∀ place, n.inboxOf place <+: n'.inboxOf place)
  (hleft : ∀ host user, left host user → left' host user)

include hlater hinboxes hleft

/-- A worker that goes on with what it was doing needs no other voucher. -/
theorem Vouches.goesOn {worker' : Worker} (hworker : n.Vouches left worker)
    (hgoes : GoesOn worker worker') : n'.Vouches left' worker' := by
  rcases hworker with ⟨self, v, gone, hself, hid, hbacks, hobeys⟩
  refine ⟨self, v, gone, ?_, hid, ?_, ?_⟩
  · rw [hgoes.host]
    exact hlater.profiles _ _ hself
  · rw [hgoes.host, hgoes.origin]
    exact hbacks.mono hlater.seats hinboxes hleft
  · rw [hgoes.rest]
    exact hobeys

include h

/-- What was posted and offered remains attested. -/
theorem Truthful.posted_mono (p : Posted) (hp : p ∈ n.posted) :
    ∃ id m host, BusFrame.encode { origin := id, message := m } = .ok p.frame ∧
      n'.Attested left' host p.origin m.gist := by
  rcases h.posted p hp with ⟨id, m, host, hencode, hattested⟩
  exact ⟨id, m, host, hencode, hattested.mono hlater.seats hinboxes hleft⟩

theorem Truthful.offered_mono (o : Offered) (ho : o ∈ n.offered) (m : Message)
    (hm : o.item = .message m) : ∃ host, n'.Attested left' host o.origin m.gist := by
  rcases h.offered o ho m hm with ⟨host, hattested⟩
  exact ⟨host, hattested.mono hlater.seats hinboxes hleft⟩

theorem Truthful.turnover (hturnover : n.Turnover n') : n'.Truthful left' := by
  have hposted : ∀ p ∈ n'.posted, ∃ id m host,
      BusFrame.encode { origin := id, message := m } = .ok p.frame ∧
        n'.Attested left' host p.origin m.gist := by
    rw [hturnover.posted]
    exact h.posted_mono hlater hinboxes hleft
  refine ⟨fun place worker' hworker' => ?_, hposted, ?_⟩
  · rcases hturnover.workers place worker' hworker' with
      ⟨worker, hworker, hgoes⟩ | ⟨self, hself, hbegins⟩
    · exact (h.workers place worker hworker).goesOn hlater hinboxes hleft hgoes
    · rcases hbegins.exists_voucher hposted with ⟨v, hid, hbacks, hobeys⟩
      exact ⟨self, v, [], hself, hid, hbacks, hobeys⟩
  · rw [hturnover.offered]
    exact h.offered_mono hlater hinboxes hleft

end

/-- A worker takes a step that its voucher allows. -/
theorem Truthful.step {place : Nat} {e : Effect} {next : e.Reply → Operation Unit}
    (h : n.Truthful left) (hworker : n.workers[place]? = some worker)
    (hrest : worker.rest = .ask e next) (hleft : ∀ host user, left host user → left' host user)
    (hgone : ∀ user ∈ goneAfter [] e (n.cluster.perform worker.host e).1, left' worker.host user) :
    (n.step place worker e next).Truthful left' := by
  have hlater : n.Later (n.step place worker e next) := later_step hworker
  have hinboxes : ∀ other, n.inboxOf other <+: (n.step place worker e next).inboxOf other :=
    inboxOf_prefix_setWorker hworker (workers_step n place worker e next) List.prefix_rfl
  rcases h.workers place worker hworker with ⟨self, v, gone, hself, hid, hbacks, hobeys⟩
  rw [hrest] at hobeys
  have hbacks' := hbacks.mono hlater.seats hinboxes hleft
  refine ⟨fun other w hw => ?_, ?_, ?_⟩
  · have hget := getElem?_workers hworker (workers_step n place worker e next) other
    rw [hw] at hget
    by_cases hother : other = place
    · rw [if_pos hother, Option.some.injEq] at hget
      subst hget
      refine ⟨self, v, _, hlater.profiles _ _ hself, hid, ⟨hbacks'.offers, hbacks'.publishes,
        hbacks'.farewells, fun user huser => ?_⟩, hobeys.2 _ trivial⟩
      -- Whoever has been let go now was let go before or in this step.
      rcases mem_goneAfter huser with hbefore | hnow
      · exact hbacks'.gone user hbefore
      · exact hgone user hnow
    · rw [if_neg hother] at hget
      exact (h.workers other w hget.symm).goesOn hlater hinboxes hleft (.refl w)
  · intro p hp
    rcases posted_step_cases n place worker e next with ⟨topic, frame, rfl, hposted, _⟩ |
      ⟨hposted, _⟩
    · rw [hposted] at hp
      rcases List.mem_append.1 hp with hold | hnew
      · exact h.posted_mono hlater hinboxes hleft p hold
      · rcases List.mem_map.1 hnew with ⟨id, _, rfl⟩
        rcases hobeys.1 with ⟨m, hencode, hm⟩
        exact ⟨v.id, m, worker.host, hencode, hbacks'.attested hm⟩
    · rw [hposted] at hp
      exact h.posted_mono hlater hinboxes hleft p hp
  · intro o ho m hm
    rcases offered_step_cases n place worker e next with ⟨session, item, _, rfl, _, hoffered, _⟩ |
      ⟨hoffered, _⟩
    · rw [hoffered] at ho
      rcases List.mem_append.1 ho with hold | hnew
      · exact h.offered_mono hlater hinboxes hleft o hold m hm
      · rw [List.mem_singleton.1 hnew] at hm ⊢
        subst hm
        exact hbacks'.offers m.gist hobeys.1
    · rw [hoffered] at ho
      exact h.offered_mono hlater hinboxes hleft o ho m hm

/-! ## Runs -/

variable {start : Network} {moves : List Move}

/-- Whoever was let go in the course of some moves was let go in the course of more. -/
theorem Detached.concat {user : UserId} (h : start.Detached moves host user) (move : Move) :
    start.Detached (moves ++ [move]) host user := by
  rcases h with ⟨past, last, hpast, hbefore, hafter⟩
  exact ⟨past, last, hpast.trans (List.prefix_append _ _), hbefore, hafter⟩

theorem run_concat (start : Network) (moves : List Move) (move : Move) :
    start.run (moves ++ [move]) = (start.run moves).act move := by
  rw [run, run, List.foldl_append, List.foldl_cons, List.foldl_nil]

/-- One more move, unless somebody outside publishes. -/
theorem Truthful.act (h : (start.run moves).Truthful (start.Detached moves))
    (hsound : (start.run moves).Sound ledgers) {move : Move}
    (hinside : ∀ topic frame, move ≠ .publish topic frame) :
    (start.run (moves ++ [move])).Truthful (start.Detached (moves ++ [move])) := by
  have hleft : ∀ host user, start.Detached moves host user →
      start.Detached (moves ++ [move]) host user := fun _ _ hgone => hgone.concat move
  rcases hsound.act move with ⟨ledgers', hpassage, _⟩
  have hlater : (start.run moves).Later ((start.run moves).act move) :=
    hpassage.later fun host self hself => hsound.profile?_act move hself
  rw [run_concat]
  rcases hsound.act_cases move with hturnover | ⟨place, worker, e, next, hworker, hrest, hact⟩ |
    ⟨topic, frame, hmove⟩
  · exact h.turnover hlater hturnover.inboxes hleft hturnover
  · rw [hact]
    refine h.step hworker hrest hleft fun user huser => ?_
    -- The directory of the instance has just lost the user.
    rcases Cluster.find?_directory_of_gone huser with ⟨hbefore, hafter⟩
    refine ⟨moves, move, List.prefix_rfl, hbefore, ?_⟩
    rw [run_concat, hact]
    exact hafter
  · exact absurd hmove (hinside topic frame)

theorem truthful_new (opTimeout busCapacity : Nat) (wallClock : Int64)
    (left : Nat → UserId → Prop) : (new opTimeout busCapacity wallClock).Truthful left := by
  refine ⟨fun place worker hworker => ?_, fun p hp => absurd hp List.not_mem_nil,
    fun o ho => absurd ho List.not_mem_nil⟩
  simp only [new, List.getElem?_nil, reduceCtorEq] at hworker

/-- Whatever happens, so long as nobody outside publishes. -/
theorem Truthful.run (h : start.Truthful (start.Detached [])) (hsound : start.Sound ledgers)
    (hinside : ∀ topic frame, Move.publish topic frame ∉ moves) :
    (start.run moves).Truthful (start.Detached moves) := by
  induction moves using List.reverseRecOn with
  | nil => exact h
  | append_singleton past move ih =>
    rcases hsound.run past with ⟨ledgers', hsound'⟩
    refine (ih fun topic frame hmem => ?_).act hsound' fun topic frame heq => ?_
    · exact hinside topic frame (List.mem_append_left _ hmem)
    · exact hinside topic frame (heq ▸ List.mem_append_right _ List.mem_cons_self)

/-- In a cluster in which frames reach the bus through the nodes only, nobody speaks for another,
    whatever clients hand in and whatever happens in whatever order. All that an instance publishes
    is a frame in its own name with a message that is attested on the instance. All that is ever
    put into an outbound queue is attested on some instance, if it is a message. And what is done in
    handling an item publishes nothing on the topic for notices, if that has its standard name. -/
theorem no_forgery (opTimeout busCapacity : Nat) (wallClock : Int64) (moves : List Move)
    (hinside : ∀ topic frame, Move.publish topic frame ∉ moves) :
    let start := new opTimeout busCapacity wallClock
    let n := start.run moves
    (∀ (place : Nat) (worker : Worker) (topic : String) (frame : Bytes)
        (next : Except BusError Unit → Operation Unit), n.workers[place]? = some worker →
      worker.rest = .ask (.publish topic frame) next →
      ∃ self m, n.cluster.profile? worker.host = some self ∧
        BusFrame.encode { origin := self.id, message := m } = .ok frame ∧
        n.Attested (start.Detached moves) worker.host worker.origin m.gist ∧
        (worker.origin.isSome = true → self.topics = .standard →
          topic ≠ Topics.standard.broadcast)) ∧
    ∀ place,
      (∀ box, n.cluster.queues.find? place = some box →
        box.items <:+ (n.received place).map Offered.item) ∧
      ∀ o ∈ n.received place, ∀ m, o.item = .message m →
        ∃ host, n.Attested (start.Detached moves) host o.origin m.gist := by
  intro start n
  have hstart : start.Sound fun _ => .blank false := sound_new _ _ _ _
  rcases hstart.run moves with ⟨ledgers, hsound⟩
  have htruthful : n.Truthful (start.Detached moves) := (truthful_new _ _ _ _).run hstart hinside
  refine ⟨fun place worker topic frame next hworker hrest => ?_, fun place => ⟨fun box hbox =>
    hsound.tidy.queues place box hbox, fun o ho m hm => ?_⟩⟩
  · rcases htruthful.workers place worker hworker with ⟨self, v, gone, hself, hid, hbacks, hobeys⟩
    rw [hrest] at hobeys
    rcases hobeys.1 with ⟨m, hencode, hm⟩
    refine ⟨self, m, hself, ?_, hbacks.attested hm, fun horigin htopics => ?_⟩
    · rw [← hid]
      exact hencode
    · -- What stems from an item goes to the topic of an instance.
      have hconducts := hsound.workers place worker hworker
      rcases hconducts.obeys with ⟨self', hself', hrules⟩
      rw [hrest] at hrules
      rcases hrules.1 (hconducts.bound.trans horigin) with ⟨_, ⟨owner, _, htopic⟩, _⟩
      have hsame : self' = self := Option.some.inj (hself'.symm.trans hself)
      have hstandard : topic = Topics.standard.ofInstance owner := by
        rw [htopic, ← htopics, ← hsame]
        rfl
      rw [hstandard]
      exact Topics.ofInstance_ne_broadcast owner
  · exact htruthful.offered o (List.mem_filter.1 ho).1 m hm

/-- Two nodes and a session on each. The client of one hands in a draft for the other that names a
    third as its sender, and then a notice. -/
def masquerade : List Move :=
  [.start (.standard ⟨"north"⟩) 0 8, .start (.standard ⟨"south"⟩) 0 8, .attach 0 ⟨"ann"⟩,
    .attach 1 ⟨"ben"⟩] ++ List.replicate 5 (.proceed 3) ++
  [.send 2 (.raw (Text.utf8
      "\x7b\"sender_id\": \"cleo\", \"receiver_id\": \"ben\", \"payload\": \"hi\"\x7d")),
    .send 2 (.draft (Draft.empty.withKind .join))] ++
  List.replicate 28 (.proceed 2) ++ List.replicate 10 (.proceed 1)

theorem no_forgery_masquerade :
    (∀ topic frame, Move.publish topic frame ∉ masquerade) ∧
    ∃ o m, ((new 100 16 0).run masquerade).received 3 = [o] ∧ o.item = .message m ∧
      m.gist = { sender := ⟨"ann"⟩, kind := .chat, payload := "hi" } ∧
      ∃ host, ((new 100 16 0).run masquerade).Attested ((new 100 16 0).Detached masquerade) host
        o.origin m.gist := by
  have hinside : ∀ topic frame, Move.publish topic frame ∉ masquerade := by
    intro topic frame hmem
    simp only [masquerade, List.mem_append, List.mem_cons, List.mem_replicate, reduceCtorEq,
      List.not_mem_nil, or_self, and_false] at hmem
  -- One message arrives, in the name of the session that the draft came from.
  have hreceived : (((new 100 16 0).run masquerade).received 3).map Offered.item =
      [.message (.direct ⟨.spare 1, 0⟩ ⟨"ann"⟩ ⟨"ben"⟩ "hi")] := by decide +kernel
  rcases List.map_eq_singleton_iff.1 hreceived with ⟨o, ho, hm⟩
  refine ⟨hinside, o, _, ho, hm, rfl, ?_⟩
  exact ((no_forgery 100 16 0 masquerade hinside).2 3).2 o (ho ▸ List.mem_cons_self) _ hm

end Network

end ChatCluster
