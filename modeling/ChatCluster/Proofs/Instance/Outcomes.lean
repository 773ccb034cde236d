import ChatCluster.Proofs.Cluster.Outages
import ChatCluster.Proofs.Instance.Handover

/-!
# Outcomes Tell What Has Been Done

Routing never fails; it says what has become of the message. For a message for one user or for
everybody, what it says is all that there is to say. Whatever the store holds and whichever calls
to the store and to the bus fail, one of four things has been done. The message stands at the end
of the queue of its receiver's session; or one frame has been published on the topic of the
receiver's owner; or one on the topic for everybody; or nothing has happened at all. The outcome
says which.

The names of topics are whatever an instance is told. Where the owner of a receiver listens on the
very topic that the instance takes to be the one for everybody, the topic of a frame does not tell
which of the two it was, and it takes the kind of the message to know.

## Main definitions

* `Router.Carries`: A frame is read as the message.
* `Router.GetsThrough`: Nothing stands in the way of a message.
* `Router.Told`, `Router.Tells`: What has been done, one case for each outcome.
* `Router.Truthful`: The outcome tells all that has been done.

## Theorems

* `Cluster.runAmid_owner?`, `Cluster.runAmid_deliverTo`, `Cluster.runAmid_publish`: Parts of the
  way.
* `Router.tells_routeDirect`, `Router.tells_routeBroadcast`, `Router.tells_route`: What has been
  done.
* `Router.route_tells_all`: The outcome tells all that has been done.
-/

namespace ChatCluster

open Cluster

namespace Cluster

/-- The item has been appended to the queue of the session that the user is listed with. -/
def Appended (c : Cluster) (host : Nat) (user : UserId) (item : Outbound)
    (queues : Table Nat (Mailbox Outbound)) : Prop :=
  ∃ session box, (c.directory host).find? user = some session ∧
    c.queues.find? session.queue = some box ∧
    queues = c.queues.insert session.queue (box.followedBy item)

theorem Appended.ne {c : Cluster} {host : Nat} {user : UserId} {item : Outbound}
    {queues : Table Nat (Mailbox Outbound)} (h : c.Appended host user item queues) :
    queues ≠ c.queues := by
  rintro rfl
  rcases h with ⟨session, box, _, hbox, hqueues⟩
  rw [hqueues, Table.find?_insert_self, Option.some.injEq, Mailbox.followedBy] at hbox
  have hlength := congrArg (fun b : Mailbox Outbound => b.items.length) hbox
  simp only [List.length_append, List.length_singleton] at hlength
  omega

end Cluster

namespace Router

variable (router : Router) (host : Nat) (m : Message)

/-- Whoever reads the frame reads the message, and who has sent it. -/
def Carries (frame : Bytes) : Prop :=
  ∀ spare, BusFrame.decode spare frame = .ok { origin := router.id, message := m }

/-- The message fits into a frame, and the bus accepts the next one. -/
structure CanPublish (o : Outages) (c : Cluster) : Prop where
  fits : (Wire.Envelope.ofMessage router.id m).encode.length ≤ Wire.maxFrameSize
  call : o.bus 0 = none
  available : c.bus.unavailable = false

/-- Nothing stands in the way of a message for a user or for everybody. -/
inductive GetsThrough (o : Outages) (c : Cluster) : Prop where
  /-- The owner of its receiver can be read, is the instance itself, and the receiver attends. -/
  | here {user : UserId} {session : SessionHandle} {box : Mailbox Outbound}
      (receiver : m.audience = .one user) (answers : c.StoreAnswers o)
      (names : c.Names user router.id) (attends : c.Attends host user session box)
  /-- The owner of its receiver can be read, is another instance, and the bus takes the frame. -/
  | away {user : UserId} {owner : InstanceId} (receiver : m.audience = .one user)
      (answers : c.StoreAnswers o) (names : c.Names user owner) (other : owner ≠ router.id)
      (publish : router.CanPublish m o c)
  /-- It is for everybody, and the bus takes the frame. -/
  | everybody (everybody : m.audience = .everybody) (publish : router.CanPublish m o c)

/-- What has been done with a message for a user or for everybody: the queues as they are then, the
    outcome, and what the bus has accepted. -/
inductive Told (o : Outages) (c : Cluster) (queues : Table Nat (Mailbox Outbound)) :
    RouteOutcome → List (String × Bytes) → Prop where
  /-- It has been appended to the queue of its receiver's session. -/
  | delivered {user : UserId} {session : SessionHandle} {box : Mailbox Outbound}
      (receiver : m.audience = .one user) (answers : c.StoreAnswers o)
      (names : c.Names user router.id) (attends : c.Attends host user session box)
      (appended : queues = c.queues.insert session.queue (box.followedBy (.message m))) :
      Told o c queues .delivered []
  /-- It has been published on the topic of its receiver's owner. -/
  | published {user : UserId} {owner : InstanceId} {frame : Bytes}
      (receiver : m.audience = .one user) (answers : c.StoreAnswers o)
      (names : c.Names user owner) (other : owner ≠ router.id) (publish : router.CanPublish m o c)
      (carries : router.Carries m frame) (same : queues = c.queues) :
      Told o c queues (.published owner) [(router.topics.ofInstance owner, frame)]
  /-- It has been published on the topic for everybody. -/
  | broadcast {frame : Bytes} (everybody : m.audience = .everybody)
      (publish : router.CanPublish m o c) (carries : router.Carries m frame)
      (same : queues = c.queues) :
      Told o c queues .broadcast [(router.topics.broadcast, frame)]
  /-- Nothing has been done, since something stood in the way. -/
  | dropped (reason : DropReason) (fails : ¬router.GetsThrough host m o c)
      (same : queues = c.queues) : Told o c queues (.dropped reason) []

/-- What has come of routing is what has been done with the message, and nothing is disturbed. -/
structure Tells (o : Outages) (c : Cluster) (u : Upshot RouteOutcome) : Prop where
  told : router.Told host m o c u.cluster.queues u.result u.published
  undisturbed : c.Undisturbed u.cluster

/-- The one thing that the bus has accepted is a frame with the message on the topic of the
    receiver's owner, which is another instance. -/
def PublishedTo (c : Cluster) (owner : InstanceId) (published : List (String × Bytes)) : Prop :=
  ∃ user frame, m.receiver = some user ∧ c.Names user owner ∧ owner ≠ router.id ∧
    published = [(router.topics.ofInstance owner, frame)] ∧ router.Carries m frame

/-- The outcome tells all that has been done. -/
structure Truthful (o : Outages) (c : Cluster) (u : Upshot RouteOutcome) : Prop where
  /-- The store shows what it has shown, and the instances are as they were. -/
  undisturbed : c.Undisturbed u.cluster
  /-- The bus has changed by what it has accepted and by nothing else. -/
  bus : u.cluster.bus = busAfter c.bus u.published
  /-- Whatever it has accepted is the message. -/
  carried : ∀ topic frame, (topic, frame) ∈ u.published → router.Carries m frame
  /-- If it has accepted anything, then no queue has changed. -/
  queues : u.published ≠ [] → u.cluster.queues = c.queues
  delivered : u.result = .delivered ↔
    (∃ user, m.receiver = some user ∧ c.Appended host user (.message m) u.cluster.queues) ∧
      u.published = []
  published : ∀ owner, u.result = .published owner ↔
    m.kind.isBroadcast = false ∧ router.PublishedTo m c owner u.published
  broadcast : u.result = .broadcast ↔
    m.kind.isBroadcast = true ∧ ∃ frame, u.published = [(router.topics.broadcast, frame)]
  dropped : (∃ reason, u.result = .dropped reason) ↔
    u.published = [] ∧ u.cluster.queues = c.queues
  room : ∀ recipients, u.result ≠ .room recipients
  /-- It is dropped just if something stood in the way. -/
  fails : (∃ reason, u.result = .dropped reason) ↔ ¬router.GetsThrough host m o c
  /-- Where the owner of the receiver does not listen on the topic for everybody, the topic tells
      the kind. -/
  apart : (∀ user owner, m.receiver = some user → c.Names user owner → owner ≠ router.id →
      router.topics.ofInstance owner ≠ router.topics.broadcast) →
    (∀ owner, u.result = .published owner ↔ router.PublishedTo m c owner u.published) ∧
      (u.result = .broadcast ↔ ∃ frame, u.published = [(router.topics.broadcast, frame)])

end Router

/-! ## Parts of the way -/

namespace Cluster

variable {self : Router} {host : Nat} {m : Message}

/-- A look-up finds the owner if the store answers and the entry names one, and disturbs nothing. -/
theorem runAmid_owner? (host : Nat) (user : UserId) (o : Outages) (c : Cluster) :
    ∃ reply slots, runAmid host (Registrar.owner? user) o c =
        { result := reply, cluster := c.withSlots slots, published := [],
          outages := o.afterStore } ∧
      (c.withSlots slots).seen = c.seen ∧
      ∀ id, reply = .ok (some id) ↔ c.StoreAnswers o ∧ c.Names user id := by
  rw [Registrar.owner?, Registrar.readEntry]
  by_cases hanswers : c.StoreAnswers o
  · have hseen : (c.withSlots (c.store.slots.call c.now (.get (Key.registry user.text))).2).seen =
        c.seen := Slots.visible_get _ _ _
    have hreply : (c.store.slots.call c.now (.get (Key.registry user.text))).1 =
        (c.seen (Key.registry user.text)).bind Slot.text? := Slots.call_get _ _ _
    simp only [runAmid_bind, runAmid_store host hanswers, hreply, Names, ownerIn, hanswers,
      true_and]
    cases (c.seen (Key.registry user.text)).bind Slot.text? with
    | none => exact ⟨_, _, rfl, hseen, fun id => Iff.rfl⟩
    | some text =>
      simp only
      cases RegistryEntry.ofJson? text with
      | none => exact ⟨_, _, rfl, hseen, fun id => Iff.rfl⟩
      | some entry => exact ⟨_, _, rfl, hseen, fun id => Iff.rfl⟩
  · rcases runAmid_store_of_not host hanswers (.get (Key.registry user.text)) with ⟨e, hfails⟩
    simp only [runAmid_bind, hfails]
    refine ⟨.error e, c.store.slots, rfl, rfl, fun id => ⟨fun h => ?_, fun h => ?_⟩⟩
    · cases h
    · exact absurd h.1 hanswers

/-- Whoever attends is handed the message, and nothing happens otherwise. -/
theorem runAmid_deliverTo (host : Nat) (user : UserId) (m : Message) (o : Outages) (c : Cluster) :
    (∃ session box, c.Attends host user session box ∧
      runAmid host (Router.deliverTo user m) o c =
        { result := true, published := [], outages := o
          cluster :=
            { c with queues := c.queues.insert session.queue (box.followedBy (.message m)) } }) ∨
      ((∀ session box, ¬c.Attends host user session box) ∧
        runAmid host (Router.deliverTo user m) o c =
          { result := false, cluster := c, published := [], outages := o }) := by
  rw [Router.deliverTo, runAmid_own_bind host (e := .findSession user) trivial]
  simp only [perform]
  cases hlisted : (c.directory host).find? user with
  | none =>
    refine Or.inr ⟨fun session box hattends => ?_, rfl⟩
    cases hattends.listed.symm.trans hlisted
  | some session =>
    simp only
    rw [runAmid_own_bind host (e := .isOpen session) trivial]
    rcases offer_of_listed hlisted (.message m) with ⟨box, hattends, htaken⟩ | ⟨hnot, e, hrefused⟩
    · simp only [perform, hattends.isOpen, if_true]
      rw [runAmid_own_bind host (e := .offer session (.message m)) trivial]
      simp only [perform, htaken]
      exact Or.inl ⟨session, box, hattends, rfl⟩
    · refine Or.inr ⟨hnot, ?_⟩
      cases hopen : c.isOpen session with
      | false =>
        simp only [perform, hopen, Bool.false_eq_true, if_false]
        rfl
      | true =>
        -- The client is there, and the queue is full.
        simp only [perform, hopen, if_true]
        rw [runAmid_own_bind host (e := .offer session (.message m)) trivial]
        simp only [perform, hrefused]
        rfl

/-- What fits into a frame is published if the bus accepts it, and nothing is otherwise. -/
theorem runAmid_publish (host : Nat) (topic : String) (o : Outages) (c : Cluster)
    (hself : Text.isBlank self.id.text = false) (hm : m.Named) :
    (self.CanPublish m o c ∧ ∃ frame reports, self.Carries m frame ∧
      runAmid host (self.publish topic m) o c =
        { result := true, published := [(topic, frame)], outages := o.afterBus
          cluster := { c with bus := (c.bus.publish topic frame).2, reports } }) ∨
      (¬self.CanPublish m o c ∧ ∃ reports later,
        runAmid host (self.publish topic m) o c =
          { result := false, cluster := { c with reports }, published := [],
            outages := later }) := by
  rw [Router.publish]
  cases hframe : BusFrame.encode { origin := self.id, message := m } with
  | error e =>
    refine Or.inr ⟨fun hcan => ?_, _, _, rfl⟩
    have hencodes := (BusFrame.encode_eq_ok_iff { origin := self.id, message := m } _).2
      ⟨hcan.fits, rfl⟩
    rw [hframe] at hencodes
    cases hencodes
  | ok frame =>
    have hfits := ((BusFrame.encode_eq_ok_iff _ _).1 hframe).1
    simp only
    rw [runAmid_bind, runAmid_perform, venture]
    cases hcall : o.bus 0 with
    | some e =>
      refine Or.inr ⟨fun hcan => ?_, _, _, rfl⟩
      cases hcan.call.symm.trans hcall
    | none =>
      rcases publish_cases c topic frame with
        ⟨hunavailable, e, hfails⟩ | ⟨havailable, reports, haccepted⟩
      · simp only [hfails]
        refine Or.inr ⟨fun hcan => ?_, _, _, rfl⟩
        cases hcan.available.symm.trans hunavailable
      · simp only [haccepted]
        exact Or.inl ⟨⟨hfits, hcall, havailable⟩, frame, reports,
          decode_of_encode_of_named hself hm hframe, rfl⟩

theorem Names.unique {c : Cluster} {user : UserId} {a b : InstanceId} (h : c.Names user a)
    (h' : c.Names user b) : a = b :=
  Option.some.inj (Except.ok.inj (h.symm.trans h'))

end Cluster

/-! ## What routing has done -/

namespace Router

variable {self : Router} {host : Nat} {m : Message} {o : Outages} {c : Cluster}

/-- A message for a user gets through only to an owner that can be read. -/
theorem GetsThrough.owner {user : UserId} (h : self.GetsThrough host m o c)
    (haudience : m.audience = .one user) :
    c.StoreAnswers o ∧ ∃ owner, c.Names user owner ∧
      ((owner = self.id ∧ ∃ session box, c.Attends host user session box) ∨
        owner ≠ self.id ∧ self.CanPublish m o c) := by
  cases h with
  | here receiver answers names attends =>
    cases haudience.symm.trans receiver
    exact ⟨answers, _, names, Or.inl ⟨rfl, _, _, attends⟩⟩
  | away receiver answers names other publish =>
    cases haudience.symm.trans receiver
    exact ⟨answers, _, names, Or.inr ⟨other, publish⟩⟩
  | everybody everybody publish => cases haudience.symm.trans everybody

/-- A message for a user of the instance does not get through to one who does not attend. -/
theorem not_getsThrough_of_absent {user : UserId} (haudience : m.audience = .one user)
    (hnames : c.Names user self.id)
    (habsent : ∀ session box, ¬c.Attends host user session box) :
    ¬self.GetsThrough host m o c := by
  intro hthrough
  rcases hthrough.owner haudience with ⟨_, owner, howner, ⟨_, session, box, h⟩ | ⟨hother, _⟩⟩
  · exact habsent session box h
  · exact hother (howner.unique hnames)

/-- A message for a user of another instance does not get through without a publication. -/
theorem not_getsThrough_of_not_canPublish {user : UserId} {owner : InstanceId}
    (haudience : m.audience = .one user) (hnames : c.Names user owner) (hother : owner ≠ self.id)
    (hcannot : ¬self.CanPublish m o c) : ¬self.GetsThrough host m o c := by
  intro hthrough
  rcases hthrough.owner haudience with ⟨_, owner', howner, ⟨rfl, _⟩ | ⟨_, hcan⟩⟩
  · exact hother (hnames.unique howner)
  · exact hcannot hcan

theorem tells_routeDirect (hself : Text.isBlank self.id.text = false) (hm : m.Named)
    {user : UserId} (haudience : m.audience = .one user) (host : Nat) (o : Outages) (c : Cluster) :
    self.Tells host m o c (runAmid host (self.routeDirect user m) o c) := by
  rcases runAmid_owner? host user o c with ⟨reply, slots, hlookup, hseen, howner⟩
  rw [routeDirect, runAmid_bind, hlookup]
  have hunread : (∀ id, reply ≠ .ok (some id)) → ¬self.GetsThrough host m o c := by
    intro hnone hthrough
    rcases hthrough.owner haudience with ⟨hanswers, owner, hnames, _⟩
    exact hnone owner ((howner owner).2 ⟨hanswers, hnames⟩)
  cases reply with
  | error e => exact ⟨.dropped _ (hunread fun _ h => by cases h) rfl, ⟨hseen, rfl⟩⟩
  | ok found =>
    cases found with
    | none => exact ⟨.dropped _ (hunread fun _ h => by cases h) rfl, ⟨hseen, rfl⟩⟩
    | some owner =>
      rcases (howner owner).1 rfl with ⟨hanswers, hnames⟩
      simp only
      by_cases hhere : owner = self.id
      · subst hhere
        simp only [if_true]
        rcases runAmid_deliverTo host user m o.afterStore (c.withSlots slots) with
          ⟨session, box, hattends, hrun⟩ | ⟨hnot, hrun⟩
        · rw [runAmid_bind, hrun]
          exact ⟨.delivered haudience hanswers hnames
            ⟨hattends.listed, hattends.queue, hattends.receiving, hattends.room⟩ rfl,
            ⟨hseen, rfl⟩⟩
        · rw [runAmid_bind, hrun]
          have hfails : ¬self.GetsThrough host m o c :=
            not_getsThrough_of_absent haudience hnames fun session box h =>
              hnot session box ⟨h.listed, h.queue, h.receiving, h.room⟩
          exact ⟨.dropped _ hfails rfl, ⟨hseen, rfl⟩⟩
      · simp only [if_neg hhere]
        rcases runAmid_publish host (self.topics.ofInstance owner) o.afterStore (c.withSlots slots)
          hself hm with ⟨hcan, frame, reports, hcarries, hrun⟩ | ⟨hcannot, reports, later, hrun⟩
        · rw [runAmid_bind, hrun]
          exact ⟨.published haudience hanswers hnames hhere
            ⟨hcan.fits, hcan.call, hcan.available⟩ hcarries rfl, ⟨hseen, rfl⟩⟩
        · rw [runAmid_bind, hrun]
          have hfails : ¬self.GetsThrough host m o c :=
            not_getsThrough_of_not_canPublish haudience hnames hhere fun hcan =>
              hcannot ⟨hcan.fits, hcan.call, hcan.available⟩
          exact ⟨.dropped _ hfails rfl, ⟨hseen, rfl⟩⟩

theorem tells_routeBroadcast (hself : Text.isBlank self.id.text = false) (hm : m.Named)
    (haudience : m.audience = .everybody) (host : Nat) (o : Outages) (c : Cluster) :
    self.Tells host m o c (runAmid host (self.routeBroadcast m) o c) := by
  rw [routeBroadcast]
  rcases runAmid_publish host self.topics.broadcast o c hself hm with
    ⟨hcan, frame, reports, hcarries, hrun⟩ | ⟨hcannot, reports, later, hrun⟩
  · rw [runAmid_bind, hrun]
    exact ⟨.broadcast haudience hcan hcarries rfl, ⟨rfl, rfl⟩⟩
  · rw [runAmid_bind, hrun]
    refine ⟨.dropped _ (fun hthrough => ?_) rfl, ⟨rfl, rfl⟩⟩
    cases hthrough with
    | here receiver => cases haudience.symm.trans receiver
    | away receiver => cases haudience.symm.trans receiver
    | everybody _ publish => exact hcannot publish

/-- The outcome of a message is counted in the end, and counting changes nothing but reports. -/
theorem runAmid_route (self : Router) (host : Nat) (m : Message) (o : Outages) (c : Cluster) :
    ∃ reports, runAmid host (self.route m) o c =
      { runAmid host (self.dispatch m) o c with
        cluster := { (runAmid host (self.dispatch m) o c).cluster with reports } } := by
  rw [route, runAmid_bind, Operation.count, runAmid_own_bind host (e := .count _ 1) trivial]
  exact ⟨_, by simp only [Upshot.after, runAmid_pure, List.append_nil]; rfl⟩

theorem tells_route (hself : Text.isBlank self.id.text = false) (hm : m.Named)
    (hroom : m.audience = .nobody → m.room = none) (host : Nat) (o : Outages) (c : Cluster) :
    self.Tells host m o c (runAmid host (self.route m) o c) := by
  rcases runAmid_route self host m o c with ⟨reports, hroute⟩
  have hdispatch : self.Tells host m o c (runAmid host (self.dispatch m) o c) := by
    cases haudience : m.audience with
    | everybody =>
      rw [dispatch, if_pos ((m.audience_eq_everybody_iff).1 haudience)]
      exact tells_routeBroadcast hself hm haudience host o c
    | one user =>
      rw [dispatch_of_audience haudience]
      exact tells_routeDirect hself hm haudience host o c
    | nobody =>
      rcases (m.audience_eq_nobody_iff).1 haudience with ⟨hkind, hreceiver⟩
      have htarget : self.dispatch m = do
          Operation.warn .messageHasNoTarget
          return .dropped .noTarget := by
        simp only [dispatch, hkind, hreceiver, hroom haudience, Bool.false_eq_true, if_false]
      rw [htarget]
      refine ⟨.dropped _ (fun hthrough => ?_) rfl, ⟨rfl, rfl⟩⟩
      cases hthrough with
      | here receiver => cases haudience.symm.trans receiver
      | away receiver => cases haudience.symm.trans receiver
      | everybody everybody => cases haudience.symm.trans everybody
  rw [hroute]
  exact ⟨hdispatch.told, ⟨hdispatch.undisturbed.seen, hdispatch.undisturbed.hosts⟩⟩

/-! ## Reading the outcome -/

section Reading

variable {queues : Table Nat (Mailbox Outbound)} {result : RouteOutcome}
  {published : List (String × Bytes)} (h : self.Told host m o c queues result published)

include h

theorem Told.carried (topic : String) (frame : Bytes) (hmem : (topic, frame) ∈ published) :
    self.Carries m frame := by
  cases h with
  | delivered | dropped => cases hmem
  | published _ _ _ _ _ carries | broadcast _ _ carries =>
    cases List.mem_singleton.1 hmem
    exact carries

theorem Told.queues_eq (hsome : published ≠ []) : queues = c.queues := by
  cases h with
  | delivered | dropped => exact absurd rfl hsome
  | published _ _ _ _ _ _ same | broadcast _ _ _ same => exact same

theorem Told.ne_room (recipients : Nat) : result ≠ .room recipients := by
  rintro rfl
  cases h

theorem Told.delivered_iff :
    result = .delivered ↔
      (∃ user, m.receiver = some user ∧ c.Appended host user (.message m) queues) ∧
        published = [] := by
  constructor
  · rintro rfl
    cases h with
    | @delivered user session box receiver _ _ attends appended =>
      exact ⟨⟨user, ((m.audience_eq_one_iff user).1 receiver).2, session, box, attends.listed,
        attends.queue, appended⟩, rfl⟩
  · rintro ⟨⟨user, _, happended⟩, hnothing⟩
    cases h with
    | delivered => rfl
    | published | broadcast => cases hnothing
    | dropped _ _ same => exact absurd same happended.ne

theorem Told.published_iff (owner : InstanceId) :
    result = .published owner ↔
      m.kind.isBroadcast = false ∧ self.PublishedTo m c owner published := by
  constructor
  · rintro rfl
    cases h with
    | @published user _ frame receiver _ names other _ carries _ =>
      rcases (m.audience_eq_one_iff user).1 receiver with ⟨hkind, hreceiver⟩
      exact ⟨hkind, user, frame, hreceiver, names, other, rfl, carries⟩
  · rintro ⟨hkind, user, frame, hreceiver, hnames, _, hpublished, _⟩
    cases h with
    | delivered | dropped => cases hpublished
    | broadcast everybody =>
      rw [m.audience_eq_everybody_iff, hkind] at everybody
      cases everybody
    | published receiver _ names =>
      -- The receiver has one owner.
      rw [((m.audience_eq_one_iff _).1 receiver).2, Option.some.injEq] at hreceiver
      subst hreceiver
      rw [names.unique hnames]

theorem Told.broadcast_iff :
    result = .broadcast ↔
      m.kind.isBroadcast = true ∧ ∃ frame, published = [(self.topics.broadcast, frame)] := by
  constructor
  · rintro rfl
    cases h with
    | broadcast everybody => exact ⟨(m.audience_eq_everybody_iff).1 everybody, _, rfl⟩
  · rintro ⟨hkind, frame, hpublished⟩
    cases h with
    | delivered | dropped => cases hpublished
    | broadcast => rfl
    | published receiver =>
      rw [((m.audience_eq_one_iff _).1 receiver).1] at hkind
      cases hkind

theorem Told.dropped_iff :
    (∃ reason, result = .dropped reason) ↔ published = [] ∧ queues = c.queues := by
  constructor
  · rintro ⟨reason, rfl⟩
    cases h with
    | dropped _ _ same => exact ⟨rfl, same⟩
  · rintro ⟨hnothing, hsame⟩
    cases h with
    | @delivered user session box _ _ _ attends appended =>
      have happended : c.Appended host user (.message m) queues :=
        ⟨session, box, attends.listed, attends.queue, appended⟩
      exact absurd hsame happended.ne
    | published | broadcast => cases hnothing
    | dropped reason => exact ⟨reason, rfl⟩

theorem Told.dropped_iff_not_getsThrough :
    (∃ reason, result = .dropped reason) ↔ ¬self.GetsThrough host m o c := by
  constructor
  · rintro ⟨reason, rfl⟩
    cases h with
    | dropped _ fails => exact fails
  · intro hfails
    cases h with
    | delivered receiver answers names attends =>
      exact absurd (.here receiver answers names attends) hfails
    | published receiver answers names other publish =>
      exact absurd (.away receiver answers names other publish) hfails
    | broadcast everybody publish => exact absurd (.everybody everybody publish) hfails
    | dropped reason => exact ⟨reason, rfl⟩

/-- Where the owner of the receiver does not listen on the topic for everybody, the topic tells
    whether a message has gone to its receiver or to everybody. -/
theorem Told.iff_of_apart
    (hapart : ∀ user owner, m.receiver = some user → c.Names user owner → owner ≠ self.id →
      self.topics.ofInstance owner ≠ self.topics.broadcast) :
    (∀ owner, result = .published owner ↔ self.PublishedTo m c owner published) ∧
      (result = .broadcast ↔ ∃ frame, published = [(self.topics.broadcast, frame)]) := by
  constructor
  · intro owner
    refine ⟨fun hresult => ((h.published_iff owner).1 hresult).2, fun hpublished => ?_⟩
    refine (h.published_iff owner).2 ⟨?_, hpublished⟩
    rcases hpublished with ⟨user, frame, hreceiver, hnames, hother, hpublished, _⟩
    cases hkind : m.kind.isBroadcast with
    | false => rfl
    | true =>
      cases h with
      | delivered | dropped => cases hpublished
      | published receiver =>
        rw [((m.audience_eq_one_iff _).1 receiver).1] at hkind
        cases hkind
      | broadcast =>
        have htopics := congrArg Prod.fst (List.cons.inj hpublished).1
        exact absurd htopics.symm (hapart user owner hreceiver hnames hother)
  · refine ⟨fun hresult => (h.broadcast_iff.1 hresult).2, fun hpublished => ?_⟩
    rcases hpublished with ⟨frame, hpublished⟩
    cases h with
    | delivered | dropped => cases hpublished
    | broadcast => rfl
    | published receiver _ names other =>
      have htopics := congrArg Prod.fst (List.cons.inj hpublished).1
      exact absurd htopics (hapart _ _ ((m.audience_eq_one_iff _).1 receiver).2 names other)

end Reading

/-- Whatever the cluster is like and however store and bus fail, the outcome of routing a message of
    proper names, for a user, for everybody or for nobody, tells all that has been done. -/
theorem route_tells_all (hself : Text.isBlank self.id.text = false) (hm : m.Named)
    (hroom : m.audience = .nobody → m.room = none) (host : Nat) (o : Outages) (c : Cluster) :
    self.Truthful host m o c (runAmid host (self.route m) o c) := by
  rcases tells_route hself hm hroom host o c with ⟨htold, hundisturbed⟩
  exact
    { undisturbed := hundisturbed
      bus := bus_runAmid host _ o c
      carried := htold.carried
      queues := htold.queues_eq
      delivered := htold.delivered_iff
      published := htold.published_iff
      broadcast := htold.broadcast_iff
      dropped := htold.dropped_iff
      room := htold.ne_room
      fails := htold.dropped_iff_not_getsThrough
      apart := htold.iff_of_apart }

/-- The bus times out whenever it is called. -/
def busDown : Outages :=
  { Outages.none with bus := fun _ => some (.timeout 1000) }

/-- The second instance publishes a message for a user of the first one. When the bus does not
    answer, the message is dropped, and nothing has happened. -/
theorem route_tells_all_hello :
    ((Profile.standard ⟨"b"⟩).router.PublishedTo helloToU attendedAtFirst ⟨"a"⟩
        (runAmid 1 ((Profile.standard ⟨"b"⟩).router.route helloToU) .none
          attendedAtFirst).published) ∧
      (runAmid 1 ((Profile.standard ⟨"b"⟩).router.route helloToU) busDown
        attendedAtFirst).published = [] ∧
      (runAmid 1 ((Profile.standard ⟨"b"⟩).router.route helloToU) busDown
        attendedAtFirst).cluster.queues = attendedAtFirst.queues := by
  have hnamed : helloToU.Named := named_stamp _ 7 5 (by decide)
  have htruth : ∀ o, (Profile.standard ⟨"b"⟩).router.Truthful 1 helloToU o attendedAtFirst
      (runAmid 1 ((Profile.standard ⟨"b"⟩).router.route helloToU) o attendedAtFirst) :=
    fun o => route_tells_all (by decide) hnamed (fun _ => rfl) 1 o attendedAtFirst
  constructor
  · have hresult : (runAmid 1 ((Profile.standard ⟨"b"⟩).router.route helloToU) .none
        attendedAtFirst).result = .published ⟨"a"⟩ := by
      decide +kernel
    exact (((htruth .none).published ⟨"a"⟩).1 hresult).2
  · refine (htruth busDown).dropped.1 ((htruth busDown).fails.2 fun hthrough => ?_)
    have haudience : helloToU.audience = .one ⟨"u"⟩ := by decide
    rcases hthrough.owner haudience with ⟨_, owner, hnames, ⟨hhere, _⟩ | ⟨_, hpublish⟩⟩
    · have hother : (⟨"a"⟩ : InstanceId) = ⟨"b"⟩ :=
        (names_attendedAtFirst.unique hnames).trans hhere
      exact absurd hother (by decide)
    · cases hpublish.call

/-- An instance that takes the topic of another one for the topic for everybody. -/
def onSharedTopic : Router :=
  { id := ⟨"b"⟩, topics := { Topics.standard with broadcast := "chat.instance.a" } }

/-- One frame on the topic for everybody does not mean that the message has gone to everybody, where
    that topic is the one of its receiver's owner. -/
theorem one_frame_for_everybody_not_broadcast :
    Text.isBlank onSharedTopic.id.text = false ∧ helloToU.Named ∧ helloToU.receiver = some ⟨"u"⟩ ∧
      ¬((runAmid 1 (onSharedTopic.route helloToU) .none attendedAtFirst).result = .broadcast ↔
        ∃ frame, (runAmid 1 (onSharedTopic.route helloToU) .none attendedAtFirst).published =
          [(onSharedTopic.topics.broadcast, frame)]) := by
  have hnamed : helloToU.Named := named_stamp _ 7 5 (by decide)
  refine ⟨by decide, hnamed, rfl, fun hiff => ?_⟩
  have hresult : (runAmid 1 (onSharedTopic.route helloToU) .none attendedAtFirst).result =
      .published ⟨"a"⟩ := by
    decide +kernel
  have htold : onSharedTopic.Told 1 helloToU .none attendedAtFirst _ _ _ :=
    (tells_route (by decide) hnamed (fun _ => rfl) 1 .none attendedAtFirst).told
  rcases ((htold.published_iff ⟨"a"⟩).1 hresult).2 with ⟨_, frame, _, _, _, hpublished, _⟩
  rw [hiff.2 ⟨frame, hpublished⟩] at hresult
  cases hresult

end Router

end ChatCluster
