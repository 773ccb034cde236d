import ChatCluster.Draft
import ChatCluster.Proofs.Instance.Arrival
import ChatCluster.Proofs.Registry.Entries
import ChatCluster.Proofs.Registry.Ownership

/-!
# Handing Over Here and Elsewhere

A message for a user takes one of two ways. If the entry of the user names the instance that
routes, the message goes straight into the queue of the user's session. Otherwise it is written
into a frame, and the instance that takes the frame in looks the session up and offers what it has
read. Both ways end in the same: the message stands at the end of the queue, equal in every field.

The way over the bus is the longer one, and it is strict about blank names. A message that was
stamped has none, if its sender and the instance have proper names: a blank name of the message is
replaced before it leaves, and a blank receiver or room is none at all.

Notices always go over the bus, and whoever takes one in offers it to every session.

## Main definitions

* `HandsOver`: Routing a message for a user ends in its session's queue, on either way.
* `Notifies`: Routing a notice ends in the queues of all who take it in.
* `Cluster.copiesSent`: Copies of a message have been sent to some members.

## Theorems

* `named_stamp`: A stamped message has proper names.
* `handsOver_routeDirect`: A message of proper names is handed over alike.
* `handed_over_alike`: A stamped message and each copy of it are handed over alike.
-/

namespace ChatCluster

/-! ## Proper names -/

theorem isBlank_uuid (serial : Nat) : Text.isBlank (uuid serial) = false := by
  -- The dashes are not white space.
  have hdash : ['-'].all Text.isSpace = false := by decide
  simp only [Text.isBlank, uuid, String.toList_ofList, List.all_append, hdash, Bool.and_false,
    Bool.false_and]

/-- A stamped message has proper names, whatever the client has written. -/
theorem named_stamp (d : Draft) (serial : Nat) {sender : UserId} (now : Int64)
    (hsender : Text.isBlank sender.text = false) :
    (d.stamp (.spare serial) sender now).Named where
  id := by
    rw [Draft.stamp, MessageId.orElse]
    split
    · exact isBlank_uuid serial
    · next hblank => exact Bool.eq_false_iff.2 hblank
  sender := hsender
  receiver := by
    intro u hu
    rcases Option.bind_eq_some_iff.1 hu with ⟨text, _, htext⟩
    exact (UserId.ofText?_eq_some_iff.1 htext).2
  room := by
    intro r hr
    rcases Option.bind_eq_some_iff.1 hr with ⟨text, _, htext⟩
    exact (RoomId.ofText?_eq_some_iff.1 htext).2

theorem Message.Named.addressedTo {m : Message} (h : m.Named) {user : UserId}
    (huser : Text.isBlank user.text = false) : (m.addressedTo user).Named where
  id := h.id
  sender := h.sender
  receiver := fun _ hu => Option.some.inj hu ▸ huser
  room := h.room

/-- A message of proper names is read out of its frame as it was. -/
theorem decode_of_encode_of_named {origin : InstanceId} {m : Message} {frame : Bytes}
    (horigin : Text.isBlank origin.text = false) (hm : m.Named)
    (h : BusFrame.encode { origin, message := m } = .ok frame) (spare : MessageId) :
    BusFrame.decode spare frame = .ok { origin, message := m } :=
  (BusFrame.decode_eq_ok_iff_of_encode spare h).2
    ⟨InstanceId.ofText?_eq_some_iff.2 ⟨rfl, horigin⟩, Wire.Letter.toMessage_ofMessage m spare hm⟩

/-! ## Steps on either way -/

namespace Cluster

variable {c : Cluster} {host : Nat}

/-- A look-up says whom the entry names, and does no more than sweep the store. -/
theorem runAlone_owner?_slots (host : Nat) (user : UserId) (h : c.store.fault = none) :
    ∃ slots, runAlone host (Registrar.owner? user) c =
      (ownerIn (c.seen (Key.registry user.text)), c.withSlots slots) := by
  have hread : ∃ slots, (runAlone host (Registrar.readEntry user) c).2 = c.withSlots slots := by
    rw [Registrar.readEntry, runAlone_bind, runAlone_store host _ h]
    cases (c.store.slots.call c.now (.get (Key.registry user.text))).1 with
    | none => exact ⟨_, rfl⟩
    | some text =>
      simp only
      cases RegistryEntry.ofJson? text <;> exact ⟨_, rfl⟩
  rcases hread with ⟨slots, hslots⟩
  refine ⟨slots, Prod.ext (runAlone_owner?_seen user host h) ?_⟩
  rw [← hslots, Registrar.owner?, runAlone_bind]
  cases (runAlone host (Registrar.readEntry user) c).1 <;> rfl

/-- What can be framed is published, if the bus accepts it. -/
theorem runAlone_publish (c : Cluster) (host : Nat) {self : Router} (topic : String) {m : Message}
    {frame : Bytes}
    (hframe : BusFrame.encode { origin := self.id, message := m } = .ok frame)
    (hbus : c.bus.unavailable = false) :
    (runAlone host (self.publish topic m) c).1 = true ∧
      (runAlone host (self.publish topic m) c).2.queues = c.queues ∧
      (runAlone host (self.publish topic m) c).2.bus = (c.bus.publish topic frame).2 := by
  have hperform : (c.perform host (.publish topic frame)).1 = .ok () := by
    simp only [perform, publish, MemoryBus.publish, hbus, Bool.false_eq_true, if_false]
  have hqueues := queues_perform c host (.publish topic frame)
  have hafter := bus_perform c host (.publish topic frame)
  rw [Router.publish]
  simp only [hframe]
  rw [runAlone_bind, runAlone_perform, hperform]
  exact ⟨rfl, hqueues, hafter⟩

/-- Whoever takes in a frame deals with what was published in it. -/
theorem runAlone_receive {frame : Bytes} {f : BusFrame}
    (h : BusFrame.decode (.spare c.serial) frame = .ok f) :
    runAlone host (Router.receive frame) c =
      runAlone host (Router.deliver f.message) { c with serial := c.serial + 1 } := by
  rw [Router.receive, runAlone_bind, runAlone_perform]
  simp only [perform, h]

end Cluster

/-! ## Messages for one user -/

open Cluster

/-- Routing a message for a user puts it, as it is, at the end of the queue of the user's session:
    at once where the entry names the instance that routes, and otherwise by one frame on the topic
    of the owner, which does so for whoever takes it in while the user attends there. -/
structure HandsOver (router : Router) (host : Nat) (op : Operation RouteOutcome) (user : UserId)
    (m : Message) (c : Cluster) : Prop where
  here : c.store.fault = none → c.Names user router.id →
    ∀ session box, c.Attends host user session box →
      (runAlone host op c).1 = .delivered ∧
        (runAlone host op c).2.queues =
          c.queues.insert session.queue (box.followedBy (.message m)) ∧
        (runAlone host op c).2.bus = c.bus
  away : c.store.fault = none → ∀ owner, owner ≠ router.id → c.Names user owner →
    (Wire.Envelope.ofMessage router.id m).encode.length ≤ Wire.maxFrameSize →
    c.bus.unavailable = false →
    ∃ frame, (runAlone host op c).1 = .published owner ∧
      (runAlone host op c).2.queues = c.queues ∧
      (runAlone host op c).2.bus = (c.bus.publish (router.topics.ofInstance owner) frame).2 ∧
      ∀ (later : Cluster) (other : Nat) session box, later.Attends other user session box →
        (runAlone other (Router.receive frame) later).1 = 1 ∧
          (runAlone other (Router.receive frame) later).2.queues =
            later.queues.insert session.queue (box.followedBy (.message m))

section Direct

variable {self : Router} {host : Nat} {user : UserId} {m : Message}

/-- A message of proper names is handed over alike on either way. -/
theorem handsOver_routeDirect (hself : Text.isBlank self.id.text = false) (hm : m.Named)
    (haudience : m.audience = .one user) (c : Cluster) :
    HandsOver self host (self.routeDirect user m) user m c where
  here := by
    intro hhealthy hnames session box hattends
    rcases runAlone_owner?_slots host user hhealthy with ⟨slots, howner⟩
    have hthere : (c.withSlots slots).Attends host user session box :=
      ⟨hattends.listed, hattends.queue, hattends.receiving, hattends.room⟩
    rcases runAlone_deliverTo hthere m with ⟨htaken, hafter⟩
    rw [Names] at hnames
    rw [Router.routeDirect, runAlone_bind, howner, hnames]
    simp only [if_true]
    rw [runAlone_bind, htaken, hafter]
    exact ⟨rfl, rfl, rfl⟩
  away := by
    intro hhealthy owner hne hnames hsize hbus
    rcases runAlone_owner?_slots host user hhealthy with ⟨slots, howner⟩
    obtain ⟨frame, hframe⟩ : ∃ frame, BusFrame.encode { origin := self.id, message := m } =
        .ok frame := ⟨_, (BusFrame.encode_eq_ok_iff _ _).2 ⟨hsize, rfl⟩⟩
    rcases runAlone_publish (c.withSlots slots) host (self.topics.ofInstance owner) hframe hbus
      with ⟨hdone, hqueues, hafter⟩
    rw [Names] at hnames
    have hroute : (runAlone host (self.routeDirect user m) c).1 = .published owner ∧
        (runAlone host (self.routeDirect user m) c).2 =
          (runAlone host (self.publish (self.topics.ofInstance owner) m)
            (c.withSlots slots)).2 := by
      rw [Router.routeDirect, runAlone_bind, howner, hnames]
      simp only [if_neg hne]
      rw [runAlone_bind, hdone]
      exact ⟨rfl, rfl⟩
    refine ⟨frame, hroute.1, hroute.2 ▸ hqueues, hroute.2 ▸ hafter,
      fun later other session box hattends => ?_⟩
    rw [runAlone_receive (decode_of_encode_of_named hself hm hframe _)]
    exact runAlone_deliver_of_audience haudience
      ⟨hattends.listed, hattends.queue, hattends.receiving, hattends.room⟩

theorem dispatch_of_audience (haudience : m.audience = .one user) :
    self.dispatch m = self.routeDirect user m := by
  rcases (m.audience_eq_one_iff user).1 haudience with ⟨hkind, hreceiver⟩
  simp only [Router.dispatch, hkind, hreceiver, Bool.false_eq_true, if_false]

/-- The outcome of a message is counted in the end, and counting changes nothing else. -/
theorem Cluster.runAlone_route (self : Router) (host : Nat) (m : Message) (c : Cluster) :
    (runAlone host (self.route m) c).1 = (runAlone host (self.dispatch m) c).1 ∧
      (runAlone host (self.route m) c).2.queues = (runAlone host (self.dispatch m) c).2.queues ∧
      (runAlone host (self.route m) c).2.bus = (runAlone host (self.dispatch m) c).2.bus := by
  rw [Router.route, runAlone_bind]
  exact ⟨rfl, rfl, rfl⟩

theorem handsOver_route (hself : Text.isBlank self.id.text = false) (hm : m.Named)
    (haudience : m.audience = .one user) (c : Cluster) :
    HandsOver self host (self.route m) user m c := by
  have hdirect : HandsOver self host (self.routeDirect user m) user m c :=
    handsOver_routeDirect hself hm haudience c
  rcases runAlone_route self host m c with ⟨hresult, hqueues, hbus⟩
  rw [dispatch_of_audience haudience] at hresult hqueues hbus
  constructor
  · rw [hresult, hqueues, hbus]
    exact hdirect.here
  · rw [hresult, hqueues, hbus]
    exact hdirect.away

end Direct

/-! ## Notices -/

/-- Routing a notice puts one frame on the topic for everybody, and whoever takes it in puts the
    notice, as it is, at the end of the queue of every user who attends there. -/
def Notifies (router : Router) (host : Nat) (op : Operation RouteOutcome) (m : Message)
    (c : Cluster) : Prop :=
  (Wire.Envelope.ofMessage router.id m).encode.length ≤ Wire.maxFrameSize →
    c.bus.unavailable = false →
    ∃ frame, (runAlone host op c).1 = .broadcast ∧
      (runAlone host op c).2.queues = c.queues ∧
      (runAlone host op c).2.bus = (c.bus.publish router.topics.broadcast frame).2 ∧
      ∀ (later : Cluster) (other : Nat) user session box, later.QueuesApart other →
        later.Attends other user session box →
          (runAlone other (Router.receive frame) later).2.queues.find? session.queue =
            some (box.followedBy (.message m))

section Notices

variable {self : Router} {host : Nat} {m : Message}

theorem notifies_route (hself : Text.isBlank self.id.text = false) (hm : m.Named)
    (hkind : m.kind.isBroadcast = true) (c : Cluster) :
    Notifies self host (self.route m) m c := by
  intro hsize hbus
  obtain ⟨frame, hframe⟩ : ∃ frame, BusFrame.encode { origin := self.id, message := m } =
      .ok frame := ⟨_, (BusFrame.encode_eq_ok_iff _ _).2 ⟨hsize, rfl⟩⟩
  rcases runAlone_publish c host self.topics.broadcast hframe hbus with ⟨hdone, hqueues, hafter⟩
  have hbroadcast : runAlone host (self.dispatch m) c =
      (.broadcast, (runAlone host (self.publish self.topics.broadcast m) c).2) := by
    rw [Router.dispatch, if_pos hkind, Router.routeBroadcast, runAlone_bind, hdone]
    rfl
  have hroute := runAlone_route self host m c
  rw [hbroadcast] at hroute
  refine ⟨frame, hroute.1, hroute.2.1.trans hqueues, hroute.2.2.trans hafter,
    fun later other user session box hapart hattends => ?_⟩
  rw [runAlone_receive (decode_of_encode_of_named hself hm hframe _)]
  exact find?_queues_deliver_of_notice (c := { later with serial := later.serial + 1 }) hkind hapart
    ⟨hattends.listed, hattends.queue, hattends.receiving, hattends.room⟩

end Notices

/-! ## Messages for a room -/

/-- The cluster when copies of a message have been sent to some members of a room, one after
    another. -/
def Cluster.copiesSent (c : Cluster) (self : Router) (host : Nat) (m : Message)
    (members : List UserId) : Cluster :=
  members.foldl (fun c user => (runAlone host (self.routeDirect user (m.addressedTo user)) c).2) c

theorem Cluster.runAlone_routeCopies (self : Router) (host : Nat) (m : Message)
    (members : List UserId) (served : Nat) (c : Cluster) :
    (runAlone host (self.routeCopies m members served) c).2 =
      c.copiesSent self host m members := by
  induction members generalizing c served with
  | nil => rfl
  | cons user rest ih =>
    rw [Router.routeCopies, runAlone_bind, ih]
    rfl

/-- The members of a room are named by others, but nobody among them has a blank name. -/
theorem Cluster.runAlone_roomMembers (room : RoomId) (host : Nat) {c : Cluster}
    (h : c.store.fault = none) :
    ∃ members, (runAlone host (Registrar.roomMembers room) c).1 = .ok members ∧
      ∀ user ∈ members, Text.isBlank user.text = false := by
  rw [Registrar.roomMembers, runAlone_bind, runAlone_store host _ h]
  refine ⟨_, rfl, fun user huser => ?_⟩
  rcases List.mem_filterMap.1 huser with ⟨text, _, htext⟩
  exact (UserId.ofText?_eq_some_iff.1 htext).2

/-- A message for a room goes to each of the members but its sender in turn. -/
theorem Cluster.runAlone_route_of_room (self : Router) {host : Nat} {m : Message} {room : RoomId}
    {members : List UserId} {c : Cluster} (hkind : m.kind.isBroadcast = false)
    (hreceiver : m.receiver = none) (hroom : m.room = some room)
    (hmembers : (runAlone host (Registrar.roomMembers room) c).1 = .ok members) :
    (∃ served, (runAlone host (self.route m) c).1 = .room served) ∧
      (runAlone host (self.route m) c).2.queues =
        ((runAlone host (Registrar.roomMembers room) c).2.copiesSent self host m
          (members.filter fun user => user ≠ m.sender)).queues ∧
      (runAlone host (self.route m) c).2.bus =
        ((runAlone host (Registrar.roomMembers room) c).2.copiesSent self host m
          (members.filter fun user => user ≠ m.sender)).bus := by
  have hdispatch : self.dispatch m = self.routeRoom room m := by
    simp only [Router.dispatch, hkind, hreceiver, hroom, Bool.false_eq_true, if_false]
  rcases runAlone_route self host m c with ⟨hresult, hqueues, hbus⟩
  rw [hresult, hqueues, hbus, hdispatch, Router.routeRoom, runAlone_bind, hmembers]
  simp only
  rw [runAlone_bind, ← runAlone_routeCopies self host m _ 0]
  exact ⟨⟨_, rfl⟩, rfl, rfl⟩

/-- A stamped message for a user ends in the queue of the user's session as it was stamped, whether
    the entry names the instance that routes or another one. So does each copy of a message for a
    room, whatever has come of the copies before it. A notice ends as it was stamped in the queue of
    everybody who attends where it is taken in. -/
theorem handed_over_alike (self : Router) {sender : UserId}
    (hself : Text.isBlank self.id.text = false) (hsender : Text.isBlank sender.text = false)
    (d : Draft) (serial : Nat) (now : Int64) {m : Message}
    (hm : m = d.stamp (.spare serial) sender now) (host : Nat) (c : Cluster) :
    (∀ user, m.audience = .one user → HandsOver self host (self.route m) user m c) ∧
      (m.audience = .everybody → Notifies self host (self.route m) m c) ∧
      ∀ room, m.audience = .nobody → m.room = some room → c.store.fault = none →
        ∃ members, (runAlone host (Registrar.roomMembers room) c).1 = .ok members ∧
          (∃ served, (runAlone host (self.route m) c).1 = .room served) ∧
          (runAlone host (self.route m) c).2.queues =
            ((runAlone host (Registrar.roomMembers room) c).2.copiesSent self host m
              (members.filter fun user => user ≠ m.sender)).queues ∧
          (runAlone host (self.route m) c).2.bus =
            ((runAlone host (Registrar.roomMembers room) c).2.copiesSent self host m
              (members.filter fun user => user ≠ m.sender)).bus ∧
          ∀ user ∈ members, ∀ between,
            HandsOver self host (self.routeDirect user (m.addressedTo user)) user
              (m.addressedTo user) between := by
  have hnamed : m.Named := hm ▸ named_stamp d serial now hsender
  refine ⟨fun user haudience => handsOver_route hself hnamed haudience c, fun haudience => ?_,
    fun room haudience hroom hhealthy => ?_⟩
  · exact notifies_route hself hnamed ((m.audience_eq_everybody_iff).1 haudience) c
  · rcases (m.audience_eq_nobody_iff).1 haudience with ⟨hkind, hreceiver⟩
    rcases runAlone_roomMembers room host hhealthy with ⟨members, hmembers, hproper⟩
    rcases runAlone_route_of_room self hkind hreceiver hroom hmembers
      with ⟨hresult, hqueues, hbus⟩
    refine ⟨members, hmembers, hresult, hqueues, hbus, fun user huser between => ?_⟩
    exact handsOver_routeDirect hself (hnamed.addressedTo (hproper user huser))
      ((Message.audience_eq_one_iff _ user).2 ⟨hkind, rfl⟩) between

/-- A user attends at the first of two instances. -/
def attendedAtFirst : Cluster :=
  ((twoInstances.move (.connect 0 2)).runAlone 0
    ((Profile.standard ⟨"a"⟩).registrar.register ⟨0, ⟨1⟩, ⟨"u"⟩⟩)).2

/-- A message for that user. -/
def helloToU : Message :=
  (Draft.toUser "u" "hello").stamp (.spare 7) ⟨"v"⟩ 5

theorem attends_attendedAtFirst :
    attendedAtFirst.Attends 0 ⟨"u"⟩ ⟨0, ⟨1⟩, ⟨"u"⟩⟩ (.new 2) where
  listed := rfl
  queue := rfl
  receiving := rfl
  room := by decide

theorem names_attendedAtFirst : attendedAtFirst.Names ⟨"u"⟩ ⟨"a"⟩ := by
  rcases seen_register (Profile.standard ⟨"a"⟩).registrar 0 (c := twoInstances.move (.connect 0 2))
    ⟨0, ⟨1⟩, ⟨"u"⟩⟩ rfl with ⟨e, howner, hseen⟩
  rw [Names, attendedAtFirst, hseen, Function.update_self, ownerIn_renewed _ _ (by decide),
    ownerIn_entry, howner]
  rfl

/-- Whichever of the two instances routes the message, it is the same that the user gets. -/
theorem handed_over_hello :
    (((attendedAtFirst.runAlone 0 ((Profile.standard ⟨"a"⟩).router.route helloToU)).2.queues.find?
        0).map Mailbox.items = some [.message helloToU]) ∧
      ∃ frame, (attendedAtFirst.runAlone 1
          ((Profile.standard ⟨"b"⟩).router.route helloToU)).1 = .published ⟨"a"⟩ ∧
        ((attendedAtFirst.runAlone 0 (Router.receive frame)).2.queues.find? 0).map Mailbox.items =
          some [.message helloToU] := by
  have hattends := attends_attendedAtFirst
  have hnames := names_attendedAtFirst
  have haudience : helloToU.audience = .one ⟨"u"⟩ := by decide
  have hsender : Text.isBlank (UserId.mk "v").text = false := by decide
  constructor
  · have hover := (handed_over_alike (Profile.standard ⟨"a"⟩).router (by decide) hsender
      (.toUser "u" "hello") 7 5 (m := helloToU) rfl 0 attendedAtFirst).1 ⟨"u"⟩ haudience
    rw [(hover.here rfl hnames _ _ hattends).2.1, Table.find?_insert_self]
    rfl
  · have hover := (handed_over_alike (Profile.standard ⟨"b"⟩).router (by decide) hsender
      (.toUser "u" "hello") 7 5 (m := helloToU) rfl 1 attendedAtFirst).1 ⟨"u"⟩ haudience
    rcases hover.away rfl ⟨"a"⟩ (by decide) hnames (by decide +kernel) rfl
      with ⟨frame, hresult, _, _, htaken⟩
    refine ⟨frame, hresult, ?_⟩
    rw [(htaken attendedAtFirst 0 _ _ hattends).2, Table.find?_insert_self]
    rfl

end ChatCluster
