import ChatCluster.Proofs.Instance.Outcomes

/-!
# Copies for the Members of a Room

A message for a room goes to its members one after another, each getting a copy that differs from
the message in its receiver only. Every copy goes its own way: it is looked up and sent like any
message for one user, in the cluster that the copies before it have left behind, and it gets
through or does not get through as such a message would. What has become of the others makes no
difference but by the space that they have taken up in a queue.

The store shows the same from beginning to end, so it is the members as they were in the beginning
who get a copy, by the owners and sessions that they had. Nobody is listed twice, and the sender is
passed over.

## Main definitions

* `Cluster.InRoom`, `Cluster.othersIn`: Members, and those of them who get a copy.
* `Leg`: One copy on its way.
* `Router.legs`, `Router.roomLegs`: The ways of all copies, one after another.
* `Router.FansOut`: Each copy goes its own way, and that is all.

## Theorems

* `Cluster.mem_othersIn_iff`, `Cluster.nodup_othersIn`: Who gets a copy, and nobody gets two.
* `Router.FansOut.cons`: One copy, and then the others.
* `Router.fansOut_routeCopies`: The copies for some members.
* `Router.route_fans_out`: A message for a room.
-/

namespace ChatCluster

open Cluster

/-- The user is in the room, under a proper name. -/
def Cluster.InRoom (c : Cluster) (room : RoomId) (user : UserId) : Prop :=
  Text.isBlank user.text = false ∧
    ∃ slot, c.seen (Key.roomMembers room.text) = some slot ∧ user.text ∈ slot.members

/-- Who is in the room under a proper name but for the sender, in the order of the names. -/
def Cluster.othersIn (c : Cluster) (room : RoomId) (sender : UserId) : List UserId :=
  ((sortTexts (((c.seen (Key.roomMembers room.text)).map Slot.members).getD [])).filterMap
    UserId.ofText?).filter fun user => user ≠ sender

/-- One copy on its way. -/
structure Leg where
  /-- The member whom it is for. -/
  member : UserId
  /-- The outages when it sets out. -/
  outages : Outages
  /-- The cluster when it sets out. -/
  before : Cluster
  /-- What has come of it. -/
  upshot : Upshot RouteOutcome

/-- The copy has been handed over. -/
def Leg.served (leg : Leg) : Bool :=
  leg.upshot.result.reachesReceiver

/-- What the copy has left in a queue at the instance. -/
def Leg.left (host : Nat) (m : Message) (queue : Nat) (leg : Leg) : List Outbound :=
  if leg.upshot.result = .delivered ∧
      ((leg.before.directory host).find? leg.member).map SessionHandle.queue = some queue then
    [.message (m.addressedTo leg.member)]
  else []

namespace Router

variable (router : Router) (host : Nat) (m : Message)

/-- The ways of the copies for some members: each is routed for itself, and sets out where the one
    before it has ended. -/
def legs : List UserId → Outages → Cluster → List Leg
  | [], _, _ => []
  | member :: rest, o, c =>
    let upshot := runAmid host (router.routeDirect member (m.addressedTo member)) o c
    { member, outages := o, before := c, upshot } :: legs rest upshot.outages upshot.cluster

/-- The ways of the copies of a message for a room, when the members have been read. -/
def roomLegs (room : RoomId) (o : Outages) (c : Cluster) : List Leg :=
  router.legs host m (c.othersIn room m.sender) o.afterStore
    (c.withSlots (c.store.slots.sweep c.now (Key.roomMembers room.text)))

/-- Each copy goes its own way, and that is all that happens. -/
structure FansOut {α : Type} (c : Cluster) (legs : List Leg) (u : Upshot α) : Prop where
  /-- A copy is routed in a cluster with the same entries and the same sessions. -/
  undisturbed : ∀ leg ∈ legs, c.Undisturbed leg.before
  /-- It is handed over at the instance or to the owner of the member, or nothing is done. -/
  tells : ∀ leg ∈ legs, router.Tells host (m.addressedTo leg.member) leg.outages leg.before
    leg.upshot
  /-- It is handed over just if nothing stands in its own way. -/
  served : ∀ leg ∈ legs, leg.served = true ↔
    router.GetsThrough host (m.addressedTo leg.member) leg.outages leg.before
  published : u.published = legs.flatMap fun leg => leg.upshot.published
  bus : u.cluster.bus = busAfter c.bus u.published
  /-- The queues hold the copies after what they held, and nothing else. -/
  queues : ∀ queue, u.cluster.queues.find? queue =
    (c.queues.find? queue).map fun box =>
      { box with items := box.items ++ legs.flatMap (Leg.left host m queue) }
  after : c.Undisturbed u.cluster

end Router

/-! ## Members -/

namespace Cluster

variable {c : Cluster}

theorem mem_othersIn_iff (room : RoomId) (sender user : UserId) :
    user ∈ c.othersIn room sender ↔ c.InRoom room user ∧ user ≠ sender := by
  have hlisted : ∀ name, name ∈ ((c.seen (Key.roomMembers room.text)).map Slot.members).getD [] ↔
      ∃ slot, c.seen (Key.roomMembers room.text) = some slot ∧ name ∈ slot.members := by
    intro name
    cases c.seen (Key.roomMembers room.text) with
    | none => simp
    | some slot => simp
  simp only [othersIn, List.mem_filter, List.mem_filterMap, (sortTexts_perm _).mem_iff, hlisted,
    UserId.ofText?_eq_some_iff, InRoom, decide_eq_true_eq]
  constructor
  · rintro ⟨⟨name, hin, rfl, hproper⟩, hother⟩
    exact ⟨⟨hproper, hin⟩, hother⟩
  · rintro ⟨⟨hproper, hin⟩, hother⟩
    exact ⟨⟨user.text, hin, rfl, hproper⟩, hother⟩

theorem nodup_othersIn (h : c.store.slots.SetsNodup) (room : RoomId) (sender : UserId) :
    (c.othersIn room sender).Nodup := by
  have hnames := h.nodup_members c.now (Key.roomMembers room.text)
  simp only [Slots.call, Slots.find?_sweep_self] at hnames
  -- Names that differ are names of different users.
  refine (hnames.filterMap fun name other user hname hother => ?_).filter _
  rw [← (UserId.ofText?_eq_some_iff.1 hname).1, (UserId.ofText?_eq_some_iff.1 hother).1]

/-- The members of a room are read if the store answers. -/
theorem runAmid_roomMembers (host : Nat) (room : RoomId) {o : Outages} (h : c.StoreAnswers o) :
    runAmid host (Registrar.roomMembers room) o c =
      { result := .ok ((sortTexts (((c.seen (Key.roomMembers room.text)).map
          Slot.members).getD [])).filterMap UserId.ofText?)
        cluster := c.withSlots (c.store.slots.sweep c.now (Key.roomMembers room.text))
        published := [], outages := o.afterStore } := by
  rw [Registrar.roomMembers, runAmid_bind, runAmid_store host h]
  simp only [Slots.call, Slots.find?_sweep_self]
  rfl

end Cluster

namespace Router

variable {self : Router} {host : Nat} {m : Message} {o : Outages} {c : Cluster}

/-! ## One copy -/

section Copy

variable {user : UserId} {queues : Table Nat (Mailbox Outbound)} {result : RouteOutcome}
  {published : List (String × Bytes)} (h : self.Told host m o c queues result published)
  (haudience : m.audience = .one user)

include h haudience

theorem Told.reachesReceiver_iff :
    result.reachesReceiver = true ↔ self.GetsThrough host m o c := by
  cases h with
  | delivered receiver answers names attends =>
    exact iff_of_true rfl (.here receiver answers names attends)
  | published receiver answers names other publish =>
    exact iff_of_true rfl (.away receiver answers names other publish)
  | broadcast everybody => cases haudience.symm.trans everybody
  | dropped _ fails => exact iff_of_false Bool.false_ne_true fails

/-- What has been delivered stands at the end of the queue of the receiver's session. -/
theorem Told.find?_queues (queue : Nat) :
    queues.find? queue = (c.queues.find? queue).map fun box =>
      { box with
        items := box.items ++
          if result = .delivered ∧
              ((c.directory host).find? user).map SessionHandle.queue = some queue then
            [.message m]
          else [] } := by
  cases h with
  | @delivered other session box receiver _ _ attends appended =>
    cases haudience.symm.trans receiver
    rw [appended, Table.find?_insert]
    simp only [attends.listed, Option.map_some, Option.some.injEq, true_and]
    by_cases hqueue : queue = session.queue
    · rw [if_pos hqueue, if_pos hqueue.symm, hqueue, attends.queue]
      rfl
    · rw [if_neg hqueue, if_neg (Ne.symm hqueue)]
      simp only [List.append_nil, Option.map_id']
  | published _ _ _ _ _ _ same | broadcast _ _ _ same | dropped _ _ same =>
    simp only [same, reduceCtorEq, false_and, if_false, List.append_nil, Option.map_id']

end Copy

/-! ## All copies -/

theorem map_member_legs (members : List UserId) (o : Outages) (c : Cluster) :
    (self.legs host m members o c).map Leg.member = members := by
  induction members generalizing o c with
  | nil => rfl
  | cons member rest ih => rw [legs, List.map_cons, ih]

/-- A copy goes its own way, and then the others do. -/
theorem FansOut.cons {α : Type} (leg : Leg) {rest : List Leg} {u : Upshot α}
    (htells : self.Tells host (m.addressedTo leg.member) leg.outages leg.before leg.upshot)
    (haudience : (m.addressedTo leg.member).audience = .one leg.member)
    (hbus : leg.upshot.cluster.bus = busAfter leg.before.bus leg.upshot.published)
    (hrest : self.FansOut host m leg.upshot.cluster rest u) :
    self.FansOut host m leg.before (leg :: rest) (u.after leg.upshot.published) where
  undisturbed := List.forall_mem_cons.2
    ⟨.refl _, fun other hother => htells.undisturbed.trans (hrest.undisturbed other hother)⟩
  tells := List.forall_mem_cons.2 ⟨htells, hrest.tells⟩
  served := List.forall_mem_cons.2 ⟨htells.told.reachesReceiver_iff haudience, hrest.served⟩
  published := by rw [List.flatMap_cons, ← hrest.published]; rfl
  bus := by
    rw [Upshot.after, busAfter_append, ← hbus]
    exact hrest.bus
  queues := by
    intro queue
    rw [Upshot.after, hrest.queues, htells.told.find?_queues haudience, Option.map_map]
    congr 1
    funext box
    simp only [Function.comp_apply, List.flatMap_cons, List.append_assoc, Leg.left]
  after := htells.undisturbed.trans hrest.after

/-- The copies for some members go their own ways, and those that get through are counted. -/
theorem fansOut_routeCopies (hself : Text.isBlank self.id.text = false) (hm : m.Named)
    (hkind : m.kind.isBroadcast = false) (members : List UserId)
    (hmembers : ∀ user ∈ members, Text.isBlank user.text = false) (served : Nat) (host : Nat)
    (o : Outages) (c : Cluster) :
    self.FansOut host m c (self.legs host m members o c)
        (runAmid host (self.routeCopies m members served) o c) ∧
      (runAmid host (self.routeCopies m members served) o c).result =
        served + (self.legs host m members o c).countP Leg.served := by
  induction members generalizing served o c with
  | nil =>
    refine ⟨⟨?_, ?_, ?_, rfl, rfl, fun queue => ?_, .refl c⟩, rfl⟩
    · exact fun _ h => absurd h List.not_mem_nil
    · exact fun _ h => absurd h List.not_mem_nil
    · exact fun _ h => absurd h List.not_mem_nil
    · simp only [legs, List.flatMap_nil, List.append_nil, Option.map_id']
      rfl
  | cons member rest ih =>
    rw [List.forall_mem_cons] at hmembers
    have haudience : (m.addressedTo member).audience = .one member :=
      (Message.audience_eq_one_iff _ _).2 ⟨hkind, rfl⟩
    have htells := tells_routeDirect hself (hm.addressedTo hmembers.1) haudience host o c
    have hbus := bus_runAmid host (self.routeDirect member (m.addressedTo member)) o c
    rw [routeCopies, runAmid_bind, legs]
    generalize runAmid host (self.routeDirect member (m.addressedTo member)) o c = u
      at htells hbus ⊢
    rcases ih hmembers.2 (if u.result.reachesReceiver then served + 1 else served) u.outages
      u.cluster with ⟨hrest, hcount⟩
    refine ⟨.cons ⟨member, o, c, u⟩ htells haudience hbus hrest, ?_⟩
    rw [Upshot.after, hcount, List.countP_cons, Leg.served]
    cases u.result.reachesReceiver with
    | false => rfl
    | true =>
      simp only [if_true]
      omega

/-- The copies of a message for a room go their own ways, whatever the room, the entries, the
    sessions and the queues are and whichever calls fail once the members have been read. There is
    one for each member of a proper name but the sender, and those that get through are counted. -/
theorem route_fans_out (hself : Text.isBlank self.id.text = false) (hm : m.Named) {room : RoomId}
    (haudience : m.audience = .nobody) (hroom : m.room = some room) (host : Nat)
    (hanswers : c.StoreAnswers o) (hsets : c.store.slots.SetsNodup) :
    ((self.roomLegs host m room o c).map Leg.member).Nodup ∧
      (∀ user, user ∈ (self.roomLegs host m room o c).map Leg.member ↔
        c.InRoom room user ∧ user ≠ m.sender) ∧
      self.FansOut host m c (self.roomLegs host m room o c) (runAmid host (self.route m) o c) ∧
      (runAmid host (self.route m) o c).result =
        .room ((self.roomLegs host m room o c).countP Leg.served) := by
  rw [roomLegs, map_member_legs]
  refine ⟨nodup_othersIn hsets room m.sender, mem_othersIn_iff room m.sender, ?_⟩
  rcases (m.audience_eq_nobody_iff).1 haudience with ⟨hkind, hreceiver⟩
  have hdispatch : self.dispatch m = self.routeRoom room m := by
    simp only [dispatch, hkind, hreceiver, hroom, Bool.false_eq_true, if_false]
  have hproper : ∀ user ∈ c.othersIn room m.sender, Text.isBlank user.text = false :=
    fun user huser => ((mem_othersIn_iff room m.sender user).1 huser).1.1
  have hswept : c.Undisturbed
      (c.withSlots (c.store.slots.sweep c.now (Key.roomMembers room.text))) :=
    ⟨Slots.visible_sweep _ _ _, rfl⟩
  rcases fansOut_routeCopies hself hm hkind _ hproper 0 host o.afterStore
    (c.withSlots (c.store.slots.sweep c.now (Key.roomMembers room.text))) with ⟨hcopies, hcount⟩
  rcases runAmid_route self host m o c with ⟨reports, hroute⟩
  rw [hroute, hdispatch, routeRoom, runAmid_bind, runAmid_roomMembers host room hanswers]
  simp only
  rw [runAmid_bind, ← othersIn, hcount, Nat.zero_add]
  refine ⟨⟨fun leg hleg => hswept.trans (hcopies.undisturbed leg hleg), hcopies.tells,
    hcopies.served, ?_, ?_, hcopies.queues,
    hswept.trans ⟨hcopies.after.seen, hcopies.after.hosts⟩⟩, rfl⟩
  · exact (List.append_nil _).trans hcopies.published
  · exact hcopies.bus.trans (congrArg (busAfter _) (List.append_nil _).symm)

/-- A room with a member at either of two instances, one who is nowhere, the sender and a blank
    name. -/
def crowdedRoom : Cluster :=
  ["x", "v", "u", " ", "t"].foldl
    (fun c name =>
      (c.runAlone 0 (Operation.store (.addMember (Key.roomMembers "r") name))).2)
    ((attendedAtFirst.move (.connect 1 1)).runAlone 1
      ((Profile.standard ⟨"b"⟩).registrar.register ⟨1, ⟨1⟩, ⟨"t"⟩⟩)).2

/-- A message for that room. -/
def helloToRoom : Message :=
  (Draft.toRoom "r" "hello").stamp (.spare 8) ⟨"v"⟩ 5

theorem othersIn_crowdedRoom :
    crowdedRoom.othersIn ⟨"r"⟩ helloToRoom.sender = [⟨"t"⟩, ⟨"u"⟩, ⟨"x"⟩] := by
  have hnames : ((crowdedRoom.seen (Key.roomMembers "r")).map Slot.members).getD [] =
      ["x", "v", "u", " ", "t"] := by
    decide +kernel
  have hsort : sortTexts ["x", "v", "u", " ", "t"] = [" ", "t", "u", "v", "x"] := by
    simp [sortTexts, List.mergeSort]
  rw [othersIn, hnames, hsort]
  decide

/-- When the bus does not answer, the member at the other instance gets no copy, and the one at the
    instance that routes gets one all the same. -/
theorem route_fans_out_crowdedRoom :
    (((Profile.standard ⟨"a"⟩).router.roomLegs 0 helloToRoom ⟨"r"⟩ busDown crowdedRoom).map
        fun leg => (leg.member, leg.served)) =
        [(⟨"t"⟩, false), (⟨"u"⟩, true), (⟨"x"⟩, false)] ∧
      (runAmid 0 ((Profile.standard ⟨"a"⟩).router.route helloToRoom) busDown
        crowdedRoom).result = .room 1 ∧
      ((runAmid 0 ((Profile.standard ⟨"a"⟩).router.route helloToRoom) busDown
        crowdedRoom).cluster.queues.find? 0).map Mailbox.items =
          some [.message (helloToRoom.addressedTo ⟨"u"⟩)] := by
  have hnamed : helloToRoom.Named := named_stamp _ 8 5 (by decide)
  have hsets : crowdedRoom.store.slots.SetsNodup := by
    have hall : (crowdedRoom.store.slots.entries.all fun e => decide e.2.members.Nodup) = true := by
      decide +kernel
    exact fun key slot hslot => of_decide_eq_true
      (List.all_eq_true.1 hall (key, slot) ((Table.mem_iff_find? _ _ _).2 hslot))
  have hself : Text.isBlank (Profile.standard ⟨"a"⟩).router.id.text = false := by decide
  have hanswers : crowdedRoom.StoreAnswers busDown := ⟨rfl, rfl⟩
  rcases route_fans_out hself hnamed rfl rfl 0 hanswers hsets with ⟨_, _, hcopies, hresult⟩
  have hlegs : (Profile.standard ⟨"a"⟩).router.roomLegs 0 helloToRoom ⟨"r"⟩ busDown crowdedRoom =
      (Profile.standard ⟨"a"⟩).router.legs 0 helloToRoom [⟨"t"⟩, ⟨"u"⟩, ⟨"x"⟩] busDown.afterStore
        (crowdedRoom.withSlots (crowdedRoom.store.slots.sweep crowdedRoom.now
          (Key.roomMembers "r"))) := by
    rw [roomLegs, othersIn_crowdedRoom]
  rw [hresult, hcopies.queues, hlegs]
  refine ⟨by decide +kernel, by decide +kernel, by decide +kernel⟩

end Router

end ChatCluster
