import ChatCluster.Instance.Pipeline
import ChatCluster.Proofs.Instance.Arrival
import ChatCluster.Proofs.Instance.Confinement
import ChatCluster.Proofs.Instance.Parting

/-!
# Who Is Served

What an instance does between taking sessions in and letting them go. Such an operation leaves the
directory alone, and hands messages to nobody but the sessions that are in it. A session that is not
in the directory, or not any more, may be told that an item of its own was refused, but it is handed
no message.

For most operations this follows from what they are confined to, since they hand nothing on at all.
The others look a session up before they hand it something, and nothing comes between.

## Main definitions

* `Cluster.messages`: The messages that wait in an outbound queue.
* `Cluster.Unfed`: A queue that no session of an instance feeds.
* `ServesPresent`: An operation that serves the sessions of the directory only.
* `Effect.directory`: What a step makes of a directory.

## Theorems

* `Confined.servesPresent`: Operations that hand nothing on.
* `servesPresent_deliverTo`, `servesPresent_deliver`: The two ways of handing a message over.
* `servesPresent_receive`, `servesPresent_handle`: Taking frames in, and handling items of clients.
* `servesPresent_timedHeartbeat`, `servesPresent_timedReap`: Timed work.
* `Cluster.directory_perform_self`: What becomes of the directory of the instance that acts.
* `Cluster.directory_perform_of_ne`: What others do leaves the directory alone.
-/

namespace ChatCluster

open Operation

/-- The message that a client receives, unless it is a rejection. -/
def Outbound.message? : Outbound → Option Message
  | .message m => some m
  | .rejection _ => none

namespace Cluster

/-- The messages that wait in an outbound queue, oldest first. -/
def messages (c : Cluster) (queue : Nat) : List Message :=
  ((c.queues.find? queue).map fun box => box.items.filterMap Outbound.message?).getD []

/-- No session of the instance feeds the queue. -/
def Unfed (c : Cluster) (host queue : Nat) : Prop :=
  ∀ user session, (c.directory host).find? user = some session → session.queue ≠ queue

/-- From one point to another, nobody has come or gone at an instance, and nobody who is not there
    was handed a message. -/
structure Served (c : Cluster) (host : Nat) (c' : Cluster) : Prop where
  directory : c'.directory host = c.directory host
  messages : ∀ queue, c.Unfed host queue → c'.messages queue = c.messages queue

variable {c c' c'' : Cluster} {host : Nat}

theorem served_of_eq (hosts : c'.hosts = c.hosts) (queues : c'.queues = c.queues) :
    c.Served host c' where
  directory := by rw [directory, directory, hosts]
  messages queue _ := by rw [messages, messages, queues]

theorem Served.trans (h : c.Served host c') (h' : c'.Served host c'') : c.Served host c'' where
  directory := h'.directory.trans h.directory
  messages queue hunfed := by
    have hunfed' : c'.Unfed host queue := by
      rw [Unfed, h.directory]
      exact hunfed
    exact (h'.messages queue hunfed').trans (h.messages queue hunfed)

/-- Other queues have nothing to do with an offer. -/
theorem messages_offer_of_ne {session : SessionHandle} {queue : Nat} (h : session.queue ≠ queue)
    (item : Outbound) : (c.offer session item).2.messages queue = c.messages queue := by
  rw [messages, find?_queues_offer, if_neg h.symm]
  rfl

theorem messages_updateQueue (c : Cluster) (changed queue : Nat)
    {f : Mailbox Outbound → Mailbox Outbound} (hf : ∀ box, (f box).items = box.items) :
    (c.updateQueue changed f).messages queue = c.messages queue := by
  simp only [messages, updateQueue, Table.find?_update]
  split
  · simp only [Option.map_map, Function.comp_def, hf]
  · rfl

/-- Who reads from a queue puts nothing into it. -/
theorem messages_read_suffix (c : Cluster) (changed queue : Nat) :
    (c.updateQueue changed fun box => { box with items := box.items.tail }).messages queue <:+
      c.messages queue := by
  simp only [messages, updateQueue, Table.find?_update]
  split
  · cases c.queues.find? queue with
    | none => exact List.suffix_refl _
    | some box => exact (List.tail_suffix box.items).filterMap _
  · exact List.suffix_refl _

theorem messages_perform {other queue : Nat} {e : Effect} (c : Cluster)
    (h : ∀ session item, e = .offer session item → session.queue ≠ queue) :
    (c.perform other e).2.messages queue = c.messages queue := by
  cases e with
  | offer session item => exact messages_offer_of_ne (h session item rfl) item
  | publish | store | clock | postmark | spareId | insertSession | findSession | removeSession
  | removeSessionIf | listSessions | countSessions | isOpen | lifecycle | comeAlive | stop
  | setReady | warn | count | gaugeSessions => rw [messages, queues_perform, messages]

/-- A session of the directory may be offered anything. -/
theorem served_offer {session : SessionHandle} {user : UserId}
    (h : (c.directory host).find? user = some session) (item : Outbound) :
    c.Served host (c.offer session item).2 where
  directory := by
    rcases c.offer_cases session item with ⟨_, hoffer⟩ | ⟨_, _, hoffer⟩
    · rw [hoffer]
    · rw [hoffer]
      rfl
  messages queue hunfed := messages_offer_of_ne (hunfed user session h) item

/-- Anybody may be told that something was refused. -/
theorem served_offer_rejection (session : SessionHandle) (r : Rejection) :
    c.Served host (c.offer session (.rejection r)).2 := by
  rcases c.offer_cases session (.rejection r) with ⟨_, hoffer⟩ | ⟨box, hbox, hoffer⟩
  · rw [hoffer]
    exact served_of_eq rfl rfl
  · rw [hoffer]
    refine ⟨rfl, fun queue _ => ?_⟩
    simp only [messages, Table.find?_insert]
    split
    · next heq =>
      rw [heq, hbox]
      simp only [Option.map_some, Option.getD_some, List.filterMap_append, List.filterMap_cons,
        List.filterMap_nil, Outbound.message?, List.append_nil]
    · rfl

end Cluster

/-- Left alone at an instance, the operation leaves the directory as it is, and hands messages to
    the sessions that are in it and to nobody else. -/
def ServesPresent {α : Type} (host : Nat) (op : Operation α) : Prop :=
  ∀ c : Cluster, c.Served host (c.runAlone host op).2

section Parts

variable {α β : Type} {host : Nat} {op : Operation α}

theorem servesPresent_pure (a : α) : ServesPresent host (pure a : Operation α) :=
  fun _ => Cluster.served_of_eq rfl rfl

theorem servesPresent_bind {f : α → Operation β} (h : ServesPresent host op)
    (hf : ∀ a, ServesPresent host (f a)) : ServesPresent host (op >>= f) := by
  intro c
  rw [Cluster.runAlone_bind]
  exact (h c).trans (hf _ _)

/-- A step in a scope where nobody comes or goes. -/
theorem Effect.KeepsTo.served {scope : Scope} {e : Effect} (h : e.KeepsTo scope)
    (hsettled : ¬scope.traffic) (c : Cluster) (host : Nat) :
    c.Served host (c.perform host e).2 := by
  cases e with
  | store | clock | findSession | listSessions | countSessions | isOpen | lifecycle | warn | count
  | gaugeSessions => exact Cluster.served_of_eq rfl rfl
  | comeAlive =>
    rw [Cluster.perform]
    split
    · exact ⟨Cluster.directory_updateHost c host host fun _ => rfl, fun _ _ => rfl⟩
    · exact Cluster.served_of_eq rfl rfl
  | stop | setReady =>
    exact ⟨Cluster.directory_updateHost c host host fun _ => rfl, fun _ _ => rfl⟩
  | insertSession | removeSession | removeSessionIf => exact absurd h.2 hsettled
  | publish | postmark | spareId | offer => cases h

/-- What is confined to a scope hands nothing on. -/
theorem Confined.servesPresent {scope : Scope} (h : Confined scope op)
    (hsettled : ¬scope.traffic) : ServesPresent host op := by
  intro c
  induction op generalizing c with
  | done a => exact Cluster.served_of_eq rfl rfl
  | ask e next ih =>
    have hrest := h.2 _ (possible_perform scope c host e)
    exact (h.1.served hsettled c host).trans (ih _ hrest _)

/-- Everything is in scope, but nobody comes or goes. -/
def Scope.settled : Scope :=
  { keys := fun _ => True, sessions := True, traffic := False }

theorem Scope.watches_settled : Scope.settled.Watches :=
  { sessions := trivial, entries := fun _ => trivial, signs := fun _ => trivial }

theorem servesPresent_of_settled (h : Confined .settled op) : ServesPresent host op :=
  h.servesPresent id

theorem servesPresent_warn (w : Warning) : ServesPresent host (warn w) :=
  servesPresent_of_settled (confined_warn w)

theorem servesPresent_count (m : Metric) : ServesPresent host (count m) :=
  servesPresent_of_settled (confined_count m)

end Parts

/-! ## Handing messages over -/

section Delivery

variable {host : Nat}

theorem servesPresent_deliverTo (receiver : UserId) (m : Message) :
    ServesPresent host (Router.deliverTo receiver m) := by
  intro c
  rw [Router.deliverTo, Cluster.runAlone_bind, Cluster.runAlone_perform]
  simp only [Cluster.perform]
  cases hfound : (c.directory host).find? receiver with
  | none => exact Cluster.served_of_eq rfl rfl
  | some session =>
    simp only
    rw [Cluster.runAlone_bind, Cluster.runAlone_perform]
    simp only [Cluster.perform]
    by_cases hopen : c.isOpen session = true
    · -- The session that is offered the message is the one that has just been looked up.
      have hserved := Cluster.served_offer hfound (.message m)
      simp only [hopen, if_true]
      rw [Cluster.runAlone_bind, Cluster.runAlone_perform]
      simp only [Cluster.perform]
      cases (c.offer session (.message m)).1 <;> exact hserved
    · simp only [hopen, Bool.false_eq_true, if_false]
      exact Cluster.served_of_eq rfl rfl

/-- Sessions that are in the directory are still there when their turn comes. -/
theorem Cluster.served_deliverEach (m : Message) (sessions : List SessionHandle)
    (delivered : Nat) (c : Cluster)
    (h : ∀ session ∈ sessions, ∃ user, (c.directory host).find? user = some session) :
    c.Served host (c.runAlone host (Router.deliverEach m sessions delivered)).2 := by
  induction sessions generalizing c delivered with
  | nil => exact served_of_eq rfl rfl
  | cons session rest ih =>
    have hrest : ∀ other ∈ rest, ∃ user, (c.directory host).find? user = some other :=
      fun other hother => h other (List.mem_cons_of_mem session hother)
    rw [Router.deliverEach, runAlone_bind, runAlone_perform]
    simp only [perform]
    by_cases hopen : c.isOpen session = true
    · obtain ⟨user, hfound⟩ := h session List.mem_cons_self
      have hserved := served_offer hfound (.message m)
      simp only [hopen, if_true]
      rw [runAlone_bind, runAlone_perform]
      simp only [perform]
      cases (c.offer session (.message m)).1 <;>
        exact hserved.trans (ih _ _ (by rwa [hserved.directory]))
    · simp only [hopen, Bool.false_eq_true, if_false]
      exact ih delivered c hrest

theorem servesPresent_deliver (m : Message) : ServesPresent host (Router.deliver m) := by
  rw [Router.deliver]
  split
  · intro c
    rw [Cluster.runAlone_bind, Cluster.runAlone_perform]
    refine Cluster.served_deliverEach m _ 0 c fun session hsession => ?_
    obtain ⟨⟨user, found⟩, hentry, rfl⟩ := List.mem_map.1 hsession
    exact ⟨user, ((c.directory host).mem_iff_find? user found).1 hentry⟩
  · cases m.receiver with
    | none => exact servesPresent_pure 0
    | some receiver =>
      exact servesPresent_bind (servesPresent_deliverTo receiver m) fun _ => servesPresent_pure _

theorem servesPresent_spareId : ServesPresent host (perform .spareId) :=
  fun _ => Cluster.served_of_eq rfl rfl

theorem servesPresent_receive (frame : Bytes) : ServesPresent host (Router.receive frame) := by
  refine servesPresent_bind servesPresent_spareId fun spare => ?_
  cases BusFrame.decode spare frame with
  | ok f => exact servesPresent_deliver f.message
  | error e =>
    refine servesPresent_bind (servesPresent_warn _) fun _ => ?_
    exact servesPresent_bind (servesPresent_count _) fun _ => servesPresent_pure 0

end Delivery

/-! ## Routing -/

section Routing

variable {host : Nat} (self : Router)

theorem servesPresent_publish (topic : String) (m : Message) :
    ServesPresent host (self.publish topic m) := by
  rw [Router.publish]
  cases BusFrame.encode { origin := self.id, message := m } with
  | error e => exact servesPresent_bind (servesPresent_warn _) fun _ => servesPresent_pure _
  | ok frame =>
    have hput : ServesPresent host (perform (.publish topic frame)) := by
      intro c
      rcases c.exists_publish_eq topic frame with ⟨result, reports, hpublish⟩
      rw [Cluster.runAlone_perform, Cluster.perform, hpublish]
      exact Cluster.served_of_eq rfl rfl
    refine servesPresent_bind hput fun reply => ?_
    rcases reply with e | _
    · exact servesPresent_bind (servesPresent_warn _) fun _ => servesPresent_pure _
    · exact servesPresent_pure _

theorem servesPresent_routeDirect (receiver : UserId) (m : Message) :
    ServesPresent host (self.routeDirect receiver m) := by
  refine servesPresent_bind (servesPresent_of_settled (confined_owner? trivial)) fun reply => ?_
  rcases reply with e | _ | owner
  · exact servesPresent_bind (servesPresent_warn _) fun _ => servesPresent_pure _
  · exact servesPresent_bind (servesPresent_warn _) fun _ => servesPresent_pure _
  · simp only
    split
    · refine servesPresent_bind (servesPresent_deliverTo receiver m) fun taken => ?_
      cases taken <;> exact servesPresent_pure _
    · refine servesPresent_bind (servesPresent_publish self _ m) fun published => ?_
      cases published <;> exact servesPresent_pure _

theorem servesPresent_routeCopies (m : Message) (members : List UserId) (served : Nat) :
    ServesPresent host (self.routeCopies m members served) := by
  induction members generalizing served with
  | nil => exact servesPresent_pure served
  | cons member rest ih =>
    exact servesPresent_bind (servesPresent_routeDirect self member _) fun _ => ih _

theorem servesPresent_routeRoom (room : RoomId) (m : Message) :
    ServesPresent host (self.routeRoom room m) := by
  have hmembers : Confined .settled (Registrar.roomMembers room) := confined_roomMembers trivial
  refine servesPresent_bind (servesPresent_of_settled hmembers) fun reply => ?_
  rcases reply with e | members
  · exact servesPresent_bind (servesPresent_warn _) fun _ => servesPresent_pure _
  · exact servesPresent_bind (servesPresent_routeCopies self m _ 0) fun _ => servesPresent_pure _

theorem servesPresent_route (m : Message) : ServesPresent host (self.route m) := by
  have hdispatch : ServesPresent host (self.dispatch m) := by
    rw [Router.dispatch]
    split
    · refine servesPresent_bind (servesPresent_publish self _ m) fun published => ?_
      cases published <;> exact servesPresent_pure _
    · cases m.receiver with
      | some receiver => exact servesPresent_routeDirect self receiver m
      | none =>
        cases m.room with
        | some room => exact servesPresent_routeRoom self room m
        | none => exact servesPresent_bind (servesPresent_warn _) fun _ => servesPresent_pure _
  refine servesPresent_bind hdispatch fun outcome => ?_
  exact servesPresent_bind (servesPresent_count _) fun _ => servesPresent_pure outcome

end Routing

/-! ## Items of clients, and timed work -/

section Work

variable {host : Nat}

theorem servesPresent_handle {Q : Type} [Amount Q] [BucketText Q] (self : Pipeline Q)
    (session : SessionHandle) (item : Inbound) :
    ServesPresent host (self.handle session item) := by
  have hsubmit : ∀ m, ServesPresent host (self.submit session m) := by
    intro m
    have hcheck : Confined .settled (RateLimiter.check self.limits m.sender) :=
      confined_check self.limits trivial
    refine servesPresent_bind (servesPresent_of_settled hcheck) fun admission => ?_
    cases admission with
    | throttled secs =>
      have hrefuse : ServesPresent host
          (perform (.offer session (.rejection (.rateLimited secs)))) :=
        fun c => Cluster.served_offer_rejection session _
      exact servesPresent_bind hrefuse fun _ => servesPresent_pure _
    | allowed => exact servesPresent_bind (servesPresent_route self.router m) fun _ =>
        servesPresent_pure _
  rw [Pipeline.handle]
  rcases item.admissible with refusal | draft
  · cases refusal <;> exact servesPresent_bind (servesPresent_warn _) fun _ => servesPresent_count _
  · refine servesPresent_bind servesPresent_spareId fun spare => ?_
    exact servesPresent_bind (servesPresent_of_settled (confined_perform trivial)) fun now =>
      hsubmit _

theorem servesPresent_timedHeartbeat (self : Profile) :
    ServesPresent host self.timedHeartbeat := by
  have hheartbeat := confined_heartbeat self.monitor Scope.watches_settled
  refine servesPresent_bind (servesPresent_of_settled hheartbeat) fun reply => ?_
  rcases reply with e | _
  · exact servesPresent_bind (servesPresent_warn _) fun _ => servesPresent_count _
  · exact servesPresent_pure _

theorem servesPresent_timedReap (self : Profile) : ServesPresent host self.timedReap := by
  have hreap := confined_reap self.monitor Scope.watches_settled
  refine servesPresent_bind (servesPresent_of_settled hreap) fun reply => ?_
  rcases reply with e | _
  · exact servesPresent_warn _
  · exact servesPresent_pure _

end Work

/-! ## Steps and directories -/

/-- What a step makes of the directory of the instance that takes it. -/
def Effect.directory : Effect → Table UserId SessionHandle → Table UserId SessionHandle
  | .insertSession session, d => d.insert session.user session
  | .removeSession user, d => d.erase user
  | .removeSessionIf user id, d =>
    if (d.find? user).map SessionHandle.id = some id then d.erase user else d
  | _, d => d

namespace Cluster

variable {c : Cluster} {host : Nat}

theorem directory_perform_self {self : Profile} (h : c.profile? host = some self) (e : Effect) :
    (c.perform host e).2.directory host = e.directory (c.directory host) := by
  have hthere : (c.hosts.find? host).isSome = true := by
    rw [← Option.isSome_map (f := Host.profile)]
    exact Option.isSome_of_eq_some h
  have hupdate : ∀ f : Table UserId SessionHandle → Table UserId SessionHandle,
      (c.updateDirectory host f).directory host = f (c.directory host) := by
    intro f
    rw [directory_updateDirectory c host host f hthere, if_pos rfl]
  cases e with
  | insertSession | removeSession => exact hupdate _
  | removeSessionIf user id =>
    rw [perform, Effect.directory]
    cases (c.directory host).find? user with
    | none => rfl
    | some session =>
      simp only [Option.map_some, Option.some.injEq]
      split
      · exact hupdate _
      · rfl
  | publish topic frame =>
    rcases c.exists_publish_eq topic frame with ⟨_, _, hpublish⟩
    rw [perform, hpublish]
    rfl
  | offer session item =>
    rw [perform]
    rcases c.offer_cases session item with ⟨_, hoffer⟩ | ⟨_, _, hoffer⟩
    · rw [hoffer]
      rfl
    · rw [hoffer]
      rfl
  | comeAlive =>
    rw [perform]
    split
    · exact directory_updateHost c host host fun _ => rfl
    · rfl
  | stop | setReady => exact directory_updateHost c host host fun _ => rfl
  | store | clock | postmark | spareId | findSession | listSessions | countSessions | isOpen
  | lifecycle | warn | count | gaugeSessions => rfl

theorem unavailable_publish (bus : MemoryBus) (topic : String) (frame : Bytes) :
    (bus.publish topic frame).2.unavailable = bus.unavailable := by
  rw [MemoryBus.publish]
  split <;> rfl

/-- No step changes whether the bus can be reached. -/
theorem unavailable_perform (c : Cluster) (host : Nat) (e : Effect) :
    (c.perform host e).2.bus.unavailable = c.bus.unavailable := by
  rw [bus_perform]
  cases e with
  | publish topic frame => exact unavailable_publish c.bus topic frame
  | store | clock | postmark | spareId | insertSession | findSession | removeSession
  | removeSessionIf | listSessions | countSessions | isOpen | offer | lifecycle | comeAlive
  | stop | setReady | warn | count | gaugeSessions => rfl

theorem unavailable_runAlone {α : Type} (op : Operation α) (c : Cluster) :
    (c.runAlone host op).2.bus.unavailable = c.bus.unavailable := by
  induction op generalizing c with
  | done a => rfl
  | ask e next ih => exact (ih _ _).trans (unavailable_perform c host e)

/-- A step of another instance leaves the directory alone. -/
theorem directory_perform_of_ne {other : Nat} (h : other ≠ host) (c : Cluster) (e : Effect) :
    (c.perform other e).2.directory host = c.directory host := by
  have hupdate : ∀ f : Host → Host, (c.updateHost other f).directory host = c.directory host := by
    intro f
    rw [directory, directory, updateHost, Table.find?_update, if_neg h.symm]
  cases e with
  | publish topic frame =>
    rcases c.exists_publish_eq topic frame with ⟨_, _, hpublish⟩
    rw [perform, hpublish]
    rfl
  | offer session item =>
    rw [perform]
    rcases c.offer_cases session item with ⟨_, hoffer⟩ | ⟨_, _, hoffer⟩
    · rw [hoffer]
    · rw [hoffer]
      rfl
  | removeSessionIf user id =>
    rw [perform]
    split
    · rfl
    · split
      · exact hupdate _
      · rfl
  | comeAlive =>
    rw [perform]
    split
    · exact hupdate _
    · rfl
  | insertSession | removeSession | stop | setReady => exact hupdate _
  | store | clock | postmark | spareId | findSession | listSessions | countSessions | isOpen
  | lifecycle | warn | count | gaugeSessions => rfl

end Cluster

end ChatCluster
