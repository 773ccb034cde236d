import ChatCluster.Proofs.Instance.Quiet
import Mathlib.Data.List.Nodup

/-!
# How Operations Deliver

The operations that hand something on, each shown to keep the rules of delivery. They are taken in
the order in which they are built from each other, from publishing a frame to handling an item of
a client and to letting all sessions of an instance go.

What is shown of one operation is what the next needs: routing to one user serves that user and
nobody else, so the copies for the members of a room, who are all different, serve nobody twice.

## Theorems

* `obeys_publish`, `obeys_deliverTo`: The two ways of serving a user.
* `obeys_routeDirect`, `obeys_routeCopies`, `obeys_route`, `obeys_route_notice`: Routing.
* `obeys_deliver`, `obeys_receive`: Taking frames in.
* `obeys_handle`: Handling an item of a client.
* `obeys_greet`, `obeys_part`, `obeys_leave`: Sessions come and go.
-/

namespace ChatCluster

open Operation

/-! ## Routing -/

section Routing

variable {b : Brief} {l : Ledger}

/-- Publishing for one user on the topic of another instance serves that user. -/
theorem obeys_publish {owner : InstanceId} {receiver : UserId} {m : Message}
    (howner : owner ≠ b.router.id) (hkind : m.kind.isBroadcast = false)
    (hreceiver : m.receiver = some receiver) (hown : l.bound = true → b.own.isSome = true)
    (hdue : l.bound = true → l.due receiver) :
    b.rules.Obeys l (b.router.publish (b.router.topics.ofInstance owner) m)
      fun l' _ => l.Serves receiver l' := by
  rw [Router.publish]
  cases hencode : BusFrame.encode { origin := b.router.id, message := m } with
  | error e =>
    exact (quiet_bind (quiet_warn _) (fun _ => quiet_pure false) b l).mono
      fun l' _ h => h.toServes receiver
  | ok frame =>
    -- The rule speaks of the frame, of which only its audience is known.
    have haudience := frameAudience_of_encode hencode hkind hreceiver
    have hallowed : b.rules.allows l (.publish (b.router.topics.ofInstance owner) frame) := by
      intro hbound
      refine ⟨hown hbound, ⟨owner, howner, rfl⟩, ?_, ?_⟩
      · rcases haudience with h | h <;> rw [h] <;> exact Audience.noConfusion
      · intro user huser
        rcases haudience with h | h
        · rw [h] at huser
          exact absurd huser Audience.noConfusion
        · rw [h, Audience.one.injEq] at huser
          exact huser ▸ hdue hbound
    have hpublish : b.rules.Obeys l (perform (.publish (b.router.topics.ofInstance owner) frame))
        fun l' _ => l.Serves receiver l' := by
      refine Rules.obeys_perform hallowed fun reply _ => ?_
      refine ⟨fun _ h => h, rfl, fun other hne hother => ⟨hother, ?_⟩⟩
      rcases haudience with h | h <;> rw [h]
      · exact Audience.noConfusion
      · exact fun heq => hne (Audience.one.inj heq).symm
    refine Rules.obeys_bind hpublish fun l' reply hserves => ?_
    rcases reply with e | _
    · exact (quiet_bind (quiet_warn _) (fun _ => quiet_pure false) b l').mono
        fun l'' _ h => hserves.keeps h
    · exact hserves

/-- Handing a message to the session of its receiver serves the receiver. -/
theorem obeys_deliverTo {receiver : UserId} {m : Message} (hreceiver : m.receiver = some receiver)
    (hdue : l.bound = true → l.due receiver) :
    b.rules.Obeys l (Router.deliverTo receiver m) fun l' _ => l.Serves receiver l' := by
  refine ⟨trivial, fun reply huser => ?_⟩
  cases reply with
  | none =>
    exact ⟨List.subset_append_right _ _, rfl, fun _ _ h => h⟩
  | some session =>
    have hsession := huser session rfl
    refine ⟨trivial, fun isOpen _ => ?_⟩
    cases isOpen with
    | false => exact ⟨List.subset_append_right _ _, rfl, fun _ _ h => h⟩
    | true =>
      refine ⟨⟨List.mem_cons_self, Or.inr (hsession ▸ hreceiver), fun h => hsession ▸ hdue h⟩, ?_⟩
      intro reply _
      have hserves : l.Serves receiver
          { found := session :: l.found, bound := l.bound,
            due := fun user => l.due user ∧ user ≠ session.user } :=
        ⟨List.subset_cons_self _ _, rfl, fun other hne h => ⟨h, hsession ▸ hne⟩⟩
      rcases reply with e | _ <;> exact hserves

/-- Whatever the owner of the receiver is, sending a message to one user serves that user only. -/
theorem obeys_routeDirect {receiver : UserId} {m : Message} (hkind : m.kind.isBroadcast = false)
    (hreceiver : m.receiver = some receiver) (hown : l.bound = true → b.own.isSome = true)
    (hdue : l.bound = true → l.due receiver) :
    b.rules.Obeys l (b.router.routeDirect receiver m) fun l' _ => l.Serves receiver l' := by
  refine Rules.obeys_bind (quiet_owner? receiver b l) fun l' reply hkeeps => ?_
  have hown' : l'.bound = true → b.own.isSome = true := fun h => hown (hkeeps.bound ▸ h)
  have hdue' : l'.bound = true → l'.due receiver :=
    fun h => hkeeps.due ▸ hdue (hkeeps.bound ▸ h)
  rcases reply with e | _ | owner
  · exact (quiet_bind (quiet_warn _) (fun _ => quiet_pure _) b l').mono
      fun l'' _ h => (hkeeps.trans h).toServes receiver
  · exact (quiet_bind (quiet_warn _) (fun _ => quiet_pure _) b l').mono
      fun l'' _ h => (hkeeps.trans h).toServes receiver
  · by_cases howner : owner = b.router.id
    · simp only [if_pos howner]
      refine Rules.obeys_bind (obeys_deliverTo hreceiver hdue') fun l'' taken hserves => ?_
      cases taken <;> exact hkeeps.serves hserves
    · simp only [if_neg howner]
      refine Rules.obeys_bind (obeys_publish howner hkind hreceiver hown' hdue')
        fun l'' published hserves => ?_
      cases published <;> exact hkeeps.serves hserves

/-- Copies for different members serve each of them once. -/
theorem obeys_routeCopies {m : Message} {members : List UserId} {served : Nat}
    (hkind : m.kind.isBroadcast = false) (hnodup : members.Nodup)
    (hown : l.bound = true → b.own.isSome = true)
    (hdue : l.bound = true → ∀ user ∈ members, l.due user) :
    b.rules.Obeys l (b.router.routeCopies m members served) fun _ _ => True := by
  -- What is carried along is that all the members still to come are due.
  induction members generalizing l served with
  | nil => exact trivial
  | cons member rest ih =>
    rw [List.nodup_cons] at hnodup
    have hdirect : b.rules.Obeys l (b.router.routeDirect member (m.addressedTo member))
        fun l' _ => l.Serves member l' :=
      obeys_routeDirect hkind rfl hown fun h => hdue h member List.mem_cons_self
    refine Rules.obeys_bind hdirect fun l' outcome hserves => ?_
    refine ih hnodup.2 (fun h => hown (hserves.bound ▸ h)) fun h user huser => ?_
    have hne : user ≠ member := fun heq => hnodup.1 (heq ▸ huser)
    exact hserves.due user hne (hdue (hserves.bound ▸ h) user (List.mem_cons_of_mem _ huser))

/-- Nobody is named twice among the members of a room. -/
theorem obeys_roomMembers (room : RoomId) :
    b.rules.Obeys l (Registrar.roomMembers room) fun l' reply =>
      l.Keeps l' ∧ ∀ users, reply = .ok users → users.Nodup := by
  refine ⟨trivial, fun reply hnames => ?_⟩
  rcases reply with e | names
  · exact ⟨Ledger.Keeps.refl l, fun users h => by simp only [reduceCtorEq] at h⟩
  · refine ⟨Ledger.Keeps.refl l, fun users h => ?_⟩
    rw [← Except.ok.inj h]
    -- Different names stay different when they are read as users.
    refine (hnames names rfl).filterMap fun a a' user ha ha' => ?_
    rw [← (UserId.ofText?_eq_some_iff.1 ha).1, ← (UserId.ofText?_eq_some_iff.1 ha').1]

-- The members are all different, so the loop over them serves nobody twice.
theorem obeys_routeRoom {room : RoomId} {m : Message} (hkind : m.kind.isBroadcast = false)
    (hown : l.bound = true → b.own.isSome = true) (hdue : l.bound = true → ∀ user, l.due user) :
    b.rules.Obeys l (b.router.routeRoom room m) fun _ _ => True := by
  refine Rules.obeys_bind (obeys_roomMembers room) fun l' reply hmembers => ?_
  rcases hmembers with ⟨hkeeps, hnodup⟩
  rcases reply with e | members
  · exact (quiet_bind (quiet_warn _) (fun _ => quiet_pure _) b l').mono fun _ _ _ => trivial
  · refine Rules.obeys_bind (obeys_routeCopies hkind ((hnodup members rfl).filter _) ?_ ?_)
      fun _ _ _ => trivial
    · exact fun h => hown (hkeeps.bound ▸ h)
    · exact fun h user _ => hkeeps.due ▸ hdue (hkeeps.bound ▸ h) user

/-- A message of a client is sent on its way without serving anybody twice. -/
theorem obeys_route {m : Message} (hkind : m.kind.isBroadcast = false)
    (hown : l.bound = true → b.own.isSome = true) (hdue : l.bound = true → ∀ user, l.due user) :
    b.rules.Obeys l (b.router.route m) fun _ _ => True := by
  have hcount : ∀ (l' : Ledger) (outcome : RouteOutcome), b.rules.Obeys l'
      (count (.routedMessages outcome.routedAs) >>= fun _ => pure outcome) fun _ _ => True :=
    fun l' outcome =>
      (quiet_bind (quiet_count _) (fun _ => quiet_pure _) b l').mono fun _ _ _ => trivial
  have hdispatch : b.rules.Obeys l (b.router.dispatch m) fun _ _ => True := by
    rw [Router.dispatch, hkind]
    simp only [Bool.false_eq_true, if_false]
    cases hreceiver : m.receiver with
    | some receiver =>
      exact (obeys_routeDirect hkind hreceiver hown fun h => hdue h receiver).mono
        fun _ _ _ => trivial
    | none =>
      cases m.room with
      | some room => exact obeys_routeRoom hkind hown hdue
      | none =>
        exact (quiet_bind (quiet_warn _) (fun _ => quiet_pure _) b l).mono fun _ _ _ => trivial
  exact Rules.obeys_bind hdispatch fun l' outcome _ => hcount l' outcome

/-- A notice is published for everybody, which only an operation that is not held to anything
    may do. -/
theorem obeys_route_notice {m : Message} (hkind : m.kind.isBroadcast = true)
    (hbound : l.bound = false) : b.rules.Obeys l (b.router.route m) fun l' _ => l.Free l' := by
  have hpublish : b.rules.Obeys l (b.router.publish b.router.topics.broadcast m)
      fun l' _ => l.Free l' := by
    rw [Router.publish]
    cases BusFrame.encode { origin := b.router.id, message := m } with
    | error e =>
      exact (quiet_bind (quiet_warn _) (fun _ => quiet_pure false) b l).mono
        fun l' _ h => h.free hbound
    | ok frame =>
      refine ⟨fun h => absurd (h.symm.trans hbound) (by decide), fun reply _ => ?_⟩
      have hfree :
          l.Free { l with due := fun user => l.due user ∧ frameAudience frame ≠ .one user } :=
        ⟨fun _ h => h, hbound⟩
      rcases reply with e | _
      · exact (quiet_bind (quiet_warn _) (fun _ => quiet_pure false) b _).mono
          fun l'' _ h => hfree.trans (h.free hbound)
      · exact hfree
  have hcount : ∀ (l' : Ledger) (outcome : RouteOutcome), l.Free l' → b.rules.Obeys l'
      (count (.routedMessages outcome.routedAs) >>= fun _ => pure outcome)
      fun l'' _ => l.Free l'' :=
    fun l' outcome hfree =>
      (quiet_bind (quiet_count _) (fun _ => quiet_pure _) b l').mono
        fun l'' _ h => hfree.trans (h.free hfree.bound)
  have hdispatch : b.rules.Obeys l (b.router.dispatch m) fun l' _ => l.Free l' := by
    rw [Router.dispatch, hkind, if_pos rfl]
    refine Rules.obeys_bind hpublish fun l' published hfree => ?_
    cases published <;> exact hfree
  exact Rules.obeys_bind hdispatch hcount

end Routing

/-! ## Taking frames in -/

section Frames

variable {b : Brief} {l : Ledger}

-- By induction on the sessions, all of which have been looked up. An operation that is not bound
-- may hand a notice to each.
theorem obeys_deliverEach {m : Message} {sessions : List SessionHandle} {delivered : Nat}
    (hkind : m.kind.isBroadcast = true) (hbound : l.bound = false)
    (hfound : ∀ session ∈ sessions, session ∈ l.found) :
    b.rules.Obeys l (Router.deliverEach m sessions delivered) fun _ _ => True := by
  induction sessions generalizing l delivered with
  | nil => exact trivial
  | cons session rest ih =>
    refine ⟨trivial, fun isOpen _ => ?_⟩
    have hrest : ∀ s ∈ rest, s ∈ l.found := fun s hs => hfound s (List.mem_cons_of_mem _ hs)
    cases isOpen with
    | false => exact ih hbound hrest
    | true =>
      refine ⟨⟨hfound session List.mem_cons_self, Or.inl hkind, ?_⟩, fun reply _ => ?_⟩
      · exact fun h => absurd (h.symm.trans hbound) (by decide)
      · rcases reply with e | _
        · exact ih hbound hrest
        · exact ih hbound hrest

/-- A message that has arrived is handed to those it is for. Only one that is not for everybody
    may be handed on by an operation that serves nobody twice. -/
theorem obeys_deliver {m : Message} (heverybody : l.bound = true → m.audience ≠ .everybody)
    (hdue : l.bound = true → ∀ user, m.audience = .one user → l.due user) :
    b.rules.Obeys l (Router.deliver m) fun _ _ => True := by
  rw [Router.deliver]
  by_cases hkind : m.kind.isBroadcast = true
  · rw [if_pos hkind]
    -- For everybody means that the operation is not held to serve nobody twice.
    have hbound : l.bound = false := by
      rw [Message.audience, if_pos hkind] at heverybody
      exact Bool.eq_false_iff.2 fun h => heverybody h rfl
    exact ⟨trivial, fun sessions _ => obeys_deliverEach hkind hbound
      fun session hs => List.mem_append_left _ hs⟩
  · rw [if_neg hkind]
    rw [Message.audience, if_neg hkind] at hdue
    cases hreceiver : m.receiver with
    | none => exact trivial
    | some receiver =>
      rw [hreceiver] at hdue
      exact Rules.obeys_bind (obeys_deliverTo hreceiver fun h => hdue h receiver rfl)
        fun _ _ _ => trivial

/-- A frame is handed to those it is for. -/
theorem obeys_receive {frame : Bytes}
    (heverybody : l.bound = true → frameAudience frame ≠ .everybody)
    (hdue : l.bound = true → ∀ user, frameAudience frame = .one user → l.due user) :
    b.rules.Obeys l (Router.receive frame) fun _ _ => True := by
  refine Rules.obeys_bind (quiet_perform .spareId trivial b l) fun l' spare hkeeps => ?_
  cases hdecode : BusFrame.decode spare frame with
  | error e =>
    exact (quiet_bind (quiet_warn _) (fun _ => quiet_bind (quiet_count _) fun _ => quiet_pure _)
      b l').mono fun _ _ _ => trivial
  | ok f =>
    rw [frameAudience_of_decode hdecode] at heverybody hdue
    exact obeys_deliver (fun h => heverybody (hkeeps.bound ▸ h))
      fun h => hkeeps.due ▸ hdue (hkeeps.bound ▸ h)

end Frames

/-! ## Sessions -/

section Sessions

variable {b : Brief} {l : Ledger}

theorem isBroadcast_stamp {d : Draft} (h : d.isBroadcast = false) (spare : MessageId)
    (sender : UserId) (now : Int64) : (d.stamp spare sender now).kind.isBroadcast = false := by
  simp only [Draft.stamp]
  cases hkind : d.kind with
  | none => rfl
  | some kind =>
    rw [Draft.isBroadcast, hkind] at h
    exact h

theorem isBroadcast_of_admissible {item : Inbound} {draft : Draft}
    (h : item.admissible = .ok draft) : draft.isBroadcast = false := by
  rw [Inbound.admissible] at h
  cases hdraft : item.draft? with
  | none => simp only [hdraft, reduceCtorEq] at h
  | some d =>
    simp only [hdraft] at h
    split at h
    · simp only [reduceCtorEq] at h
    · next hkind => exact Except.ok.inj h ▸ Bool.eq_false_iff.2 hkind

/-- An item of a client is handled without serving anybody twice, and a rejection goes to the
    session that the item came from. -/
theorem obeys_handle {Q : Type} [Amount Q] [BucketText Q] (limits : LimitSettings Q)
    {session : SessionHandle} (item : Inbound) (hown : b.own = some session)
    (hbound : l.bound = true) (hdue : ∀ user, l.due user) :
    b.rules.Obeys l ((⟨b.router, limits⟩ : Pipeline Q).handle session item) fun _ _ => True := by
  rw [Pipeline.handle]
  cases hitem : item.admissible with
  | error refusal =>
    cases refusal with
    | malformed =>
      exact (quiet_bind (quiet_warn _) (fun _ => quiet_count _) b l).mono fun _ _ _ => trivial
    | broadcastKind =>
      exact (quiet_bind (quiet_warn _) (fun _ => quiet_count _) b l).mono fun _ _ _ => trivial
  | ok draft =>
    refine Rules.obeys_bind (quiet_perform .spareId trivial b l) fun l₁ spare h₁ => ?_
    refine Rules.obeys_bind (quiet_perform .clock trivial b l₁) fun l₂ now h₂ => ?_
    refine Rules.obeys_bind (quiet_check limits _ b l₂) fun l₃ admission h₃ => ?_
    -- So far nothing has been handed on.
    have hkeeps := (h₁.trans h₂).trans h₃
    cases admission with
    | throttled secs => exact ⟨⟨hown, hkeeps.bound.trans hbound⟩, fun _ _ => trivial⟩
    | allowed =>
      have hkind := isBroadcast_stamp (isBroadcast_of_admissible hitem) spare session.user now
      have hroute : b.rules.Obeys l₃ (b.router.route _) fun _ _ => True :=
        obeys_route hkind (fun _ => by rw [hown]; rfl) fun _ user => hkeeps.due ▸ hdue user
      exact Rules.obeys_bind hroute fun _ _ _ => trivial

-- Beyond the insertion, which is that of its own session, a registration is quiet.
theorem obeys_register (self : Registrar) {session : SessionHandle} (hown : b.own = some session) :
    b.rules.Obeys l (self.register session) fun l' _ => l.Keeps l' := by
  refine ⟨hown, fun superseded _ => ?_⟩
  refine quiet_bind quiet_gauge (fun _ => ?_) b l
  refine quiet_bind (quiet_writeEntry self session.user) fun reply => ?_
  rcases reply with e | _
  · exact quiet_bind (quiet_warn _) fun _ => quiet_bind (quiet_count _) fun _ => quiet_pure _
  · exact quiet_pure _

/-- Taking in a session puts no other session into the directory. -/
theorem obeys_greet {self : Profile} {session : SessionHandle} (hrouter : b.router = self.router)
    (hown : b.own = some session) (hbound : l.bound = false) :
    b.rules.Obeys l (self.greet session) fun _ _ => True := by
  refine Rules.obeys_bind (obeys_register self.registrar hown) fun l₁ _ h₁ => ?_
  refine Rules.obeys_bind (quiet_perform .postmark trivial b l₁) fun l₂ mark h₂ => ?_
  have hroute : b.rules.Obeys l₂ (b.router.route (.join mark session.user))
      fun l' _ => l₂.Free l' := obeys_route_notice rfl ((h₁.trans h₂).free hbound).bound
  rw [hrouter] at hroute
  exact Rules.obeys_bind hroute fun _ _ _ => trivial

theorem obeys_part {self : Profile} (hrouter : b.router = self.router) (session : SessionHandle)
    (hbound : l.bound = false) : b.rules.Obeys l (self.part session) fun l' _ => l.Free l' := by
  refine Rules.obeys_bind (quiet_unregisterIf self.registrar session.user session.id b l)
    fun l₁ gone h₁ => ?_
  cases gone with
  | false => exact h₁.free hbound
  | true =>
    refine Rules.obeys_bind (quiet_perform .postmark trivial b l₁) fun l₂ mark h₂ => ?_
    have hfree := (h₁.trans h₂).free hbound
    have hroute : b.rules.Obeys l₂ (b.router.route (.leave mark session.user))
        fun l' _ => l₂.Free l' := obeys_route_notice rfl hfree.bound
    rw [hrouter] at hroute
    exact Rules.obeys_bind hroute fun l₃ _ h₃ => hfree.trans h₃

-- Each session is let go by an operation that is not bound, and stays so for the next.
theorem obeys_partEach {self : Profile} (hrouter : b.router = self.router)
    {sessions : List SessionHandle} (hbound : l.bound = false) :
    b.rules.Obeys l (self.partEach sessions) fun l' _ => l.Free l' := by
  induction sessions generalizing l with
  | nil => exact (Ledger.Keeps.refl l).free hbound
  | cons session rest ih =>
    refine Rules.obeys_bind (obeys_part hrouter session hbound) fun l' _ hfree => ?_
    exact (ih hfree.bound).mono fun l'' _ hfree' => hfree.trans hfree'

theorem obeys_leave {self : Profile} (hrouter : b.router = self.router)
    (hbound : l.bound = false) : b.rules.Obeys l self.leave fun _ _ => True := by
  refine Rules.obeys_bind (quiet_listSessions b l) fun l₁ sessions h₁ => ?_
  refine Rules.obeys_bind (obeys_partEach hrouter (h₁.free hbound).bound) fun l₂ _ h₂ => ?_
  refine Rules.obeys_bind (quiet_withdraw self.monitor b l₂) fun l₃ reply h₃ => ?_
  rcases reply with e | _
  · exact (quiet_warn _ b l₃).mono fun _ _ _ => trivial
  · exact trivial

end Sessions

end ChatCluster
