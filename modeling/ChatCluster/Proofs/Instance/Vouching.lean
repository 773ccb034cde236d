import ChatCluster.Proofs.Instance.Delivery

/-!
# What Operations Vouch For

The rules that every operation of an instance keeps about what it says. Of a message only its gist
counts here: who is said to have sent it, what it is about, and its content. The name of the message
and those it is for change on its way, the gist does not.

An operation is given two sets of gists, those that it may offer to sessions and those that it may
publish (`Voucher`). What they are depends on what the operation is there for. Routing needs its
message in both, since it is not known which of the two will happen, and taking a frame in needs
what is read out of it in the first. Only the notice that somebody has gone cannot be told in
advance, as nobody is told if another session of the user has come meanwhile. So the memory of the
rules holds the users that the operation has taken out of the directory itself.

## Main definitions

* `Gist`, `Message.gist`: What a message says, and in whose name.
* `Voucher`, `vouching`: What an operation may hand on, and the rules.

## Theorems

* `gist_of_decode`: What is read out of a frame says what was published in it.
* `vouching_of_within`: What keeps to itself needs no voucher.
* `vouching_route`, `vouching_route_notice`, `vouching_receive`: Messages and frames.
* `vouching_handle`, `vouching_greet`, `vouching_part`, `vouching_leave`: Sessions.
-/

namespace ChatCluster

open Operation

/-! ## Gists -/

/-- What a message says, and in whose name. -/
structure Gist where
  /-- Who is said to have sent it. -/
  sender : UserId
  /-- What it is about. -/
  kind : MessageKind
  /-- Its content. -/
  payload : String
  deriving DecidableEq, Repr

/-- The gist of a message. -/
def Message.gist (m : Message) : Gist :=
  { sender := m.sender, kind := m.kind, payload := m.payload }

/-- A copy for somebody says the same. -/
theorem Message.gist_addressedTo (m : Message) (receiver : UserId) :
    (m.addressedTo receiver).gist = m.gist := rfl

theorem Wire.Letter.gist_of_toMessage {m n : Message} {spare : MessageId}
    (h : (Wire.Letter.ofMessage m).toMessage spare = .ok n) : n.gist = m.gist := by
  simp only [Wire.Letter.toMessage, Wire.Letter.ofMessage, MessageKind.ofCode?_code] at h
  cases hsender : UserId.ofText? m.sender.text with
  | none => simp only [hsender, reduceCtorEq] at h
  | some sender =>
    simp only [hsender, Except.ok.injEq] at h
    subst h
    -- The sender is read from the text of the name it was written as.
    have hsame : sender = m.sender := by
      have htext := (UserId.ofText?_eq_some_iff.1 hsender).1
      cases sender
      exact congrArg UserId.mk htext
    rw [Message.gist, Message.gist, hsame]

/-- What is read out of a frame says what was published in it. -/
theorem gist_of_decode {f g : BusFrame} {frame : Bytes} {spare : MessageId}
    (hencode : f.encode = .ok frame) (hdecode : BusFrame.decode spare frame = .ok g) :
    g.message.gist = f.message.gist :=
  Wire.Letter.gist_of_toMessage ((BusFrame.decode_eq_ok_iff_of_encode spare hencode).1 hdecode).2

/-! ## Rules -/

/-- What an operation may hand on. -/
structure Voucher where
  /-- The instance in whose name frames are published. -/
  id : InstanceId
  /-- What may be offered to sessions. -/
  offers : Gist → Prop
  /-- What may be published. -/
  publishes : Gist → Prop
  /-- It may be told that somebody has gone. -/
  farewells : Prop

/-- The message may be published by an operation that has let some users go. -/
def Voucher.Admits (v : Voucher) (gone : List UserId) (m : Message) : Prop :=
  v.publishes m.gist ∨ v.farewells ∧ ∃ mark, ∃ user ∈ gone, m = .leave mark user

/-- Who has been let go after a step and its reply. -/
def goneAfter (gone : List UserId) : (e : Effect) → e.Reply → List UserId
  | .removeSessionIf user _, some _ => user :: gone
  | _, _ => gone

/-- The rules of saying only what one may say. The memory holds the users that the operation has
    let go. -/
def vouching (v : Voucher) : Rules (List UserId) where
  allows
    | _, .offer _ (.message m) => v.offers m.gist
    | gone, .publish _ frame =>
      ∃ m, BusFrame.encode { origin := v.id, message := m } = .ok frame ∧ v.Admits gone m
    | _, _ => True
  possible _ _ := True
  after := goneAfter

section Parts

variable {v : Voucher} {gone : List UserId}

theorem subset_goneAfter (gone : List UserId) (e : Effect) (reply : e.Reply) :
    gone ⊆ goneAfter gone e reply := by
  cases e with
  | removeSessionIf user id =>
    cases reply with
    | none => exact List.Subset.refl gone
    | some session => exact List.subset_cons_self user gone
  | publish | store | clock | postmark | spareId | insertSession | findSession | removeSession
  | listSessions | countSessions | isOpen | offer | lifecycle | comeAlive | stop | setReady | warn
  | count | gaugeSessions => exact List.Subset.refl gone

/-- An operation that keeps to itself says nothing, and forgets nobody. -/
theorem vouching_of_within {α : Type} {keys : String → Prop} {op : Operation α}
    (h : Within keys op) : (vouching v).Obeys gone op fun gone' _ => gone ⊆ gone' := by
  induction op generalizing gone with
  | done a => exact List.Subset.refl gone
  | ask e next ih =>
    refine ⟨?_, fun reply _ => ?_⟩
    · cases e with
      | offer | publish => exact absurd h.1 id
      | store | clock | postmark | spareId | insertSession | findSession | removeSession
      | removeSessionIf | listSessions | countSessions | isOpen | lifecycle | comeAlive | stop
      | setReady | warn | count | gaugeSessions => exact trivial
    · exact (ih reply (h.2 reply trivial)).mono fun _ _ hmore =>
        List.Subset.trans (subset_goneAfter gone e reply) hmore

/-- An operation that keeps to itself, when it does not matter whom it lets go. -/
theorem vouching_alone {α : Type} {op : Operation α} (h : Within (fun _ => True) op) :
    (vouching v).Obeys gone op fun _ _ => True :=
  (vouching_of_within h).mono fun _ _ _ => trivial

end Parts

/-! ## Routing -/

section Routing

variable {v : Voucher} {gone : List UserId} {self : Router} (hid : self.id = v.id)

include hid

theorem vouching_publish {m : Message} (hm : v.Admits gone m) (topic : String) :
    (vouching v).Obeys gone (self.publish topic m) fun _ _ => True := by
  rw [Router.publish, hid]
  cases hencode : BusFrame.encode { origin := v.id, message := m } with
  | error e => exact vouching_alone (within_bind (within_warn _) fun _ => within_pure _)
  | ok frame =>
    have hpublish : (vouching v).Obeys gone (perform (.publish topic frame)) fun _ _ => True :=
      ⟨⟨m, hencode, hm⟩, fun _ _ => trivial⟩
    refine Rules.obeys_bind hpublish fun gone' reply _ => ?_
    rcases reply with e | _
    · exact vouching_alone (within_bind (within_warn _) fun _ => within_pure _)
    · exact trivial

omit hid in
theorem vouching_deliverTo {m : Message} (hm : v.offers m.gist) (receiver : UserId) :
    (vouching v).Obeys gone (Router.deliverTo receiver m) fun _ _ => True := by
  refine ⟨trivial, fun found _ => ?_⟩
  cases found with
  | none => exact trivial
  | some session =>
    refine ⟨trivial, fun isOpen _ => ?_⟩
    cases isOpen with
    | false => exact trivial
    | true =>
      refine ⟨hm, fun reply _ => ?_⟩
      rcases reply with e | _ <;> exact trivial

/-- Sending a message to one user either offers or publishes it. -/
theorem vouching_routeDirect {m : Message} (hoffers : v.offers m.gist)
    (hpublishes : v.publishes m.gist) (receiver : UserId) :
    (vouching v).Obeys gone (self.routeDirect receiver m) fun _ _ => True := by
  refine Rules.obeys_bind (vouching_alone (within_owner? receiver)) fun gone' reply _ => ?_
  rcases reply with e | _ | owner
  · exact vouching_alone (within_bind (within_warn _) fun _ => within_pure _)
  · exact vouching_alone (within_bind (within_warn _) fun _ => within_pure _)
  · by_cases howner : owner = self.id
    · simp only [if_pos howner]
      refine Rules.obeys_bind (vouching_deliverTo hoffers receiver) fun _ taken _ => ?_
      cases taken <;> exact trivial
    · simp only [if_neg howner]
      refine Rules.obeys_bind (vouching_publish hid (Or.inl hpublishes) _) fun _ published _ => ?_
      cases published <;> exact trivial

/-- The copies for the members of a room say what the message says. -/
theorem vouching_routeCopies {m : Message} (hoffers : v.offers m.gist)
    (hpublishes : v.publishes m.gist) (members : List UserId) (served : Nat) :
    (vouching v).Obeys gone (self.routeCopies m members served) fun _ _ => True := by
  induction members generalizing gone served with
  | nil => exact trivial
  | cons member rest ih =>
    have hdirect : (vouching v).Obeys gone (self.routeDirect member (m.addressedTo member))
        fun _ _ => True := by
      refine vouching_routeDirect hid ?_ ?_ member
      · rw [Message.gist_addressedTo]
        exact hoffers
      · rw [Message.gist_addressedTo]
        exact hpublishes
    exact Rules.obeys_bind hdirect fun _ outcome _ => ih _

theorem vouching_routeRoom {m : Message} (hoffers : v.offers m.gist)
    (hpublishes : v.publishes m.gist) (room : RoomId) :
    (vouching v).Obeys gone (self.routeRoom room m) fun _ _ => True := by
  have hmembers : Within (fun _ => True) (Registrar.roomMembers room) := by
    refine within_bind (within_look rfl) fun reply => ?_
    rcases reply with e | names <;> exact within_pure _
  refine Rules.obeys_bind (vouching_alone hmembers) fun _ reply _ => ?_
  rcases reply with e | members
  · exact vouching_alone (within_bind (within_warn _) fun _ => within_pure _)
  · exact Rules.obeys_bind (vouching_routeCopies hid hoffers hpublishes _ 0) fun _ _ _ => trivial

omit hid in
/-- Routing is dispatching, and then the outcome is counted. -/
theorem vouching_route_of_dispatch {m : Message}
    (h : (vouching v).Obeys gone (self.dispatch m) fun _ _ => True) :
    (vouching v).Obeys gone (self.route m) fun _ _ => True :=
  Rules.obeys_bind h fun _ _ _ =>
    vouching_alone (within_bind (within_count _) fun _ => within_pure _)

/-- A message that may be both offered and published can be sent on its way. -/
theorem vouching_route {m : Message} (hoffers : v.offers m.gist) (hpublishes : v.publishes m.gist) :
    (vouching v).Obeys gone (self.route m) fun _ _ => True := by
  refine vouching_route_of_dispatch ?_
  rw [Router.dispatch]
  split
  · refine Rules.obeys_bind (vouching_publish hid (Or.inl hpublishes) _) fun _ published _ => ?_
    cases published <;> exact trivial
  · cases m.receiver with
    | some receiver => exact vouching_routeDirect hid hoffers hpublishes receiver
    | none =>
      cases m.room with
      | some room => exact vouching_routeRoom hid hoffers hpublishes room
      | none => exact vouching_alone (within_bind (within_warn _) fun _ => within_pure _)

/-- A notice is published and not offered to anybody. -/
theorem vouching_route_notice {m : Message} (hkind : m.kind.isBroadcast = true)
    (hm : v.Admits gone m) : (vouching v).Obeys gone (self.route m) fun _ _ => True := by
  refine vouching_route_of_dispatch ?_
  rw [Router.dispatch, if_pos hkind]
  refine Rules.obeys_bind (vouching_publish hid hm _) fun _ published _ => ?_
  cases published <;> exact trivial

end Routing

/-! ## Taking frames in -/

section Frames

variable {v : Voucher} {gone : List UserId}

theorem vouching_deliverEach {m : Message} (hm : v.offers m.gist) (sessions : List SessionHandle)
    (delivered : Nat) :
    (vouching v).Obeys gone (Router.deliverEach m sessions delivered) fun _ _ => True := by
  induction sessions generalizing gone delivered with
  | nil => exact trivial
  | cons session rest ih =>
    refine ⟨trivial, fun isOpen _ => ?_⟩
    cases isOpen with
    | false => exact ih _
    | true =>
      refine ⟨hm, fun reply _ => ?_⟩
      rcases reply with e | _ <;> exact ih _

theorem vouching_deliver {m : Message} (hm : v.offers m.gist) :
    (vouching v).Obeys gone (Router.deliver m) fun _ _ => True := by
  rw [Router.deliver]
  split
  · exact ⟨trivial, fun sessions _ => vouching_deliverEach hm sessions 0⟩
  · cases m.receiver with
    | none => exact trivial
    | some receiver =>
      exact Rules.obeys_bind (vouching_deliverTo hm receiver) fun _ _ _ => trivial

/-- Whatever is read out of a frame may be offered, whichever name is held ready for it. -/
theorem vouching_receive {frame : Bytes}
    (h : ∀ spare f, BusFrame.decode spare frame = .ok f → v.offers f.message.gist) :
    (vouching v).Obeys gone (Router.receive frame) fun _ _ => True := by
  refine Rules.obeys_bind (vouching_alone (within_perform trivial)) fun gone' spare _ => ?_
  cases hdecode : BusFrame.decode spare frame with
  | error e =>
    exact vouching_alone
      (within_bind (within_warn _) fun _ => within_bind (within_count _) fun _ => within_pure _)
  | ok f => exact vouching_deliver (h spare f hdecode)

end Frames

/-! ## Sessions -/

section Sessions

variable {v : Voucher} {gone : List UserId}

/-- The gist of a draft that a user has handed in. -/
def Draft.gist (d : Draft) (sender : UserId) : Gist :=
  { sender, kind := d.kind.getD .chat, payload := d.payload }

theorem Draft.gist_stamp (d : Draft) (spare : MessageId) (sender : UserId) (now : Int64) :
    (d.stamp spare sender now).gist = d.gist sender := rfl

theorem Inbound.admissible_eq_ok_iff (item : Inbound) (d : Draft) :
    item.admissible = .ok d ↔ item.draft? = some d ∧ d.isBroadcast = false := by
  rw [Inbound.admissible]
  cases item.draft? with
  | none => simp only [reduceCtorEq, false_and]
  | some d' =>
    simp only [Option.some.injEq]
    by_cases hkind : d'.isBroadcast = true
    · simp only [if_pos hkind, reduceCtorEq, false_iff]
      rintro ⟨rfl, hnot⟩
      exact absurd hkind (Bool.eq_false_iff.1 hnot)
    · simp only [if_neg hkind, Except.ok.injEq]
      refine ⟨?_, And.left⟩
      rintro rfl
      exact ⟨rfl, Bool.eq_false_iff.2 hkind⟩

/-- Of an item that a client has handed in, nothing is said but its draft in the name of the
    client's user. -/
theorem vouching_handle {Q : Type} [Amount Q] [BucketText Q] {self : Pipeline Q}
    (hid : self.router.id = v.id) {session : SessionHandle} {item : Inbound}
    (h : ∀ draft, item.admissible = .ok draft →
      v.offers (draft.gist session.user) ∧ v.publishes (draft.gist session.user)) :
    (vouching v).Obeys gone (self.handle session item) fun _ _ => True := by
  rw [Pipeline.handle]
  cases hitem : item.admissible with
  | error refusal =>
    cases refusal <;>
      exact vouching_alone (within_bind (within_warn _) fun _ => within_count _)
  | ok draft =>
    rcases h draft hitem with ⟨hoffers, hpublishes⟩
    refine Rules.obeys_bind (vouching_alone (within_perform trivial)) fun _ spare _ => ?_
    refine Rules.obeys_bind (vouching_alone (within_perform trivial)) fun _ now _ => ?_
    refine Rules.obeys_bind (vouching_alone (within_check self.limits trivial))
      fun _ admission _ => ?_
    cases admission with
    | throttled secs => exact ⟨trivial, fun _ _ => trivial⟩
    | allowed =>
      refine Rules.obeys_bind (vouching_route hid ?_ ?_) fun _ _ _ => trivial
      · rw [Draft.gist_stamp]
        exact hoffers
      · rw [Draft.gist_stamp]
        exact hpublishes

/-- Taking a session in says nothing. -/
theorem vouching_insertSession {session : SessionHandle} :
    (vouching v).Obeys gone (perform (.insertSession session)) fun _ _ => True :=
  ⟨trivial, fun _ _ => trivial⟩

variable {self : Profile} (hid : self.id = v.id)

include hid

/-- Everybody is told that the user of the session has come, and nothing else. -/
theorem vouching_greet {session : SessionHandle}
    (h : ∀ mark, v.publishes (Message.join mark session.user).gist) :
    (vouching v).Obeys gone (self.greet session) fun _ _ => True := by
  have hregister : (vouching v).Obeys gone (self.registrar.register session) fun _ _ => True := by
    refine Rules.obeys_bind vouching_insertSession fun _ superseded _ => ?_
    refine Rules.obeys_bind (vouching_alone within_gauge) fun _ _ _ => ?_
    refine Rules.obeys_bind (vouching_alone (within_writeEntry self.registrar trivial))
      fun _ reply _ => ?_
    rcases reply with e | _
    · exact vouching_alone
        (within_bind (within_warn _) fun _ => within_bind (within_count _) fun _ => within_pure _)
    · exact trivial
  refine Rules.obeys_bind hregister fun _ _ _ => ?_
  refine Rules.obeys_bind (vouching_alone (within_perform trivial)) fun gone' mark _ => ?_
  have hnotice : (vouching v).Obeys gone' (self.router.route (.join mark session.user))
      fun _ _ => True := vouching_route_notice hid rfl (Or.inl (h mark))
  exact Rules.obeys_bind hnotice fun _ _ _ => trivial

/-- Everybody is told that a user has gone only after it was taken out of the directory. -/
theorem vouching_part (hfarewells : v.farewells) (session : SessionHandle) :
    (vouching v).Obeys gone (self.part session) fun _ _ => True := by
  have hunregister : (vouching v).Obeys gone
      (self.registrar.unregisterIf session.user session.id)
      fun gone' removed => removed = true → session.user ∈ gone' := by
    refine ⟨trivial, fun reply _ => ?_⟩
    cases reply with
    | none => exact fun h => absurd h Bool.false_ne_true
    | some found =>
      have hrest : Within (fun _ => True) (Registrar.gauge >>= fun _ =>
          self.registrar.release session.user >>= fun _ => (pure true : Operation Bool)) :=
        within_bind within_gauge fun _ =>
          within_bind (within_release self.registrar trivial) fun _ => within_pure _
      exact (vouching_of_within hrest).mono fun _ _ hmore _ => hmore List.mem_cons_self
  refine Rules.obeys_bind hunregister fun gone' removed hgone => ?_
  cases removed with
  | false => exact trivial
  | true =>
    have hmark : Within (fun _ => True) (perform .postmark) := within_perform trivial
    refine Rules.obeys_bind (vouching_of_within hmark) fun gone'' mark hmore => ?_
    have hnotice : (vouching v).Obeys gone'' (self.router.route (.leave mark session.user))
        fun _ _ => True :=
      vouching_route_notice hid rfl
        (Or.inr ⟨hfarewells, mark, session.user, hmore (hgone rfl), rfl⟩)
    exact Rules.obeys_bind hnotice fun _ _ _ => trivial

theorem vouching_leave (hfarewells : v.farewells) :
    (vouching v).Obeys gone self.leave fun _ _ => True := by
  have heach : ∀ (sessions : List SessionHandle) (gone : List UserId),
      (vouching v).Obeys gone (self.partEach sessions) fun _ _ => True := by
    intro sessions
    induction sessions with
    | nil => exact fun _ => trivial
    | cons session rest ih =>
      exact fun gone =>
        Rules.obeys_bind (vouching_part hid hfarewells session) fun gone' _ _ => ih gone'
  refine Rules.obeys_bind (vouching_alone (within_perform trivial)) fun _ sessions _ => ?_
  refine Rules.obeys_bind (heach sessions _) fun _ _ _ => ?_
  refine Rules.obeys_bind (vouching_alone (within_withdraw self.monitor trivial))
    fun _ reply _ => ?_
  rcases reply with e | _
  · exact vouching_alone (within_warn _)
  · exact trivial

end Sessions

end ChatCluster
