import ChatCluster.Instance.Router
import ChatCluster.Proofs.Cluster.Conduct
import ChatCluster.Proofs.Wire.RoundTrip

/-!
# The Rules of Delivery

The rules that every operation of an instance keeps when it hands something on. A message is
offered only to a session that the operation has looked up, and only if it is a notice or
addressed to the user of that session. A rejection is offered only to the session whose item is
being handled, and a session is put into the directory only by the operation that greets it.

An operation that works off an item of a client, or a frame that such an item has caused, is held
to more: it serves no user twice. The memory says who is still due. Offering a message to a session
serves its user, and so does publishing a frame that is addressed to the user, since whoever takes
the frame in will serve nobody else. Such a frame goes to the topic of another instance, and is
never one for everybody.

## Main definitions

* `Audience`, `Message.audience`, `frameAudience`: Whom a message or a frame is for.
* `Ledger`: What is remembered.
* `Brief`, `Brief.rules`: For whom an operation works, and the rules.
* `Ledger.Keeps`, `Ledger.Serves`, `Ledger.Free`: What has happened from one point to another.

## Theorems

* `frameAudience_of_decode`: What is read out of a frame is for those the frame is for.
* `frameAudience_of_encode`: What is published for a user is for nobody else.
-/

namespace ChatCluster

/-! ## Audience -/

/-- Whom something is for. -/
inductive Audience where
  | nobody
  | one (user : UserId)
  | everybody
  deriving DecidableEq, Repr

/-- Whom a message that has arrived is for. -/
def Message.audience (m : Message) : Audience :=
  if m.kind.isBroadcast then .everybody
  else
    match m.receiver with
    | none => .nobody
    | some user => .one user

/-- Whom a frame is for. The name that is held ready for the message has no bearing on it. -/
def frameAudience (frame : Bytes) : Audience :=
  match BusFrame.decode default frame with
  | .error _ => .nobody
  | .ok f => f.message.audience

/-- The name that is held ready changes nothing but the name of the message. -/
theorem Wire.Letter.toMessage_spare (l : Wire.Letter) (spare other : MessageId) :
    l.toMessage other =
      (l.toMessage spare).map fun m => { m with id := other.orElse l.id } := by
  simp only [Wire.Letter.toMessage]
  cases MessageKind.ofCode? l.kind with
  | none => rfl
  | some kind =>
    cases UserId.ofText? l.sender with
    | none => rfl
    | some sender => rfl

-- The two readings go through the same checks in the same order, and each check that fails ends
-- both.
theorem frameAudience_of_decode {spare : MessageId} {frame : Bytes} {f : BusFrame}
    (h : BusFrame.decode spare frame = .ok f) : frameAudience frame = f.message.audience := by
  rw [BusFrame.decode] at h
  rw [frameAudience, BusFrame.decode]
  -- All checks come before the name is chosen, so they turn out the same.
  cases henvelope : Wire.Envelope.ofFrame frame Wire.maxFrameSize with
  | error e =>
    rw [henvelope] at h
    simp only [reduceCtorEq] at h
  | ok envelope =>
    simp only [henvelope] at h ⊢
    by_cases hversion : envelope.version ≠ Wire.protocolVersion
    · simp only [if_pos hversion, reduceCtorEq] at h
    · simp only [if_neg hversion] at h ⊢
      cases horigin : InstanceId.ofText? envelope.origin with
      | none => simp only [horigin, reduceCtorEq] at h
      | some origin =>
        cases hletter : envelope.letter with
        | none => simp only [horigin, hletter, reduceCtorEq] at h
        | some letter =>
          simp only [horigin, hletter] at h ⊢
          rw [letter.toMessage_spare spare default]
          cases hmessage : letter.toMessage spare with
          | error e => simp only [hmessage, reduceCtorEq] at h
          | ok m =>
            simp only [hmessage, Except.ok.injEq] at h
            subst h
            rfl

/-- What is read out of the letter of a message has its kind, and its receiver or none. -/
theorem Wire.Letter.toMessage_ofMessage_eq_ok {m n : Message} {spare : MessageId}
    (h : (Wire.Letter.ofMessage m).toMessage spare = .ok n) :
    n.kind = m.kind ∧ (n.receiver = none ∨ n.receiver = m.receiver) := by
  simp only [Wire.Letter.toMessage, Wire.Letter.ofMessage, MessageKind.ofCode?_code] at h
  cases hsender : UserId.ofText? m.sender.text with
  | none => simp only [hsender, reduceCtorEq] at h
  | some sender =>
    simp only [hsender, Except.ok.injEq] at h
    subst h
    refine ⟨rfl, ?_⟩
    -- A receiver whose name is blank is read as none.
    cases m.receiver with
    | none => exact Or.inl rfl
    | some user =>
      simp only [Option.map_some, Option.bind_some, UserId.ofText?, unlessBlank]
      split
      · exact Or.inl rfl
      · exact Or.inr rfl

/-- A message that is published for a user is for that user, or for nobody if it cannot be read. -/
theorem frameAudience_of_encode {origin : InstanceId} {m : Message} {frame : Bytes} {user : UserId}
    (h : BusFrame.encode { origin, message := m } = .ok frame)
    (hkind : m.kind.isBroadcast = false) (hreceiver : m.receiver = some user) :
    frameAudience frame = .nobody ∨ frameAudience frame = .one user := by
  rw [frameAudience]
  cases hdecode : BusFrame.decode default frame with
  | error e => exact Or.inl rfl
  | ok f =>
    have hletter := ((BusFrame.decode_eq_ok_iff_of_encode default h).1 hdecode).2
    rcases Wire.Letter.toMessage_ofMessage_eq_ok hletter with ⟨hk, hr⟩
    simp only [Message.audience, hk, hkind, Bool.false_eq_true, if_false]
    rcases hr with hr | hr
    · rw [hr]
      exact Or.inl rfl
    · rw [hr, hreceiver]
      exact Or.inr rfl

/-! ## Rules -/

/-- What an operation that hands things on has to remember. -/
structure Ledger where
  /-- The sessions it has looked up. -/
  found : List SessionHandle
  /-- It serves nobody twice. -/
  bound : Bool
  /-- Who may still be served. -/
  due : UserId → Prop

/-- What is remembered at first by an operation that may serve everybody. -/
def Ledger.blank (bound : Bool) : Ledger :=
  { found := [], bound, due := fun _ => True }

/-- For whom an operation works. -/
structure Brief where
  /-- The instance, as the one that routes. -/
  router : Router
  /-- The session whose items it handles. -/
  own : Option SessionHandle

/-- What is remembered after a step and its reply. -/
def Ledger.after (l : Ledger) : (e : Effect) → e.Reply → Ledger
  | .findSession _, reply => { l with found := reply.toList ++ l.found }
  | .listSessions, reply => { l with found := reply ++ l.found }
  | .offer session (.message _), _ =>
    { l with due := fun user => l.due user ∧ user ≠ session.user }
  | .publish _ frame, _ =>
    { l with due := fun user => l.due user ∧ frameAudience frame ≠ .one user }
  | _, _ => l

/-- The rules of handing something on. -/
def Brief.rules (b : Brief) : Rules Ledger where
  allows
    | l, .offer session (.message m) =>
      session ∈ l.found ∧ (m.kind.isBroadcast = true ∨ m.receiver = some session.user) ∧
        (l.bound = true → l.due session.user)
    | l, .offer session (.rejection _) => b.own = some session ∧ l.bound = true
    | l, .publish topic frame =>
      l.bound = true → b.own.isSome = true ∧
        (∃ owner, owner ≠ b.router.id ∧ topic = b.router.topics.ofInstance owner) ∧
        frameAudience frame ≠ .everybody ∧ ∀ user, frameAudience frame = .one user → l.due user
    | _, .insertSession session => b.own = some session
    | _, _ => True
  possible
    | .findSession user, reply => ∀ session, reply = some session → session.user = user
    | .store (.members _), reply => ∀ names, reply = .ok names → names.Nodup
    | _, _ => True
  after := Ledger.after

/-- Nothing has been handed on from one point to another. -/
structure Ledger.Keeps (l l' : Ledger) : Prop where
  found : l.found ⊆ l'.found
  bound : l'.bound = l.bound
  due : l'.due = l.due

/-- At most one user has been served from one point to another. -/
structure Ledger.Serves (l : Ledger) (user : UserId) (l' : Ledger) : Prop where
  found : l.found ⊆ l'.found
  bound : l'.bound = l.bound
  due : ∀ other, other ≠ user → l.due other → l'.due other

theorem Ledger.Keeps.refl (l : Ledger) : l.Keeps l := ⟨fun _ h => h, rfl, rfl⟩

theorem Ledger.Keeps.trans {l l' l'' : Ledger} (h : l.Keeps l') (h' : l'.Keeps l'') :
    l.Keeps l'' :=
  ⟨fun _ hm => h'.found (h.found hm), h'.bound.trans h.bound, h'.due.trans h.due⟩

theorem Ledger.Keeps.serves {l l' l'' : Ledger} {user : UserId} (h : l.Keeps l')
    (h' : l'.Serves user l'') : l.Serves user l'' :=
  ⟨fun _ hm => h'.found (h.found hm), h'.bound.trans h.bound,
    fun other hne hdue => h'.due other hne (h.due ▸ hdue)⟩

theorem Ledger.Serves.keeps {l l' l'' : Ledger} {user : UserId} (h : l.Serves user l')
    (h' : l'.Keeps l'') : l.Serves user l'' :=
  ⟨fun _ hm => h'.found (h.found hm), h'.bound.trans h.bound,
    fun other hne hdue => h'.due ▸ h.due other hne hdue⟩

theorem Ledger.Keeps.toServes {l l' : Ledger} (h : l.Keeps l') (user : UserId) :
    l.Serves user l' :=
  ⟨h.found, h.bound, fun _ _ hdue => h.due ▸ hdue⟩

/-- An operation that is not held to anything stays so. -/
structure Ledger.Free (l l' : Ledger) : Prop where
  found : l.found ⊆ l'.found
  bound : l'.bound = false

theorem Ledger.Keeps.free {l l' : Ledger} (h : l.Keeps l') (hl : l.bound = false) : l.Free l' :=
  ⟨h.found, h.bound.trans hl⟩

theorem Ledger.Free.trans {l l' l'' : Ledger} (h : l.Free l') (h' : l'.Free l'') : l.Free l'' :=
  ⟨fun _ hm => h'.found (h.found hm), h'.bound⟩

end ChatCluster
