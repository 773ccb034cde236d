import ChatCluster.Proofs.Cluster.Alone
import ChatCluster.Proofs.Instance.Rules

/-!
# Messages That Have Arrived

What becomes of the outbound queues when a message is handed to the sessions it is for. A message
for one user is offered to the session that the directory has for the user. A notice is offered to
every session there is; where each of them feeds a queue of its own, each of these queues is
offered it once.

An offer to a session whose client has left, or whose queue is full, changes nothing, and does not
keep the others from theirs.

## Main definitions

* `Mailbox.followedBy`, `Mailbox.afterOffer`: One more item, and an item if it is taken.
* `Cluster.accepts`: A session takes what it is offered.
* `Cluster.Attends`: A user has an open session whose queue has room.
* `Cluster.QueuesApart`: The sessions of an instance feed queues of their own.

## Theorems

* `Cluster.accepts_cases`: A session takes what it is offered just if it accepts items.
* `Cluster.offer_of_listed`: Whoever attends takes what is offered, and nobody else does.
* `Cluster.runAlone_deliverTo`: Whoever attends is handed the message.
* `Cluster.runAlone_deliverEach_cons`: One session is offered the message, then the rest.
* `Cluster.find?_queues_deliverEach`: Each of some sessions is offered the message once.
* `Cluster.runAlone_deliver_of_audience`: A message for one user.
* `Cluster.find?_queues_deliver_of_notice`: A message for everybody.
-/

namespace ChatCluster

/-! ## Audience -/

section Audience

variable (m : Message)

theorem Message.audience_eq_everybody_iff :
    m.audience = .everybody ↔ m.kind.isBroadcast = true := by
  rw [audience]
  cases m.kind.isBroadcast <;> cases m.receiver <;>
    simp only [if_true, if_false, Bool.false_eq_true, reduceCtorEq]

theorem Message.audience_eq_one_iff (user : UserId) :
    m.audience = .one user ↔ m.kind.isBroadcast = false ∧ m.receiver = some user := by
  rw [audience]
  cases m.kind.isBroadcast <;> cases m.receiver <;>
    simp only [if_true, if_false, Bool.false_eq_true, reduceCtorEq, Audience.one.injEq,
      Option.some.injEq, true_and, false_and, and_false]

theorem Message.audience_eq_nobody_iff :
    m.audience = .nobody ↔ m.kind.isBroadcast = false ∧ m.receiver = none := by
  rw [audience]
  cases m.kind.isBroadcast <;> cases m.receiver <;>
    simp only [if_true, if_false, Bool.false_eq_true, reduceCtorEq, and_self, false_and, and_false]

end Audience

/-! ## Mailboxes -/

/-- The mailbox with one more item at its end. -/
def Mailbox.followedBy {α : Type} (box : Mailbox α) (item : α) : Mailbox α :=
  { box with items := box.items ++ [item] }

/-- The mailbox after something was offered to it. -/
def Mailbox.afterOffer {α : Type} (box : Mailbox α) (item : α) : Mailbox α :=
  if box.receiving && box.hasRoom then box.followedBy item else box

/-! ## One session -/

namespace Cluster

/-- The client of the session is there, and its queue has room. -/
def accepts (c : Cluster) (session : SessionHandle) : Bool :=
  ((c.queues.find? session.queue).map fun box => box.receiving && box.hasRoom).getD false

/-- The user has an open session at the instance, and its queue has room. -/
structure Attends (c : Cluster) (host : Nat) (user : UserId) (session : SessionHandle)
    (box : Mailbox Outbound) : Prop where
  /-- The session is the one in the directory. -/
  listed : (c.directory host).find? user = some session
  /-- The queue that it feeds. -/
  queue : c.queues.find? session.queue = some box
  /-- The client is there. -/
  receiving : box.receiving = true
  /-- Something fits in. -/
  room : box.items.length < box.capacity

variable {c : Cluster} {host : Nat} {user : UserId} {session : SessionHandle}
  {box : Mailbox Outbound}

theorem accepts_eq_true_iff (c : Cluster) (session : SessionHandle) :
    c.accepts session = true ↔ ∃ box, c.queues.find? session.queue = some box ∧
      box.receiving = true ∧ box.items.length < box.capacity := by
  rw [accepts]
  cases c.queues.find? session.queue with
  | none => simp only [Option.map_none, Option.getD_none, Bool.false_eq_true, reduceCtorEq,
      false_and, exists_false]
  | some box =>
    simp only [Option.map_some, Option.getD_some, Bool.and_eq_true, Mailbox.hasRoom,
      decide_eq_true_eq, Option.some.injEq, exists_eq_left']

theorem isOpen_of_accepts (h : c.accepts session = true) : c.isOpen session = true := by
  rcases (c.accepts_eq_true_iff session).1 h with ⟨box, hbox, hreceiving, _⟩
  rw [isOpen, hbox, Option.map_some, Option.getD_some, hreceiving]

theorem Attends.accepts (h : c.Attends host user session box) : c.accepts session = true :=
  (c.accepts_eq_true_iff session).2 ⟨box, h.queue, h.receiving, h.room⟩

theorem Attends.isOpen (h : c.Attends host user session box) : c.isOpen session = true :=
  isOpen_of_accepts h.accepts

/-- A session takes what it is offered just if it accepts items, and an offer that is refused
    changes nothing. -/
theorem accepts_cases (c : Cluster) (session : SessionHandle) (item : Outbound) :
    (c.accepts session = true ∧ ∃ box, c.queues.find? session.queue = some box ∧
        c.offer session item =
          (.ok (), { c with queues := c.queues.insert session.queue (box.followedBy item) })) ∨
      (c.accepts session = false ∧ ∃ e, c.offer session item = (.error e, c)) := by
  rw [offer, ← Bool.not_eq_true, accepts_eq_true_iff]
  cases hbox : c.queues.find? session.queue with
  | none =>
    refine Or.inr ⟨?_, _, rfl⟩
    rintro ⟨_, hnone, -⟩
    cases hnone
  | some box =>
    cases hoffer : box.offer item with
    | ok box' =>
      rcases (box.offer_eq_ok_iff box' item).1 hoffer with ⟨hreceiving, hroom, rfl⟩
      refine Or.inl ⟨⟨box, rfl, hreceiving, hroom⟩, box, rfl, ?_⟩
      simp only [hoffer]
      rfl
    | error e =>
      refine Or.inr ⟨?_, e, by simp only [hoffer]⟩
      rintro ⟨_, hsame, hreceiving, hroom⟩
      cases hsame
      cases hoffer.symm.trans ((box.offer_eq_ok_iff _ item).2 ⟨hreceiving, hroom, rfl⟩)

/-- The session that a user is listed with takes what it is offered if the user attends. -/
theorem offer_of_listed (h : (c.directory host).find? user = some session)
    (item : Outbound) :
    (∃ box, c.Attends host user session box ∧ c.offer session item =
        (.ok (), { c with queues := c.queues.insert session.queue (box.followedBy item) })) ∨
      ((∀ other box, ¬c.Attends host user other box) ∧
        ∃ e, c.offer session item = (.error e, c)) := by
  rcases c.accepts_cases session item with ⟨haccepts, box, hbox, htaken⟩ | ⟨haccepts, e, hrefused⟩
  · rcases (c.accepts_eq_true_iff session).1 haccepts with ⟨box', hbox', hreceiving, hroom⟩
    cases hbox.symm.trans hbox'
    exact Or.inl ⟨box, ⟨h, hbox, hreceiving, hroom⟩, htaken⟩
  · refine Or.inr ⟨fun other box hattends => ?_, e, hrefused⟩
    cases h.symm.trans hattends.listed
    cases haccepts.symm.trans hattends.accepts

/-- Whoever asks for the client before making an offer goes on as if the offer had been made at
    once. -/
theorem runAlone_offerIfOpen {β : Type} (host : Nat) (c : Cluster) (session : SessionHandle)
    (item : Outbound) {next : Except OfferError Unit → Operation β} {refused : Operation β}
    (hrefused : ∀ e, next (.error e) = refused) :
    runAlone host (do
        if ← Operation.perform (.isOpen session) then
          Operation.perform (.offer session item) >>= next
        else refused) c =
      runAlone host (if c.accepts session then next (.ok ()) else refused)
        (c.offer session item).2 := by
  rw [runAlone_bind, runAlone_perform]
  rcases c.accepts_cases session item with ⟨haccepts, box, _, htaken⟩ | ⟨haccepts, e, hoffer⟩
  · simp only [perform, isOpen_of_accepts haccepts, haccepts, if_true]
    rw [runAlone_bind, runAlone_perform]
    simp only [perform, htaken]
  · cases hopen : c.isOpen session with
    | false => simp only [perform, hopen, haccepts, hoffer, Bool.false_eq_true, if_false]
    | true =>
      -- The client is there, and the queue is full.
      simp only [perform, hopen, haccepts, if_true, Bool.false_eq_true, if_false]
      rw [runAlone_bind, runAlone_perform]
      simp only [perform, hoffer, hrefused]

/-- A message for a user who is listed is offered to the user's session. -/
theorem runAlone_deliverTo_of_listed (h : (c.directory host).find? user = some session)
    (m : Message) :
    runAlone host (Router.deliverTo user m) c =
      (c.accepts session, (c.offer session (.message m)).2) := by
  rw [Router.deliverTo, runAlone_bind, runAlone_perform]
  simp only [perform, h]
  refine (runAlone_offerIfOpen host c session (.message m) fun _ => rfl).trans ?_
  cases c.accepts session <;> rfl

/-- Whoever attends is handed the message. -/
theorem runAlone_deliverTo (h : c.Attends host user session box) (m : Message) :
    (runAlone host (Router.deliverTo user m) c).1 = true ∧
      (runAlone host (Router.deliverTo user m) c).2 =
        { c with queues := c.queues.insert session.queue (box.followedBy (.message m)) } := by
  rw [runAlone_deliverTo_of_listed h.listed]
  rcases c.accepts_cases session (.message m) with
    ⟨haccepts, box', hbox, htaken⟩ | ⟨haccepts, _⟩
  · cases hbox.symm.trans h.queue
    rw [htaken]
    exact ⟨haccepts, rfl⟩
  · cases haccepts.symm.trans h.accepts

/-! ## Many sessions -/

/-- No two users have sessions at the instance that feed the same queue. -/
def QueuesApart (c : Cluster) (host : Nat) : Prop :=
  ∀ user other session session', (c.directory host).find? user = some session →
    (c.directory host).find? other = some session' → session.queue = session'.queue → user = other

theorem map_afterOffer_of_accepts (h : c.accepts session = true) (item : Outbound) :
    (c.queues.find? session.queue).map (Mailbox.afterOffer · item) =
      (c.queues.find? session.queue).map (Mailbox.followedBy · item) := by
  rw [accepts] at h
  cases hbox : c.queues.find? session.queue with
  | none => rfl
  | some box =>
    rw [hbox, Option.map_some, Option.getD_some] at h
    rw [Option.map_some, Option.map_some, Mailbox.afterOffer, if_pos h]

theorem map_afterOffer_of_not_accepts (h : c.accepts session = false) (item : Outbound) :
    (c.queues.find? session.queue).map (Mailbox.afterOffer · item) =
      c.queues.find? session.queue := by
  rw [accepts] at h
  cases hbox : c.queues.find? session.queue with
  | none => rfl
  | some box =>
    rw [hbox, Option.map_some, Option.getD_some] at h
    rw [Option.map_some, Mailbox.afterOffer, h, if_neg Bool.false_ne_true]

theorem find?_queues_offer (session : SessionHandle) (item : Outbound) (queue : Nat) :
    (c.offer session item).2.queues.find? queue =
      if queue = session.queue then (c.queues.find? queue).map (Mailbox.afterOffer · item)
      else c.queues.find? queue := by
  rcases c.accepts_cases session item with ⟨haccepts, box, hbox, htaken⟩ | ⟨haccepts, e, hrefused⟩
  · rw [htaken, Table.find?_insert]
    split
    · next heq => rw [heq, map_afterOffer_of_accepts haccepts, hbox, Option.map_some]
    · rfl
  · rw [hrefused]
    split
    · next heq => rw [heq, map_afterOffer_of_not_accepts haccepts]
    · rfl

/-- The first of some sessions is offered the message, and counts if it takes it. -/
theorem runAlone_deliverEach_cons (c : Cluster) (host : Nat) (m : Message) (session : SessionHandle)
    (rest : List SessionHandle) (delivered : Nat) :
    runAlone host (Router.deliverEach m (session :: rest) delivered) c =
      runAlone host
        (Router.deliverEach m rest (if c.accepts session then delivered + 1 else delivered))
        (c.offer session (.message m)).2 := by
  rw [Router.deliverEach]
  refine (runAlone_offerIfOpen host c session (.message m) fun _ => rfl).trans ?_
  cases c.accepts session <;> rfl

/-- Sessions that feed queues of their own are offered the message once each, and no other queue
    changes. -/
theorem find?_queues_deliverEach (m : Message) (sessions : List SessionHandle) (delivered : Nat)
    (h : sessions.Pairwise fun a b => a.queue ≠ b.queue) (queue : Nat) :
    (runAlone host (Router.deliverEach m sessions delivered) c).2.queues.find? queue =
      if queue ∈ sessions.map SessionHandle.queue then
        (c.queues.find? queue).map (Mailbox.afterOffer · (.message m))
      else c.queues.find? queue := by
  induction sessions generalizing c delivered with
  | nil => rfl
  | cons session rest ih =>
    rw [List.pairwise_cons] at h
    rw [runAlone_deliverEach_cons, ih _ h.2, find?_queues_offer, List.map_cons]
    by_cases heq : queue = session.queue
    · -- The queue of the first session is none of those of the rest.
      have hrest : queue ∉ rest.map SessionHandle.queue := by
        intro hmem
        rcases List.mem_map.1 hmem with ⟨other, hother, hqueue⟩
        exact h.1 other hother (heq ▸ hqueue.symm)
      rw [if_neg hrest, if_pos heq, if_pos (heq ▸ List.mem_cons_self)]
    · simp only [List.mem_cons, heq, false_or, if_false]

theorem pairwise_values_of_queuesApart (h : c.QueuesApart host) :
    (c.directory host).values.Pairwise fun a b => a.queue ≠ b.queue := by
  rw [Table.values, List.pairwise_map]
  have hkeys : ((c.directory host).entries.map Prod.fst).Nodup := (c.directory host).nodup_keys
  rw [List.nodup_iff_pairwise_ne, List.pairwise_map] at hkeys
  refine hkeys.imp_of_mem ?_
  rintro ⟨user, session⟩ ⟨other, session'⟩ hmem hmem' hne heq
  exact hne (h user other session session' ((Table.mem_iff_find? _ _ _).1 hmem)
    ((Table.mem_iff_find? _ _ _).1 hmem') heq)

/-! ## Messages -/

variable {m : Message}

/-- A message for one user that has arrived is offered to the session of that user. -/
theorem runAlone_deliver_of_audience (haudience : m.audience = .one user)
    (h : c.Attends host user session box) :
    (runAlone host (Router.deliver m) c).1 = 1 ∧
      (runAlone host (Router.deliver m) c).2.queues =
        c.queues.insert session.queue (box.followedBy (.message m)) := by
  rcases runAlone_deliverTo h m with ⟨htaken, hafter⟩
  rcases (m.audience_eq_one_iff user).1 haudience with ⟨hkind, hreceiver⟩
  rw [Router.deliver]
  simp only [hkind, hreceiver, Bool.false_eq_true, if_false]
  rw [runAlone_bind, htaken, hafter]
  exact ⟨rfl, rfl⟩

/-- A notice that has arrived is offered to everybody who attends. -/
theorem find?_queues_deliver_of_notice (hkind : m.kind.isBroadcast = true)
    (hapart : c.QueuesApart host) (h : c.Attends host user session box) :
    (runAlone host (Router.deliver m) c).2.queues.find? session.queue =
      some (box.followedBy (.message m)) := by
  have hlisted : session.queue ∈ (c.directory host).values.map SessionHandle.queue :=
    List.mem_map_of_mem (Table.mem_values_of_find? h.listed)
  rw [Router.deliver, if_pos hkind, runAlone_bind, runAlone_perform]
  simp only [perform]
  rw [find?_queues_deliverEach m _ 0 (pairwise_values_of_queuesApart hapart), if_pos hlisted,
    map_afterOffer_of_accepts h.accepts, h.queue, Option.map_some]

end Cluster

end ChatCluster
