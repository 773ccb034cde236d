import ChatCluster.Proofs.Instance.Outcomes
import ChatCluster.Proofs.Network.Direction

/-!
# Handing Out What Has Arrived

What an instance does with a frame that the bus has brought it. The frame is read, and the message
in it is offered to the sessions that it is for: a notice to all of them, a message for one user to
the session of that user. Whether the message is in the end appended to a queue depends on that
queue alone. Neither a client that has left nor one that is slow keeps the others from theirs.

The two ways of offering are one: a message for a user is offered to a list of one session. So it
takes one induction on the sessions, whose step is a single offer. That an offer has no bearing on
the sessions that come after it is where their queues have to be different ones. A session of a
network is known by the place of its queue, so they always are.

A frame that cannot be read leaves a warning and is counted, and that is all.

## Main definitions

* `Cluster.addressees`, `Cluster.takers`: Whom a message is for, and who of them takes it.
* `Cluster.HandsOut`: What handing out a message comes to.

## Theorems

* `Cluster.runAlone_deliver`: Whomever a message is for, it is offered to a list of sessions.
* `Cluster.fst_deliverEach`, `Cluster.rest_deliverEach`: Who takes it is counted, and nothing but
  queues changes.
* `Cluster.handsOut_deliver`: A message is handed out.
* `Network.queuesApart_run`: The sessions of an instance feed queues of their own.
* `Cluster.arrivals_handed_out`: What is done with messages and with frames.
-/

namespace ChatCluster

namespace Cluster

/-- The sessions that a message for somebody is offered to. -/
def addressees (c : Cluster) (host : Nat) : Audience → List SessionHandle
  | .nobody => []
  | .one user => ((c.directory host).find? user).toList
  | .everybody => (c.directory host).values

/-- The sessions that take a message: those that it is for, whose client is there and whose queue
    has room. -/
def takers (c : Cluster) (host : Nat) (m : Message) : List SessionHandle :=
  (c.addressees host m.audience).filter c.accepts

/-- The message has been handed out to whoever takes it, and so many have been counted. -/
structure HandsOut (c : Cluster) (host : Nat) (m : Message) (result : Nat × Cluster) : Prop where
  /-- Whoever takes it has it once, at the end of the queue. -/
  taken : ∀ session ∈ c.takers host m, ∃ box, c.queues.find? session.queue = some box ∧
    result.2.queues.find? session.queue = some (box.followedBy (.message m))
  /-- All other queues are as they were. -/
  others : ∀ queue, queue ∉ (c.takers host m).map SessionHandle.queue →
    result.2.queues.find? queue = c.queues.find? queue
  /-- Nothing but queues has changed. -/
  rest : result.2 = { c with queues := result.2.queues }
  /-- Whoever takes it has a queue of its own. -/
  apart : ((c.takers host m).map SessionHandle.queue).Nodup
  /-- They have been counted. -/
  counted : result.1 = (c.takers host m).length
  /-- Unless it is a notice, it has been appended once if at all, to the queue of its receiver's
      session, and the count says whether it has. -/
  directed : m.kind.isBroadcast = false → result.1 ≤ 1 ∧
    (result.1 = 1 ↔
      ∃ user, m.receiver = some user ∧ c.Appended host user (.message m) result.2.queues)

variable {c : Cluster} {host : Nat} {m : Message}

/-! ## One list of sessions -/

/-- Whomever a message is for, it is offered to a list of sessions. -/
theorem runAlone_deliver (c : Cluster) (host : Nat) (m : Message) :
    runAlone host (Router.deliver m) c =
      runAlone host (Router.deliverEach m (c.addressees host m.audience) 0) c := by
  rw [Router.deliver]
  cases haudience : m.audience with
  | everybody =>
    rw [if_pos (m.audience_eq_everybody_iff.1 haudience), runAlone_bind, runAlone_perform]
    rfl
  | nobody =>
    rcases m.audience_eq_nobody_iff.1 haudience with ⟨hkind, hreceiver⟩
    simp only [hkind, hreceiver, Bool.false_eq_true, if_false]
    rfl
  | one user =>
    rcases (m.audience_eq_one_iff user).1 haudience with ⟨hkind, hreceiver⟩
    simp only [hkind, hreceiver, Bool.false_eq_true, if_false, addressees]
    rw [runAlone_bind]
    -- The user is looked up first, and nobody is asked where there is no session.
    cases hlisted : (c.directory host).find? user with
    | none =>
      rw [Router.deliverTo, runAlone_bind, runAlone_perform]
      simp only [perform, hlisted]
      rfl
    | some session =>
      rw [runAlone_deliverTo_of_listed hlisted, Option.toList_some, runAlone_deliverEach_cons]
      cases c.accepts session <;> rfl

/-- An offer has no bearing on whether a session with another queue accepts items. -/
theorem accepts_offer_of_ne {session other : SessionHandle} (h : other.queue ≠ session.queue)
    (item : Outbound) : (c.offer session item).2.accepts other = c.accepts other := by
  rw [accepts, find?_queues_offer, if_neg h, accepts]

/-- Sessions with queues of their own are counted just if they accept items when it begins. -/
theorem fst_deliverEach (m : Message) (sessions : List SessionHandle) (delivered : Nat)
    (h : sessions.Pairwise fun a b => a.queue ≠ b.queue) :
    (runAlone host (Router.deliverEach m sessions delivered) c).1 =
      delivered + (sessions.filter c.accepts).length := by
  induction sessions generalizing c delivered with
  | nil => rfl
  | cons session rest ih =>
    rw [List.pairwise_cons] at h
    -- Whether the rest are counted has been settled before the first one is offered anything.
    have hrest : rest.filter (c.offer session (.message m)).2.accepts = rest.filter c.accepts :=
      List.filter_congr fun other hother => accepts_offer_of_ne (h.1 other hother).symm _
    rw [runAlone_deliverEach_cons, ih _ h.2, hrest, List.filter_cons]
    cases c.accepts session with
    | false => rfl
    | true =>
      simp only [if_true, List.length_cons]
      omega

/-- Offering a message to some sessions changes nothing but queues. -/
theorem rest_deliverEach (c : Cluster) (host : Nat) (m : Message) (sessions : List SessionHandle)
    (delivered : Nat) :
    (runAlone host (Router.deliverEach m sessions delivered) c).2 =
      { c with
        queues := (runAlone host (Router.deliverEach m sessions delivered) c).2.queues } := by
  induction sessions generalizing c delivered with
  | nil => rfl
  | cons session rest ih =>
    rw [runAlone_deliverEach_cons, ih]
    rcases c.accepts_cases session (.message m) with
      ⟨_, box, _, htaken⟩ | ⟨_, e, hrefused⟩
    · rw [htaken]
    · rw [hrefused]

/-! ## Messages -/

/-- Sessions feed queues of their own just if no queue is listed twice. -/
theorem queuesApart_iff (c : Cluster) (host : Nat) :
    c.QueuesApart host ↔ ((c.directory host).values.map SessionHandle.queue).Nodup := by
  refine ⟨fun h => ?_, fun h user other session session' hfind hfind' heq => ?_⟩
  · rw [List.nodup_iff_pairwise_ne, List.pairwise_map]
    exact pairwise_values_of_queuesApart h
  · rw [Table.values, List.map_map] at h
    have hsame := List.inj_on_of_nodup_map h ((Table.mem_iff_find? _ _ _).2 hfind)
      ((Table.mem_iff_find? _ _ _).2 hfind') heq
    exact congrArg Prod.fst hsame

/-- Whomever a message is for, their queues are different ones. -/
theorem pairwise_addressees (h : c.QueuesApart host) (audience : Audience) :
    (c.addressees host audience).Pairwise fun a b => a.queue ≠ b.queue := by
  cases audience with
  | nobody => exact List.Pairwise.nil
  | one user =>
    rw [addressees]
    cases (c.directory host).find? user with
    | none => exact List.Pairwise.nil
    | some session => exact List.pairwise_singleton _ _
  | everybody => exact pairwise_values_of_queuesApart h

/-- Either nothing comes of a message that is no notice, or it is appended to the queue of its
    receiver's session. -/
theorem runAlone_deliver_directed (c : Cluster) (host : Nat) (hkind : m.kind.isBroadcast = false) :
    runAlone host (Router.deliver m) c = (0, c) ∨
      ∃ user session box, m.receiver = some user ∧ (c.directory host).find? user = some session ∧
        c.queues.find? session.queue = some box ∧
        runAlone host (Router.deliver m) c =
          (1, { c with
            queues := c.queues.insert session.queue (box.followedBy (.message m)) }) := by
  rw [runAlone_deliver]
  cases hreceiver : m.receiver with
  | none =>
    rw [m.audience_eq_nobody_iff.2 ⟨hkind, hreceiver⟩]
    exact Or.inl rfl
  | some user =>
    rw [(m.audience_eq_one_iff user).2 ⟨hkind, hreceiver⟩, addressees]
    cases hlisted : (c.directory host).find? user with
    | none => exact Or.inl rfl
    | some session =>
      rw [Option.toList_some, runAlone_deliverEach_cons]
      rcases c.accepts_cases session (.message m) with
        ⟨haccepts, box, hbox, htaken⟩ | ⟨haccepts, e, hrefused⟩
      · rw [haccepts, htaken]
        exact Or.inr ⟨user, session, box, rfl, hlisted, hbox, rfl⟩
      · rw [haccepts, hrefused]
        exact Or.inl rfl

/-- Where sessions feed queues of their own, whatever has arrived is handed out. -/
theorem handsOut_deliver (h : c.QueuesApart host) (m : Message) :
    c.HandsOut host m (runAlone host (Router.deliver m) c) := by
  have hpairwise := pairwise_addressees h m.audience
  have hqueues : ∀ queue, (runAlone host (Router.deliver m) c).2.queues.find? queue =
      if queue ∈ (c.addressees host m.audience).map SessionHandle.queue then
        (c.queues.find? queue).map (Mailbox.afterOffer · (.message m))
      else c.queues.find? queue := by
    rw [runAlone_deliver]
    exact find?_queues_deliverEach m _ 0 hpairwise
  refine ⟨fun session hsession => ?_, fun queue hqueue => ?_, ?_, ?_, ?_, fun hkind => ?_⟩
  · rcases List.mem_filter.1 hsession with ⟨hmem, haccepts⟩
    rcases (c.accepts_eq_true_iff session).1 haccepts with ⟨box, hbox, _⟩
    refine ⟨box, hbox, ?_⟩
    rw [hqueues, if_pos (List.mem_map_of_mem hmem), map_afterOffer_of_accepts haccepts, hbox,
      Option.map_some]
  · rw [hqueues]
    split
    · next hmem =>
      -- The session that feeds the queue accepts nothing, or it would take the message.
      rcases List.mem_map.1 hmem with ⟨session, hsession, rfl⟩
      refine map_afterOffer_of_not_accepts (Bool.eq_false_iff.2 fun haccepts => hqueue ?_) _
      exact List.mem_map_of_mem (List.mem_filter.2 ⟨hsession, haccepts⟩)
    · rfl
  · rw [runAlone_deliver]
    exact rest_deliverEach c host m _ 0
  · rw [List.nodup_iff_pairwise_ne, List.pairwise_map]
    exact hpairwise.filter _
  · rw [runAlone_deliver, fst_deliverEach m _ 0 hpairwise, Nat.zero_add, takers]
  · -- Nothing has come of it, or one queue is one item longer, which tells the two apart.
    rcases runAlone_deliver_directed c host hkind with
      hnothing | ⟨user, session, box, hreceiver, hlisted, hbox, happended⟩
    · rw [hnothing]
      refine ⟨Nat.zero_le 1, iff_of_false Nat.zero_ne_one ?_⟩
      rintro ⟨_, _, hin⟩
      exact hin.ne rfl
    · rw [happended]
      exact ⟨Nat.le_refl 1, iff_of_true rfl ⟨user, hreceiver, session, box, hlisted, hbox, rfl⟩⟩

/-! ## Frames -/

/-- A frame that cannot be read leaves a warning and is counted. -/
theorem runAlone_receive_of_error {frame : Bytes} {e : Wire.FrameError}
    (h : BusFrame.decode (.spare c.serial) frame = .error e) :
    runAlone host (Router.receive frame) c =
      (0, { c with
        serial := c.serial + 1
        reports := (c.reports.warn .frameMalformed).count .malformedFrames 1 }) := by
  rw [Router.receive, runAlone_bind, runAlone_perform]
  simp only [perform, h]
  rfl

end Cluster

/-- Whatever has happened in a network, the sessions of an instance feed queues of their own. -/
theorem Network.queuesApart_run (opTimeout busCapacity : Nat) (wallClock : Int64)
    (moves : List Move) (host : Nat) :
    ((new opTimeout busCapacity wallClock).run moves).cluster.QueuesApart host := by
  rcases (sound_new opTimeout busCapacity wallClock fun _ => .blank false).run moves with
    ⟨ledgers, hsound⟩
  intro user other session session' hfind hfind' heq
  rcases hsound.tidy.directories host user session hfind with ⟨rfl, hholds⟩
  rcases hsound.tidy.directories host other session' hfind' with ⟨rfl, hholds'⟩
  -- A queue has the number of the place of its session.
  rw [Holds, heq, hholds', Option.some.injEq, Prod.mk.injEq] at hholds
  rw [hholds.2]

namespace Cluster

variable {c : Cluster} {host : Nat}

/-- Where sessions feed queues of their own, as they do in every network, a message that has arrived
    is handed out. A frame is handed out as the message in it, under a spare name if that has none.
    If it cannot be read, nobody is counted, and nothing changes but the next spare name and what
    has been reported. -/
theorem arrivals_handed_out (h : c.QueuesApart host) :
    (∀ m, c.HandsOut host m (runAlone host (Router.deliver m) c)) ∧
      ∀ frame,
        (∀ f, BusFrame.decode (.spare c.serial) frame = .ok f →
          ({ c with serial := c.serial + 1 } : Cluster).HandsOut host f.message
            (runAlone host (Router.receive frame) c)) ∧
        ∀ e, BusFrame.decode (.spare c.serial) frame = .error e →
          runAlone host (Router.receive frame) c =
            (0, { c with
              serial := c.serial + 1
              reports := (c.reports.warn .frameMalformed).count .malformedFrames 1 }) := by
  refine ⟨handsOut_deliver h, fun frame => ⟨fun f hdecode => ?_, fun e hdecode => ?_⟩⟩
  · rw [runAlone_receive hdecode]
    exact handsOut_deliver (c := { c with serial := c.serial + 1 }) h f.message
  · exact runAlone_receive_of_error hdecode

/-- An instance with four sessions. Two accept items, the queue of one is full, and the client of
    one has left. -/
def mixedCompany : Cluster :=
  let host : Host :=
    { Host.new (Profile.standard ⟨"a"⟩) 0 with
      directory := ["t", "u", "v", "w"].zipIdx.foldl
        (fun d (name, queue) => d.insert ⟨name⟩ ⟨queue, ⟨1⟩, ⟨name⟩⟩) .empty }
  let box : Mailbox Outbound := .new 1
  let hello : Outbound := .message (.plain ⟨.spare 0, 0⟩ .chat ⟨"x"⟩ "hello")
  { Cluster.new 5 8 0 with
    hosts := Table.empty.insert 0 host
    queues := [box, box.followedBy hello, box.closeReceiver, box].zipIdx.foldl
      (fun queues (box, queue) => queues.insert queue box) .empty }

/-- A notice goes to the two that accept items, and a message for the one whose queue is full goes
    to nobody. Two letters are no record. -/
theorem arrivals_handed_out_mixedCompany :
    let join := Message.join ⟨.spare 1, 0⟩ ⟨"x"⟩
    let forU := Message.direct ⟨.spare 1, 0⟩ ⟨"x"⟩ ⟨"u"⟩ "hello"
    (runAlone 0 (Router.deliver join) mixedCompany).1 = 2 ∧
      ((runAlone 0 (Router.deliver join) mixedCompany).2.queues.find? 3).map Mailbox.items =
        some [.message join] ∧
      (runAlone 0 (Router.deliver forU) mixedCompany).1 = 0 ∧
      (runAlone 0 (Router.receive [0, 0, 0, 2, 0x7a, 0x7a]) mixedCompany).1 = 0 := by
  intro join forU
  have hapart : mixedCompany.QueuesApart 0 := (queuesApart_iff _ _).2 (by decide)
  have hjoin : mixedCompany.takers 0 join = [⟨0, ⟨1⟩, ⟨"t"⟩⟩, ⟨3, ⟨1⟩, ⟨"w"⟩⟩] := by decide
  have hforU : mixedCompany.takers 0 forU = [] := by decide
  have hdecode : BusFrame.decode (.spare mixedCompany.serial) [0, 0, 0, 2, 0x7a, 0x7a] =
      .error .malformed := by
    decide +kernel
  rcases arrivals_handed_out hapart with ⟨hmessages, hframes⟩
  refine ⟨?_, ?_, ?_, ?_⟩
  · rw [(hmessages join).counted, hjoin]
    rfl
  · have hw : (⟨3, ⟨1⟩, ⟨"w"⟩⟩ : SessionHandle) ∈ mixedCompany.takers 0 join := by
      rw [hjoin]
      decide
    have hempty : mixedCompany.queues.find? 3 = some (.new 1) := rfl
    rcases (hmessages join).taken _ hw with ⟨box, hbox, hafter⟩
    simp only [hempty, Option.some.injEq] at hbox
    simp only [hafter, Option.map_some, ← hbox, Mailbox.followedBy, Mailbox.new, List.nil_append]
  · rw [(hmessages forU).counted, hforU]
    rfl
  · rw [(hframes _).2 _ hdecode]

end Cluster

end ChatCluster
