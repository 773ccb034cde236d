import ChatCluster.Proofs.Network.Wiring

/-!
# The Way from Session to Session

The way from one session to another is seen as a whole (`Network.path`): what has arrived, then what
the consumer of the receiver's instance has in its hands, then what waits for that consumer. The
items along the way ascend, and all of them come before the item that is being handled, as long as
the receiver may still be served in handling it (`Network.Below`).

The receiver need not be there yet. A way leads to a place, to a user and to an instance, and it is
in order also for a place where nobody sits so far, so that there is nothing to show when a client
comes back.

Here are the moves that put nothing on its way. They take something off a way or move it on.

## Main definitions

* `Network.delivered`, `Network.inHand`, `Network.pending`, `Network.path`: The way.
* `Network.Below`, `Network.InOrder`, `Network.Ordered`: It is in order.

## Theorems

* `Network.Ordered.outside`, `Network.Ordered.newcomer`, `Network.Ordered.turned`,
  `Network.Ordered.took`: The moves that put nothing on its way.
-/

namespace ChatCluster

/-- The position of an item, if it is from the inbox of the session. -/
def Origin.positionIn? (o : Origin) (session : Nat) : Option Nat :=
  if o.session = session then some o.position else none

/-- Which item of the session's inbox a message stems from. -/
def Offered.position? (session : Nat) (o : Offered) : Option Nat :=
  match o.item with
  | .message _ => o.origin.bind fun origin => origin.positionIn? session
  | .rejection _ => none

/-- Which item of the session's inbox a frame stems from, if it is for the user. -/
def framePosition? (session : Nat) (user : UserId) (frame : Bytes) (origin : Option Origin) :
    Option Nat :=
  if frameAudience frame = .one user then origin.bind fun o => o.positionIn? session else none

/-- Which item of the session's inbox a frame that was taken by a listener stems from, if it is for
    the user. -/
def Posted.position? (session : Nat) (user : UserId) (p : Posted) : Option Nat :=
  framePosition? session user p.frame p.origin

namespace Network

/-- The items of a session's inbox that what is in an outbound queue stems from. -/
def delivered (n : Network) (sender receiver : Nat) : List Nat :=
  (n.received receiver).filterMap (Offered.position? sender)

/-- What waits for a consumer. -/
def waiting (n : Network) (place : Nat) : List Posted :=
  match n.watch? place with
  | none => []
  | some w => (n.postedTo w.subscription).drop w.taken

/-- What a consumer has in its hands stems from this. -/
def carried? (n : Network) (place : Nat) : Option Origin :=
  (n.workers[place]?).bind fun worker => if worker.watch?.isSome then worker.origin else none

open Classical in
/-- The item that a consumer has in its hands, if it may still serve the user. -/
noncomputable def inHand (n : Network) (ledgers : Nat → Ledger) (sender place : Nat)
    (user : UserId) : List Nat :=
  if (ledgers place).due user then
    ((n.carried? place).bind fun origin => origin.positionIn? sender).toList
  else []

/-- The items for a user that wait for a consumer. -/
def pending (n : Network) (sender place : Nat) (user : UserId) : List Nat :=
  (n.waiting place).filterMap (Posted.position? sender user)

/-- The items of one session on their way to another, which is one of the user on the instance. -/
noncomputable def path (n : Network) (ledgers : Nat → Ledger) (sender receiver host : Nat)
    (user : UserId) : List Nat :=
  n.delivered sender receiver ++ (n.inHand ledgers sender host user ++ n.pending sender host user)

/-- The item has been taken from the session's inbox, and it comes before the one that is being
    handled if the user may still be served in handling that. -/
def Below (n : Network) (ledgers : Nat → Ledger) (sender : Nat) (user : UserId) (position : Nat) :
    Prop :=
  ∃ worker a, n.workers[sender]? = some worker ∧ worker.duty = .session a ∧
    position < a.taken.length ∧
    ∀ o, worker.origin = some o → (ledgers sender).due user → position < o.position

/-- Items ascend. -/
structure InOrder (n : Network) (ledgers : Nat → Ledger) (sender : Nat) (user : UserId)
    (positions : List Nat) : Prop where
  ascending : positions.Pairwise (· < ·)
  below : ∀ x ∈ positions, n.Below ledgers sender user x

/-- If there is a session at the place, it is one of the user on the instance. -/
def Fits (n : Network) (receiver host : Nat) (user : UserId) : Prop :=
  ∀ seat, n.seat? receiver = some seat → seat.1 = host ∧ seat.2.user = user

/-- All ways are in order. -/
def Ordered (n : Network) (ledgers : Nat → Ledger) : Prop :=
  ∀ sender receiver host user, n.Fits receiver host user →
    n.InOrder ledgers sender user (n.path ledgers sender receiver host user)

variable {n n' : Network} {ledgers ledgers' : Nat → Ledger} {place : Nat} {worker : Worker}
  {e : Effect} {next : e.Reply → Operation Unit} {sender receiver host : Nat} {user : UserId}

theorem InOrder.sublist {positions positions' : List Nat}
    (h : n.InOrder ledgers sender user positions) (hsub : positions'.Sublist positions)
    (hbelow : ∀ x, n.Below ledgers sender user x → n'.Below ledgers' sender user x) :
    n'.InOrder ledgers' sender user positions' :=
  ⟨h.ascending.sublist hsub, fun x hx => hbelow x (h.below x (hsub.subset hx))⟩

theorem InOrder.concat {positions : List Nat} {position : Nat}
    (h : n.InOrder ledgers sender user positions)
    (hbelow : ∀ x, n.Below ledgers sender user x → n'.Below ledgers' sender user x)
    (hlt : ∀ x ∈ positions, x < position) (hposition : n'.Below ledgers' sender user position) :
    n'.InOrder ledgers' sender user (positions ++ [position]) := by
  -- All that are on the way come before the new one.
  refine ⟨List.pairwise_append.2 ⟨h.ascending, List.pairwise_singleton _ _, fun x hx y hy => ?_⟩,
    fun x hx => ?_⟩
  · rw [List.mem_singleton.1 hy]
    exact hlt x hx
  · rcases List.mem_append.1 hx with hold | hnew
    · exact hbelow x (h.below x hold)
    · rw [List.mem_singleton.1 hnew]
      exact hposition

theorem Fits.earlier (h : n'.Fits receiver host user) (hlater : n.Later n') :
    n.Fits receiver host user :=
  fun seat hseat => h seat (hlater.seats receiver seat hseat)

/-- What a consumer has in its hands has left it, or may serve fewer, or is what it was. -/
theorem inHand_sublist (h : ∀ origin, n'.carried? place = some origin →
      (ledgers' place).due user → n.carried? place = some origin ∧ (ledgers place).due user) :
    (n'.inHand ledgers' sender place user).Sublist (n.inHand ledgers sender place user) := by
  unfold inHand
  by_cases hdue : (ledgers' place).due user
  · rw [if_pos hdue]
    cases hcarried : n'.carried? place with
    | none => exact List.nil_sublist _
    | some origin =>
      rcases h origin hcarried hdue with ⟨hold, hdue'⟩
      rw [if_pos hdue', hold]
  · rw [if_neg hdue]
    exact List.nil_sublist _

-- What has arrived is compared by equality, since nothing that arrived is ever lost.
theorem path_sublist (hdelivered : n'.delivered sender receiver = n.delivered sender receiver)
    (hinHand : (n'.inHand ledgers' sender host user).Sublist (n.inHand ledgers sender host user))
    (hpending : (n'.pending sender host user).Sublist (n.pending sender host user)) :
    (n'.path ledgers' sender receiver host user).Sublist
      (n.path ledgers sender receiver host user) := by
  rw [path, path, hdelivered]
  exact (hinHand.append hpending).append_left _

theorem carried?_eq (h : n'.workers[place]? = n.workers[place]?) :
    n'.carried? place = n.carried? place := by
  rw [carried?, carried?, h]

theorem watch?_eq (h : n'.workers[place]? = n.workers[place]?) :
    n'.watch? place = n.watch? place := by
  rw [watch?, watch?, h]

theorem waiting_eq (h : n'.watch? place = n.watch? place) (hposted : n'.posted = n.posted) :
    n'.waiting place = n.waiting place := by
  simp only [waiting, h, postedTo, hposted]

/-- What is posted waits behind what has waited before. -/
theorem Sound.waiting_append (hsound : n.Sound ledgers) {w : Watch} {frames : List Posted}
    (hw : n.watch? place = some w) (hw' : n'.watch? place = some w)
    (hposted : n'.posted = n.posted ++ frames) :
    n'.waiting place =
      n.waiting place ++ frames.filter fun p => p.subscription = w.subscription := by
  simp only [waiting, hw, hw', postedTo, hposted, List.filter_append]
  exact List.drop_append_of_le_length (hsound.awaits hw).taken_le

theorem delivered_eq (hoffered : n'.offered = n.offered) :
    n'.delivered sender receiver = n.delivered sender receiver := by
  rw [delivered, delivered, received, received, hoffered]

/-- What stems from nothing is no item of a session. -/
theorem Posted.filterMap_position? {frames : List Posted} (h : ∀ p ∈ frames, p.origin = none)
    (sender : Nat) (user : UserId) : frames.filterMap (Posted.position? sender user) = [] := by
  rw [List.filterMap_eq_nil_iff]
  intro p hp
  rw [Posted.position?, framePosition?, h p hp]
  split
  · rfl
  · rfl

theorem Below.of_worker {x : Nat} (h : n.Below ledgers sender user x)
    (hworker : n'.workers[sender]? = n.workers[sender]?)
    (hdue : (ledgers' sender).due user → (ledgers sender).due user) :
    n'.Below ledgers' sender user x := by
  rcases h with ⟨worker, a, hget, hduty, hlt, hlast⟩
  exact ⟨worker, a, hworker.trans hget, hduty, hlt, fun o ho hd => hlast o ho (hdue hd)⟩

theorem Below.lt_inbox {x : Nat} (h : n.Below ledgers sender user x) :
    x < (n.inboxOf sender).length := by
  rcases h with ⟨worker, a, hworker, hduty, hlt, _⟩
  simp only [inboxOf, hworker, Option.map_some, Option.getD_some, Worker.inbox, hduty,
    List.length_append]
  omega

/-! ## Moves that put nothing on its way -/

-- The worker at every place is the one it was, and what is posted counts for no session, so each
-- way is what it was.
theorem Ordered.outside (h : n.Ordered ledgers) (hsound : n.Sound ledgers) (hlater : n.Later n')
    {frames : List Posted} (hworkers : n'.workers = n.workers) (hoffered : n'.offered = n.offered)
    (hposted : n'.posted = n.posted ++ frames) (horigins : ∀ p ∈ frames, p.origin = none) :
    n'.Ordered ledgers := by
  intro sender receiver host user hfits
  have hget : ∀ other : Nat, n'.workers[other]? = n.workers[other]? := fun other => by rw [hworkers]
  have hpending : n'.pending sender host user = n.pending sender host user := by
    cases hw : n.watch? host with
    | none => rw [pending, pending, waiting, waiting, watch?_eq (hget host), hw]
    | some w =>
      -- What comes from outside stems from no item, so none is on its way in it.
      have hnothing : ((frames.filter fun p => p.subscription = w.subscription).filterMap
          (Posted.position? sender user)) = [] :=
        Posted.filterMap_position? (fun p hp => horigins p (List.mem_filter.1 hp).1) sender user
      rw [pending, pending, hsound.waiting_append hw ((watch?_eq (hget host)).trans hw) hposted,
        List.filterMap_append, hnothing, List.append_nil]
  refine (h sender receiver host user (hfits.earlier hlater)).sublist
    (path_sublist (delivered_eq hoffered) (inHand_sublist fun origin hcarried hdue => ?_) ?_)
    fun x hx => hx.of_worker (hget sender) id
  · exact ⟨(carried?_eq (hget host)).symm.trans hcarried, hdue⟩
  · rw [hpending]

-- Three places have to be told apart: those that were there, the new one, and those beyond it. A
-- way that leads to the last two is empty behind what has arrived.
theorem Ordered.newcomer (h : n.Ordered ledgers) (hsound : n.Sound ledgers) (hlater : n.Later n')
    {l : Ledger} (hworkers : n'.workers = n.workers ++ [worker]) (hoffered : n'.offered = n.offered)
    (hposted : n'.posted = n.posted) (harrives : n.Arrives n' worker) :
    n'.Ordered (Function.update ledgers n.workers.length l) := by
  intro sender receiver host user hfits
  have hold : ∀ other : Nat, other < n.workers.length → n'.workers[other]? = n.workers[other]? := by
    intro other hlt
    rw [hworkers, List.getElem?_append_left hlt]
  have hnew : n'.workers[n.workers.length]? = some worker := by
    rw [hworkers, List.getElem?_concat_length]
  have hbeyond : ∀ other : Nat, n.workers.length < other → n'.workers[other]? = none := by
    intro other hlt
    rw [hworkers, List.getElem?_eq_none]
    rw [List.length_append, List.length_singleton]
    omega
  refine (h sender receiver host user (hfits.earlier hlater)).sublist
    (path_sublist (delivered_eq hoffered) (inHand_sublist fun origin hcarried hdue => ?_) ?_)
    fun x hx => ?_
  · rcases Nat.lt_trichotomy host n.workers.length with hlt | rfl | hlt
    · rw [Function.update_of_ne (Nat.ne_of_lt hlt)] at hdue
      exact ⟨(carried?_eq (hold host hlt)).symm.trans hcarried, hdue⟩
    · rw [carried?, hnew, Option.bind_some, harrives.origin, ite_self] at hcarried
      simp only [reduceCtorEq] at hcarried
    · rw [carried?, hbeyond host hlt, Option.bind_none] at hcarried
      simp only [reduceCtorEq] at hcarried
  -- Nothing waits for the new worker, or for one that is not there.
  · rcases Nat.lt_trichotomy host n.workers.length with hlt | rfl | hlt
    · rw [pending, pending, waiting_eq (watch?_eq (hold host hlt)) hposted]
    · have hnothing : n'.waiting n.workers.length = [] := by
        rw [waiting, watch?, hnew, Option.bind_some, Worker.watch?]
        cases hduty : worker.duty with
        | session a => rfl
        | errand => rfl
        | consumer w =>
          have hfresh := (harrives.watch w hduty).1
          have hnone : n'.postedTo w.subscription = [] := by
            rw [postedTo, hposted, List.filter_eq_nil_iff]
            intro p hp heq
            have hlt := (hsound.tidy.posted p hp).1
            rw [of_decide_eq_true heq] at hlt
            omega
          simp only [hnone, List.drop_nil]
      rw [pending, hnothing]
      exact List.nil_sublist _
    · have hnothing : n'.waiting host = [] := by
        rw [waiting, watch?, hbeyond host hlt, Option.bind_none]
      rw [pending, hnothing]
      exact List.nil_sublist _
  · have hlt : sender < n.workers.length := by
      rcases hx with ⟨w, _, hget, _⟩
      exact (List.getElem?_eq_some_iff.1 hget).1
    refine hx.of_worker (hold sender hlt) fun hdue => ?_
    rw [Function.update_of_ne (Nat.ne_of_lt hlt)] at hdue
    exact hdue

-- A worker that is no consumer has nothing in hand and nothing waits for it. So the ways are what
-- they were, and only what lies below a sender has to be looked at again.
theorem Ordered.turned (h : n.Ordered ledgers) (hlater : n.Later n') {worker' : Worker} {l : Ledger}
    (hworker : n.workers[place]? = some worker)
    (hworkers : n'.workers = n.workers.set place worker') (hoffered : n'.offered = n.offered)
    (hposted : n'.posted = n.posted) (hturns : Turns worker (ledgers place) worker' l) :
    n'.Ordered (Function.update ledgers place l) := by
  intro sender receiver host user hfits
  have hset := getElem?_workers hworker hworkers
  refine (h sender receiver host user (hfits.earlier hlater)).sublist
    (path_sublist (delivered_eq hoffered) (inHand_sublist fun origin hcarried hdue => ?_) ?_)
    fun x hx => ?_
  · by_cases hhost : host = place
    · rw [carried?, hset, if_pos hhost, Option.bind_some, hturns.watch] at hcarried
      simp only [Option.isSome_none, Bool.false_eq_true, if_false, reduceCtorEq] at hcarried
    · rw [Function.update_of_ne hhost] at hdue
      exact ⟨(carried?_eq ((hset host).trans (if_neg hhost))).symm.trans hcarried, hdue⟩
  · by_cases hhost : host = place
    · have hnothing : n'.waiting host = [] := by
        rw [waiting, watch?, hset, if_pos hhost, Option.bind_some, hturns.watch]
      rw [pending, hnothing]
      exact List.nil_sublist _
    · rw [pending, pending, waiting_eq (watch?_eq ((hset host).trans (if_neg hhost))) hposted]
  · by_cases hsender : sender = place
    · -- A new item comes after all that were taken before it.
      subst hsender
      rcases hx with ⟨old, a, hget, hduty, hlt, hlast⟩
      rw [hworker, Option.some.injEq] at hget
      subst hget
      rcases hturns.duty a hduty with ⟨a', hduty', htaken, horigin⟩
      refine ⟨worker', a', (hset sender).trans (if_pos rfl), hduty', Nat.lt_of_lt_of_le hlt htaken,
        fun o ho hdue => ?_⟩
      rw [Function.update_self] at hdue
      rcases horigin o ho with hnew | ⟨hsame, hledger⟩
      · exact Nat.lt_of_lt_of_le hlt hnew
      · exact hlast o hsame (hledger ▸ hdue)
    · refine hx.of_worker ((hset sender).trans (if_neg hsender)) fun hdue => ?_
      rw [Function.update_of_ne hsender] at hdue
      exact hdue

-- At the place itself the way gets shorter by what the consumer had in hand, and the first that
-- waits takes its place. Everywhere else nothing has changed.
theorem Ordered.took (h : n.Ordered ledgers) (hlater : n.Later n') {worker' : Worker} {w : Watch}
    {p : Posted} {l : Ledger} (hworker : n.workers[place]? = some worker)
    (hduty : worker.duty = .consumer w)
    (hwaiting : p ∈ ((n.postedTo w.subscription).drop w.taken).head?)
    (hworkers : n'.workers = n.workers.set place worker')
    (hduty' : worker'.duty = .consumer { w with taken := w.taken + 1 })
    (horigin : worker'.origin = p.origin)
    (hdue : ∀ user, l.due user → frameAudience p.frame = .one user)
    (hoffered : n'.offered = n.offered) (hposted : n'.posted = n.posted) :
    n'.Ordered (Function.update ledgers place l) := by
  intro sender receiver host user hfits
  have hset := getElem?_workers hworker hworkers
  have hbelow : ∀ x, n.Below ledgers sender user x →
      n'.Below (Function.update ledgers place l) sender user x := by
    intro x hx
    -- The items are of a session, and here is a consumer.
    have hsender : sender ≠ place := by
      rintro rfl
      rcases hx with ⟨old, a, hget, ha, _⟩
      rw [hworker, Option.some.injEq] at hget
      rw [← hget, hduty] at ha
      exact Duty.noConfusion ha
    refine hx.of_worker ((hset sender).trans (if_neg hsender)) fun hd => ?_
    rw [Function.update_of_ne hsender] at hd
    exact hd
  refine (h sender receiver host user (hfits.earlier hlater)).sublist ?_ hbelow
  by_cases hhost : host = place
  · -- What the consumer had in its hands is gone, and it takes the first that waits.
    subst hhost
    rw [path, path, delivered_eq hoffered]
    refine List.Sublist.append_left (List.Sublist.trans ?_ (List.sublist_append_right _ _)) _
    rcases List.head?_eq_some_iff.1 (Option.mem_def.1 hwaiting) with ⟨rest, hdrop⟩
    have hbefore : n.waiting host = p :: rest := by
      rw [waiting, watch?, hworker, Option.bind_some, Worker.watch?, hduty]
      exact hdrop
    have hafter : n'.waiting host = rest := by
      rw [waiting, watch?, hset, if_pos rfl, Option.bind_some, Worker.watch?, hduty']
      simp only [postedTo, hposted]
      rw [← List.tail_drop, ← postedTo, hdrop, List.tail_cons]
    have hcarried : n'.carried? host = p.origin := by
      rw [carried?, hset, if_pos rfl, Option.bind_some, Worker.watch?, hduty']
      exact horigin
    rw [pending, pending, hbefore, hafter, List.filterMap_cons, inHand, hcarried,
      Function.update_self]
    by_cases hd : l.due user
    · -- The frame goes from the front of those that wait into the hands of the consumer.
      rw [if_pos hd, Posted.position?, framePosition?, if_pos (hdue user hd)]
      cases p.origin.bind fun o => o.positionIn? sender with
      | none => exact List.Sublist.refl _
      | some x => exact List.Sublist.refl _
    · rw [if_neg hd, List.nil_append]
      split
      · exact List.Sublist.refl _
      · exact List.sublist_cons_self _ _
  · have hget := (hset host).trans (if_neg hhost)
    refine path_sublist (delivered_eq hoffered) (inHand_sublist fun origin hcarried hd => ?_) ?_
    · rw [Function.update_of_ne hhost] at hd
      exact ⟨(carried?_eq hget).symm.trans hcarried, hd⟩
    · rw [pending, pending, waiting_eq (watch?_eq hget) hposted]

end Network

end ChatCluster
