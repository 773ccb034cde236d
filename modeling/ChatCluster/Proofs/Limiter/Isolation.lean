import ChatCluster.Proofs.Instance.Confinement
import ChatCluster.Proofs.Limiter.Exact
import ChatCluster.Proofs.Registry.Ownership

/-!
# Isolation of Buckets

The limiter, the registry, liveness and rooms share one store and one flat space of keys, and users,
instances and rooms may have any names. Nevertheless a bucket is a matter between a user and the
limiter: whatever else is asked of the instances, the limiter answers for that user as if nothing
else had been asked, and whatever is asked of the limiter, everything else goes on as if there were
no limiter.

Both are read off from scopes. What is asked is confined to a scope that holds the bucket and
nothing else, or to one apart from it, so what is taken out of a run makes no difference to what
stays in (`answered_filter`). Time goes on and clocks are set in either run as they were.

## Main definitions

* `Request`, `Request.operation`: What may be asked of an instance.
* `Request.bucketOf?`: Whose bucket is asked for.
* `Occurrence`, `Cluster.answered`: A run, and the answers that are given in it.

## Theorems

* `Request.confined_only`, `Request.confined_allBut`: What requests are about.
* `Cluster.answered_filter_of_alike`, `Cluster.answered_filter`: What makes no difference in a
  scope, such as what is in a scope apart, may be left out.
* `Cluster.answered_bucket_isolated`: Buckets are isolated, in both directions.
-/

namespace ChatCluster

open Operation

/-- What may be asked of an instance. -/
inductive Request (Q : Type) where
  /-- A user tries to send a message. -/
  | check (s : LimitSettings Q) (user : UserId)
  /-- The bucket of a user. -/
  | status (s : LimitSettings Q) (user : UserId)
  /-- Forget the bucket of a user. -/
  | reset (user : UserId)
  /-- Take in a session. -/
  | register (self : Registrar) (session : SessionHandle)
  /-- Let a user go. -/
  | unregister (self : Registrar) (user : UserId)
  /-- Let a user go if the session has the given number. -/
  | unregisterIf (self : Registrar) (user : UserId) (id : SessionId)
  /-- Extend the entry of a user. -/
  | refresh (self : Registrar) (user : UserId)
  /-- Extend the entries of all users of the instance. -/
  | refreshAll (self : Registrar)
  /-- Who owns a user. -/
  | owner (user : UserId)
  /-- Whether a user is attached somewhere. -/
  | isOnline (user : UserId)
  /-- Show yourself. -/
  | heartbeat (self : Monitor)
  /-- Who has shown itself. -/
  | liveInstances
  /-- Clear away the entries of dead instances. -/
  | reap (self : Monitor)
  /-- Take your leave. -/
  | withdraw (self : Monitor)
  /-- Put a name into a room. -/
  | enterRoom (room : RoomId) (name : String)
  /-- Take a name out of a room. -/
  | leaveRoom (room : RoomId) (name : String)
  /-- The names in a room. -/
  | roomNames (room : RoomId)
  /-- The users in a room. -/
  | roomMembers (room : RoomId)

namespace Request

variable {Q : Type}

/-- What is answered. -/
abbrev Answer : Request Q → Type
  | check _ _ => Admission
  | status _ _ => Except StoreError (Bucket Q)
  | reset _ | refresh _ _ | isOnline _ => Except StoreError Bool
  | register _ _ => Registration
  | unregisterIf _ _ _ => Bool
  | unregister _ _ => Unit
  | refreshAll _ => Nat
  | owner _ => Except StoreError (Option InstanceId)
  | heartbeat _ | withdraw _ | enterRoom _ _ | leaveRoom _ _ => Except StoreError Unit
  | liveInstances => Except StoreError (List InstanceId)
  | reap _ => Except StoreError ReapReport
  | roomNames _ => Except StoreError (List String)
  | roomMembers _ => Except StoreError (List UserId)

/-- What is done to answer. -/
def operation [Amount Q] [BucketText Q] : (r : Request Q) → Operation r.Answer
  | check s user => RateLimiter.check s user
  | status s user => RateLimiter.status s user
  | reset user => RateLimiter.reset user
  | register self session => self.register session
  | unregister self user => self.unregister user
  | unregisterIf self user id => self.unregisterIf user id
  | refresh self user => self.refresh user
  | refreshAll self => self.refreshAll
  | owner user => Registrar.owner? user
  | isOnline user => Registrar.isOnline user
  | heartbeat self => self.heartbeat
  | liveInstances => Monitor.liveInstances
  | reap self => self.reap
  | withdraw self => self.withdraw
  | enterRoom room name => store (.addMember (Key.roomMembers room.text) name)
  | leaveRoom room name => store (.removeMember (Key.roomMembers room.text) name)
  | roomNames room => store (.members (Key.roomMembers room.text))
  | roomMembers room => Registrar.roomMembers room

/-- The user whose bucket is asked for, if it is the limiter that is asked. -/
def bucketOf? : Request Q → Option UserId
  | check _ user | status _ user | reset user => some user
  | _ => none

end Request

/-- What happens in a run. -/
inductive Occurrence (Q : Type) where
  /-- An instance is asked for something. -/
  | asks (host : Nat) (request : Request Q)
  /-- Time passes for the store. -/
  | wait (ms : Nat)
  /-- The clock of an instance shows another time. -/
  | setClock (host : Nat) (time : Int64)
  /-- The client at an outbound queue leaves. -/
  | hangUp (queue : Nat)

/-- Only what is asked for may be left out of a run. -/
def Occurrence.isKept {Q : Type} (kept : Request Q → Bool) : Occurrence Q → Bool
  | asks _ request => kept request
  | wait _ | setClock _ _ | hangUp _ => true

/-- What was asked, and the answer to it. -/
structure Exchange (Q : Type) where
  /-- What was asked. -/
  request : Request Q
  /-- The answer. -/
  answer : request.Answer

variable {Q : Type} [Amount Q] [BucketText Q]

/-- The answers that are given in a run. -/
def Cluster.answered (c : Cluster) : List (Occurrence Q) → List (Exchange Q)
  | [] => []
  | .asks host request :: run =>
    ⟨request, (c.runAlone host request.operation).1⟩ ::
      answered (c.runAlone host request.operation).2 run
  | .wait ms :: run => answered { c with now := c.now + ms } run
  | .setClock host time :: run => answered (c.updateHost host fun h => { h with clock := time }) run
  | .hangUp queue :: run => answered (c.updateQueue queue Mailbox.closeReceiver) run

/-! ## Scopes of requests -/

/-- Some keys, and nothing else. -/
def Scope.only (keys : String → Prop) : Scope :=
  { keys, sessions := False, traffic := False }

/-- Everything but some keys. -/
def Scope.allBut (keys : String → Prop) : Scope :=
  { keys := fun key => ¬keys key, sessions := True, traffic := True }

theorem Scope.only_apart_allBut (keys : String → Prop) :
    (Scope.only keys).Apart (Scope.allBut keys) :=
  ⟨fun _ hkey hnot => hnot hkey, fun h => h.1⟩

theorem Scope.allBut_apart_only (keys : String → Prop) :
    (Scope.allBut keys).Apart (Scope.only keys) :=
  ⟨fun _ hnot hkey => hnot hkey, fun h => h.2⟩

/-- What the limiter is asked is about one bucket. -/
theorem Request.confined_only {keys : String → Prop} {request : Request Q} {user : UserId}
    (h : request.bucketOf? = some user) (hkey : keys (Key.rateLimit user.text)) :
    Confined (.only keys) request.operation := by
  cases request with
  | check s _ =>
    cases h
    exact confined_check s hkey
  | status s _ =>
    cases h
    exact confined_status s hkey
  | reset _ =>
    cases h
    exact confined_reset hkey
  | register | unregister | unregisterIf | refresh | refreshAll | owner | isOnline | heartbeat
  | liveInstances | reap | withdraw | enterRoom | leaveRoom | roomNames | roomMembers => cases h

section AllBut

variable {keys : String → Prop} (hkeys : ∀ key, keys key → ∃ user, key = Key.rateLimit user)

include hkeys

theorem Scope.watches_allBut : (Scope.allBut keys).Watches where
  sessions := trivial
  entries rest hkey := by
    rcases hkeys _ hkey with ⟨user, heq⟩
    exact Key.registry_ne_rateLimit rest user heq
  signs rest hkey := by
    rcases hkeys _ hkey with ⟨user, heq⟩
    exact Key.liveness_ne_rateLimit rest user heq

theorem Scope.allBut_roomMembers (room : String) :
    (Scope.allBut keys).keys (Key.roomMembers room) := by
  intro hkey
  rcases hkeys _ hkey with ⟨user, heq⟩
  refine Text.append_ne_append (fun rest => ?_) room user heq
  simp [Text.afterStart?, Key.rateLimitStart, Text.charsAfter?]

/-- Whatever else is asked is about something else. -/
theorem Request.confined_allBut {request : Request Q}
    (h : ∀ user, request.bucketOf? = some user → ¬keys (Key.rateLimit user.text)) :
    Confined (.allBut keys) request.operation := by
  have hwatches := Scope.watches_allBut hkeys
  have hregisters := hwatches.toRegisters
  have hroom := Scope.allBut_roomMembers hkeys
  cases request with
  | check s user => exact confined_check s (h user rfl)
  | status s user => exact confined_status s (h user rfl)
  | reset user => exact confined_reset (h user rfl)
  | register self session => exact confined_register self hregisters trivial session
  | unregister self user => exact confined_unregister self hregisters trivial user
  | unregisterIf self user id => exact confined_unregisterIf self hregisters trivial user id
  | refresh self user => exact confined_refresh self hregisters user
  | refreshAll self => exact confined_refreshAll self hregisters
  | owner user => exact confined_owner? (hregisters.entries user.text)
  | isOnline user => exact confined_isOnline (hregisters.entries user.text)
  | heartbeat self => exact confined_heartbeat self hwatches
  | liveInstances => exact confined_liveInstances hwatches
  | reap self => exact confined_reap self hwatches
  | withdraw self => exact confined_withdraw self hwatches
  | enterRoom room _ | leaveRoom room _ | roomNames room => exact confined_store (hroom room.text)
  | roomMembers room => exact confined_roomMembers (hroom room.text)

end AllBut

/-! ## Runs -/

section Runs

variable {scope other : Scope} {c d : Cluster}

theorem Alike.wait (h : Alike scope c d) (ms : Nat) :
    Alike scope { c with now := c.now + ms } { d with now := d.now + ms } where
  healthy := h.healthy
  healthy' := h.healthy'
  now := congrArg (· + ms) h.now
  clocks := h.clocks
  seen key hkey := by rw [Cluster.seen_wait, Cluster.seen_wait, h.seen key hkey, h.now]
  sessions := h.sessions

theorem Alike.setClock (h : Alike scope c d) (host : Nat) (time : Int64) :
    Alike scope (c.updateHost host fun h => { h with clock := time })
      (d.updateHost host fun h => { h with clock := time }) where
  healthy := h.healthy
  healthy' := h.healthy'
  now := h.now
  clocks := by
    funext host'
    have hclock := congrFun h.clocks host'
    simp only [Cluster.clock?, Cluster.updateHost, Table.find?_update] at hclock ⊢
    split
    · simp only [Option.map_map, Function.comp_def]
      have hthere := congrArg (Option.map fun _ => time) hclock
      simpa only [Option.map_map, Function.comp_def] using hthere
    · exact hclock
  seen := h.seen
  sessions hscope := by
    rcases h.sessions hscope with ⟨hhosts, hqueues⟩
    simp only [Cluster.updateHost, hhosts, hqueues, and_self]

theorem Alike.hangUp (h : Alike scope c d) (queue : Nat) :
    Alike scope (c.updateQueue queue Mailbox.closeReceiver)
      (d.updateQueue queue Mailbox.closeReceiver) where
  healthy := h.healthy
  healthy' := h.healthy'
  now := h.now
  clocks := h.clocks
  seen := h.seen
  sessions hscope := by
    rcases h.sessions hscope with ⟨hhosts, hqueues⟩
    simp only [Cluster.updateQueue, hhosts, hqueues, and_self]

/-- What makes no difference in a scope may be left out of a run, and what stays in is answered as
    before. -/
theorem Cluster.answered_filter_of_alike (kept : Request Q → Bool)
    (hin : ∀ request, kept request = true → Confined scope request.operation)
    (hout : ∀ request, kept request = false → ∀ (host : Nat) {c d : Cluster}, Alike scope c d →
      Alike scope (c.runAlone host request.operation).2 d)
    (run : List (Occurrence Q)) (h : Alike scope c d) :
    (c.answered run).filter (fun t => kept t.request) =
      d.answered (run.filter (Occurrence.isKept kept)) := by
  induction run generalizing c d with
  | nil => rfl
  | cons turn run ih =>
    cases turn with
    | asks host request =>
      cases hkept : kept request with
      | true =>
        rcases (hin request hkept).alike host h with ⟨hanswer, hafter⟩
        rw [List.filter_cons_of_pos (by exact hkept), answered, answered,
          List.filter_cons_of_pos (by exact hkept), hanswer, ih hafter]
      | false =>
        rw [List.filter_cons_of_neg (by simp only [Occurrence.isKept, hkept, Bool.false_eq_true,
          not_false_eq_true]), answered, List.filter_cons_of_neg (by simp only [hkept,
          Bool.false_eq_true, not_false_eq_true]), ih (hout request hkept host h)]
    | wait ms => exact ih (h.wait ms)
    | setClock host time => exact ih (h.setClock host time)
    | hangUp queue => exact ih (h.hangUp queue)

/-- What is in a scope apart may be left out of a run, and what stays in is answered as before. -/
theorem Cluster.answered_filter (kept : Request Q → Bool) (hapart : other.Apart scope)
    (hin : ∀ request, kept request = true → Confined scope request.operation)
    (hout : ∀ request, kept request = false → Confined other request.operation)
    (run : List (Occurrence Q)) (h : Alike scope c d) :
    (c.answered run).filter (fun t => kept t.request) =
      d.answered (run.filter (Occurrence.isKept kept)) :=
  answered_filter_of_alike kept hin
    (fun request hkept host _ _ halike => (hout request hkept).alike_of_apart host hapart halike)
    run h

end Runs

/-- Buckets are isolated. On a store that answers, the limiter's answers for a user are those of the
    run in which nothing but this user's bucket is asked for, and all other answers are those of the
    run in which the limiter is not asked for anything. -/
theorem Cluster.answered_bucket_isolated (c : Cluster) (h : c.store.fault = none)
    (run : List (Occurrence Q)) :
    (∀ user : UserId,
      (c.answered run).filter (fun t => t.request.bucketOf? = some user) =
        c.answered (run.filter (Occurrence.isKept fun request => request.bucketOf? = some user))) ∧
      (c.answered run).filter (fun t => t.request.bucketOf? = none) =
        c.answered (run.filter (Occurrence.isKept fun request => request.bucketOf? = none)) := by
  constructor
  · intro user
    refine answered_filter (fun request => request.bucketOf? = some user)
      (Scope.allBut_apart_only (· = Key.rateLimit user.text)) ?_ ?_ run (Alike.refl _ h)
    · intro request hrequest
      exact Request.confined_only (of_decide_eq_true hrequest) rfl
    · intro request hrequest
      refine Request.confined_allBut (fun key hkey => ⟨user.text, hkey⟩) fun asked hasked hkey => ?_
      have huser : asked = user :=
        congrArg UserId.mk ((String.append_right_inj Key.rateLimitStart).1 hkey)
      exact of_decide_eq_false hrequest (hasked.trans (congrArg some huser))
  · refine answered_filter (fun request => request.bucketOf? = none)
      (Scope.only_apart_allBut fun key => ∃ user, key = Key.rateLimit user) ?_ ?_ run
      (Alike.refl _ h)
    · intro request hrequest
      refine Request.confined_allBut (fun key hkey => hkey) fun user huser => ?_
      rw [of_decide_eq_true hrequest] at huser
      cases huser
    · intro request hrequest
      rcases Option.ne_none_iff_exists'.1 (of_decide_eq_false hrequest) with ⟨user, huser⟩
      exact Request.confined_only huser ⟨user.text, rfl⟩

/-- A user tries to send twice. Between the two attempts another one does whose name looks like a
    key, a room is named like a bucket, and a session comes and is lost. -/
def crowdedRun : List (Occurrence ℚ) :=
  [.asks 0 (.check (.perMinute 1 6) ⟨"u"⟩),
   .asks 0 (.check (.perMinute 1 6) ⟨"ratelimit:u"⟩),
   .asks 1 (.enterRoom ⟨"ratelimit:u"⟩ "registry:u"),
   .asks 1 (.register (Profile.standard ⟨"b"⟩).registrar ⟨0, ⟨1⟩, ⟨"u"⟩⟩),
   .wait 1000,
   .setClock 0 1000,
   .asks 0 (.reap (Profile.standard ⟨"a"⟩).monitor),
   .asks 0 (.check (.perMinute 1 6) ⟨"u"⟩)]

/-- The second attempt has to wait, with and without the others. -/
theorem answered_bucket_isolated_crowded :
    let admissions := fun given : List (Exchange ℚ) => given.filterMap fun
      | ⟨.check _ _, admission⟩ => some admission
      | _ => none
    let kept := Occurrence.isKept fun request : Request ℚ => request.bucketOf? = some ⟨"u"⟩
    (crowdedRun.filter kept).length = 4 ∧
      admissions (twoInstances.answered (crowdedRun.filter kept)) = [.allowed, .throttled 9] ∧
      admissions ((twoInstances.answered crowdedRun).filter
        fun t => t.request.bucketOf? = some ⟨"u"⟩) = [.allowed, .throttled 9] := by
  intro admissions kept
  have hisolated := (twoInstances.answered_bucket_isolated rfl crowdedRun).1 ⟨"u"⟩
  have halone : admissions (twoInstances.answered (crowdedRun.filter kept)) =
      [.allowed, .throttled 9] := by
    decide +kernel
  exact ⟨by decide +kernel, halone, (congrArg admissions hisolated).trans halone⟩

end ChatCluster
