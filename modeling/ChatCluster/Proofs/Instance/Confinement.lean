import ChatCluster.Instance.Node
import ChatCluster.Proofs.Cluster.Scope

/-!
# What Operations Are Confined To

The limiter looks at the bucket of one user and at a clock. The registry looks at entries and at
the sessions of instances, and liveness at signs of life as well. Rooms are sets of their own.

A reap pass writes to whatever keys the store has listed for it. They begin as entries do, and that
is what confines it.

## Main definitions

* `Scope.Registers`, `Scope.Watches`: What the registry and liveness are about is in scope.

## Theorems

* `confined_check`, `confined_status`, `confined_reset`: The limiter.
* `confined_register`, `confined_unregister`, `confined_refreshAll`: The registry.
* `confined_heartbeat`, `confined_reap`, `confined_withdraw`: Liveness.
* `confined_roomMembers`: Rooms.
-/

namespace ChatCluster

open Operation

/-- Entries, sessions and the state of instances are in scope. -/
structure Scope.Registers (scope : Scope) : Prop where
  sessions : scope.sessions
  entries : ∀ rest, scope.keys (Key.registryStart ++ rest)

/-- Signs of life are in scope as well. -/
structure Scope.Watches (scope : Scope) : Prop extends scope.Registers where
  signs : ∀ rest, scope.keys (Key.livenessStart ++ rest)

variable {scope : Scope}

/-! ## The limiter -/

section Limiter

variable {Q : Type} [BucketText Q] {user : UserId}

theorem confined_load (h : scope.keys (Key.rateLimit user.text)) :
    Confined scope (RateLimiter.load (Q := Q) user) := by
  refine confined_bind (confined_store h) fun reply => ?_
  rcases reply with e | _ | text
  · exact confined_pure _
  · exact confined_pure _
  · simp only
    split
    · exact confined_pure _
    · exact confined_bind (confined_warn _) fun _ => confined_pure _

variable [Amount Q] (s : LimitSettings Q)

theorem confined_drawAndSave (h : scope.keys (Key.rateLimit user.text)) (now : Int64)
    (bucket : Bucket Q) : Confined scope (RateLimiter.drawAndSave s user now bucket) := by
  rw [RateLimiter.drawAndSave]
  rcases bucket.draw s now with ⟨admission, next⟩
  refine confined_bind (confined_store h) fun reply => ?_
  rcases reply with e | _
  · refine confined_bind (confined_warn _) fun _ => ?_
    cases admission <;> exact confined_bind (confined_count _) fun _ => confined_pure _
  · cases admission <;> exact confined_bind (confined_count _) fun _ => confined_pure _

theorem confined_check (h : scope.keys (Key.rateLimit user.text)) :
    Confined scope (RateLimiter.check s user) := by
  rw [RateLimiter.check]
  split
  · refine confined_bind (confined_perform trivial) fun now => ?_
    refine confined_bind (confined_load h) fun reply => ?_
    rcases reply with e | stored
    · refine confined_bind (confined_warn _) fun _ => ?_
      exact confined_bind (confined_count _) fun _ => confined_pure _
    · exact confined_drawAndSave s h now _
  · exact confined_pure _

theorem confined_status (h : scope.keys (Key.rateLimit user.text)) :
    Confined scope (RateLimiter.status s user) := by
  refine confined_bind (confined_perform trivial) fun now => ?_
  refine confined_bind (confined_load h) fun reply => ?_
  rcases reply with e | stored <;> exact confined_pure _

theorem confined_reset (h : scope.keys (Key.rateLimit user.text)) :
    Confined scope (RateLimiter.reset user) :=
  confined_store h

end Limiter

/-! ## The registry -/

section Registry

variable (self : Registrar) {user : UserId}

theorem confined_readEntry (h : scope.keys (Key.registry user.text)) :
    Confined scope (Registrar.readEntry user) := by
  refine confined_bind (confined_store h) fun reply => ?_
  rcases reply with e | _ | text
  · exact confined_pure _
  · exact confined_pure _
  · simp only
    split <;> exact confined_pure _

theorem confined_owner? (h : scope.keys (Key.registry user.text)) :
    Confined scope (Registrar.owner? user) := by
  refine confined_bind (confined_readEntry h) fun reply => ?_
  rcases reply with e | entry <;> exact confined_pure _

theorem confined_isOnline (h : scope.keys (Key.registry user.text)) :
    Confined scope (Registrar.isOnline user) := by
  refine confined_bind (confined_owner? h) fun reply => ?_
  rcases reply with e | owner <;> exact confined_pure _

theorem confined_gauge (h : scope.Registers) : Confined scope Registrar.gauge :=
  confined_bind (confined_perform h.sessions) fun _ => confined_perform h.sessions

theorem confined_writeEntry (h : scope.Registers) (user : UserId) :
    Confined scope (self.writeEntry user) :=
  confined_bind (confined_perform trivial) fun _ => confined_store (h.entries user.text)

theorem confined_deleteOwnEntry (h : scope.Registers) (user : UserId) :
    Confined scope (self.deleteOwnEntry user) := by
  refine confined_bind (confined_readEntry (h.entries user.text)) fun reply => ?_
  rcases reply with e | _ | entry
  · cases e with
    | codec => exact confined_store (h.entries user.text)
    | unavailable | timeout => exact confined_pure _
  · exact confined_pure _
  · change Confined scope (if entry.owner ≠ self.id then pure (.ok false)
      else store (.delete (Key.registry user.text)))
    split
    · exact confined_pure _
    · exact confined_store (h.entries user.text)

theorem confined_release (h : scope.Registers) (user : UserId) :
    Confined scope (self.release user) := by
  refine confined_bind (confined_deleteOwnEntry self h user) fun reply => ?_
  rcases reply with e | done
  · exact confined_bind (confined_warn _) fun _ => confined_count _
  · exact confined_pure _

theorem confined_register (h : scope.Registers) (htraffic : scope.traffic)
    (session : SessionHandle) : Confined scope (self.register session) := by
  refine confined_bind (confined_perform ⟨h.sessions, htraffic⟩) fun superseded => ?_
  refine confined_bind (confined_gauge h) fun _ => ?_
  refine confined_bind (confined_writeEntry self h session.user) fun reply => ?_
  rcases reply with e | _
  · refine confined_bind (confined_warn _) fun _ => ?_
    exact confined_bind (confined_count _) fun _ => confined_pure _
  · exact confined_pure _

theorem confined_unregister (h : scope.Registers) (htraffic : scope.traffic) (user : UserId) :
    Confined scope (self.unregister user) := by
  refine confined_bind (confined_perform ⟨h.sessions, htraffic⟩) fun removed => ?_
  cases removed with
  | none => exact confined_release self h user
  | some session => exact confined_bind (confined_gauge h) fun _ => confined_release self h user

theorem confined_unregisterIf (h : scope.Registers) (htraffic : scope.traffic) (user : UserId)
    (id : SessionId) : Confined scope (self.unregisterIf user id) := by
  refine confined_bind (confined_perform ⟨h.sessions, htraffic⟩) fun removed => ?_
  cases removed with
  | none => exact confined_pure _
  | some session =>
    refine confined_bind (confined_gauge h) fun _ => ?_
    exact confined_bind (confined_release self h user) fun _ => confined_pure _

theorem confined_refresh (h : scope.Registers) (user : UserId) :
    Confined scope (self.refresh user) := by
  refine confined_bind (confined_perform h.sessions) fun found => ?_
  cases found with
  | none => exact confined_pure _
  | some session =>
    refine confined_bind (confined_perform h.sessions) fun isOpen => ?_
    cases isOpen with
    | false => exact confined_pure _
    | true =>
      refine confined_bind (confined_store (h.entries user.text)) fun reply => ?_
      rcases reply with e | _ | _
      · exact confined_pure _
      · refine confined_bind (confined_writeEntry self h user) fun reply => ?_
        rcases reply with e | _ <;> exact confined_pure _
      · exact confined_pure _

theorem confined_refreshEach (h : scope.Registers) (sessions : List SessionHandle)
    (refreshed : Nat) : Confined scope (self.refreshEach sessions refreshed) := by
  induction sessions generalizing refreshed with
  | nil => exact confined_pure _
  | cons session rest ih =>
    refine confined_bind (confined_refresh self h session.user) fun reply => ?_
    rcases reply with e | _ | _
    · exact confined_bind (confined_warn _) fun _ => confined_bind (confined_count _) fun _ => ih _
    · exact ih _
    · exact ih _

theorem confined_refreshAll (h : scope.Registers) : Confined scope self.refreshAll :=
  confined_bind (confined_perform h.sessions) fun sessions => confined_refreshEach self h sessions 0

end Registry

/-! ## Liveness -/

section Liveness

variable (self : Monitor)

theorem confined_heartbeat (h : scope.Watches) : Confined scope self.heartbeat := by
  have hrefresh : Confined scope (self.toRegistrar.refreshAll >>= fun _ =>
      (pure (.ok ()) : Operation (Except StoreError Unit))) :=
    confined_bind (confined_refreshAll self.toRegistrar h.toRegisters) fun _ => confined_pure _
  refine confined_bind (confined_perform h.sessions) fun lifecycle => ?_
  split
  · exact confined_pure _
  · refine confined_bind (confined_perform trivial) fun now => ?_
    refine confined_bind (confined_store (h.signs self.id.text)) fun reply => ?_
    rcases reply with e | _
    · exact confined_pure _
    · refine confined_bind (confined_perform h.sessions) fun came => ?_
      cases came with
      | false => exact hrefresh
      | true => exact confined_bind (confined_perform h.sessions) fun _ => hrefresh

theorem confined_liveInstances (h : scope.Watches) : Confined scope Monitor.liveInstances := by
  refine confined_bind (confined_store h.signs) fun reply => ?_
  rcases reply with e | listed <;> exact confined_pure _

theorem confined_judge (h : scope.Watches) (live : List InstanceId) (text : String) :
    Confined scope (Monitor.judge live text) := by
  rw [Monitor.judge]
  cases RegistryEntry.ofJson? text with
  | none => exact confined_bind (confined_warn _) fun _ => confined_pure _
  | some entry =>
    simp only
    split
    · exact confined_pure _
    · refine confined_bind (confined_store (h.signs entry.owner.text)) fun reply => ?_
      rcases reply with e | _ | _ <;> exact confined_pure _

theorem confined_deleteUnchanged {key : String} (h : scope.keys key) (text : String) :
    Confined scope (Monitor.deleteUnchanged key text) := by
  refine confined_bind (confined_store h) fun reply => ?_
  rcases reply with e | current
  · exact confined_pure _
  · simp only
    split
    · exact confined_store h
    · exact confined_pure _

/-- The loop keeps to the keys that it goes through and to the signs of life. -/
theorem confined_reapEach (h : scope.Watches) {listed : List String}
    (hlisted : ∀ key ∈ listed, scope.keys key) (live : List InstanceId) (removed : Nat) :
    Confined scope (Monitor.reapEach listed live removed) := by
  induction listed generalizing live removed with
  | nil => exact confined_pure _
  | cons key rest ih =>
    have hkey := hlisted key List.mem_cons_self
    have hrest := fun live removed =>
      ih (fun other hother => hlisted other (List.mem_cons_of_mem key hother)) live removed
    refine confined_bind (confined_store hkey) fun reply => ?_
    rcases reply with e | _ | text
    · exact confined_pure _
    · exact hrest _ _
    · refine confined_bind (confined_judge h live text) fun verdict => ?_
      rcases verdict with e | _ | owner | _
      · exact confined_pure _
      · exact hrest _ _
      · exact hrest _ _
      · refine confined_bind (confined_deleteUnchanged hkey text) fun reply => ?_
        rcases reply with e | _ | _
        · exact confined_pure _
        · exact hrest _ _
        · exact hrest _ _

theorem confined_reap (h : scope.Watches) : Confined scope self.reap := by
  refine confined_bind (confined_liveInstances h) fun reply => ?_
  rcases reply with e | live
  · exact confined_pure _
  · -- What is done next depends on what is listed, so the reply is not arbitrary here.
    refine ⟨h.entries, fun reply hreply => ?_⟩
    rcases reply with e | listed
    · exact confined_pure _
    · change Confined scope (Monitor.reapEach listed (self.id :: live) 0 >>= _)
      have hlisted : ∀ key ∈ listed, scope.keys key := by
        intro key hkey
        rcases hreply listed rfl key hkey with ⟨rest, rfl⟩
        exact h.entries rest
      refine confined_bind (confined_reapEach h hlisted _ 0) fun reply => ?_
      rcases reply with e | removed
      · exact confined_pure _
      · exact confined_bind (confined_perform trivial) fun _ => confined_pure _

theorem confined_withdraw (h : scope.Watches) : Confined scope self.withdraw := by
  refine confined_bind (confined_perform h.sessions) fun _ => ?_
  refine confined_bind (confined_perform h.sessions) fun _ => ?_
  refine confined_bind (confined_store (h.signs self.id.text)) fun reply => ?_
  rcases reply with e | _ <;> exact confined_pure _

end Liveness

/-! ## Rooms -/

theorem confined_roomMembers {room : RoomId} (h : scope.keys (Key.roomMembers room.text)) :
    Confined scope (Registrar.roomMembers room) := by
  refine confined_bind (confined_store h) fun reply => ?_
  rcases reply with e | names <;> exact confined_pure _

end ChatCluster
