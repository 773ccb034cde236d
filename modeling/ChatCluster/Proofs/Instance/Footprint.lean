import ChatCluster.Instance.Node
import ChatCluster.Proofs.Cluster.Conduct
import ChatCluster.Proofs.Cluster.Seen

/-!
# Footprints

Most operations keep to themselves: they hand nothing on, take no session in, and write to a few
keys of the store that can be told from their arguments. Such an operation stays within these keys
(`Within`), whatever it is told on the way, so that this too passes from the parts of an operation
to the whole.

What lies outside the footprint is not disturbed. The other keys are seen as before, the outbound
queues are as before, and nobody has come into a directory.

## Main definitions

* `Effect.StaysWithin`: A step keeps to itself and to some keys.
* `Within`: All steps of an operation do.

## Theorems

* `Within.seen_runAlone`, `Within.queues_runAlone`, `Within.find?_directory_runAlone`: What is not
  disturbed.
* `within_refresh`, `within_unregisterIf`: The registry writes to the entries of users.
* `within_check`: The limiter writes to their buckets.
* `within_heartbeat`, `within_reap`, `within_withdraw`: Liveness.
-/

namespace ChatCluster

open Operation

/-- The step hands nothing on, takes no session in, and writes to the given keys only. -/
def Effect.StaysWithin (keys : String → Prop) : Effect → Prop
  | .store call => ∀ key, call.writes? = some key → keys key
  | .offer _ _ | .publish _ _ | .insertSession _ => False
  | _ => True

/-- The rules of keeping to oneself. There is nothing to remember. -/
def stayingWithin (keys : String → Prop) : Rules Unit where
  allows _ e := e.StaysWithin keys
  possible _ _ := True
  after _ _ _ := ()

/-- The operation keeps to itself and writes to the given keys only. -/
def Within {α : Type} (keys : String → Prop) (op : Operation α) : Prop :=
  (stayingWithin keys).Obeys () op fun _ _ => True

section Parts

variable {α β : Type} {keys : String → Prop}

theorem within_pure (a : α) : Within keys (pure a : Operation α) := trivial

theorem within_bind {op : Operation α} {f : α → Operation β} (h : Within keys op)
    (hf : ∀ a, Within keys (f a)) : Within keys (op >>= f) :=
  Rules.obeys_bind h fun _ a _ => hf a

theorem within_perform {e : Effect} (h : e.StaysWithin keys) : Within keys (perform e) :=
  Rules.obeys_perform h fun _ _ => trivial

theorem within_store {call : StoreCall} (h : ∀ key, call.writes? = some key → keys key) :
    Within keys (store call) :=
  within_perform h

theorem within_look {call : StoreCall} (h : call.writes? = none) : Within keys (store call) := by
  refine within_store fun key hkey => ?_
  rw [h] at hkey
  exact absurd hkey (by simp only [reduceCtorEq, not_false_eq_true])

theorem within_write {call : StoreCall} {key : String} (h : call.writes? = some key)
    (hkey : keys key) : Within keys (store call) := by
  refine within_store fun other hother => ?_
  rw [h, Option.some.injEq] at hother
  exact hother ▸ hkey

theorem within_warn (w : Warning) : Within keys (warn w) := within_perform trivial

theorem within_count (m : Metric) : Within keys (count m) := within_perform trivial

end Parts

/-! ## What is not disturbed -/

/-- The key of the store that a step may write to. -/
def Effect.writes? : Effect → Option String
  | .store call => call.writes?
  | _ => none

namespace Cluster

/-- Other keys are seen as before. -/
theorem seen_perform_of_ne {e : Effect} {key : String} (h : e.writes? ≠ some key) (c : Cluster)
    (host : Nat) : (c.perform host e).2.seen key = c.seen key := by
  rw [seen, now_perform, store_perform]
  cases e with
  | store call =>
    simp only [MemoryStore.call]
    cases c.store.fault with
    | some e => rfl
    | none => exact Slots.visible_call_of_ne _ _ call h
  | publish | clock | postmark | spareId | insertSession | findSession | removeSession
  | removeSessionIf | listSessions | countSessions | isOpen | offer | lifecycle | comeAlive | stop
  | setReady | warn | count | gaugeSessions => rfl

theorem seen_perform {keys : String → Prop} {e : Effect} (he : e.StaysWithin keys) (c : Cluster)
    (host : Nat) {key : String} (hkey : ¬keys key) :
    (c.perform host e).2.seen key = c.seen key := by
  refine seen_perform_of_ne (fun hwrites => ?_) c host
  cases e with
  | store call => exact hkey (he key hwrites)
  | publish | clock | postmark | spareId | insertSession | findSession | removeSession
  | removeSessionIf | listSessions | countSessions | isOpen | offer | lifecycle | comeAlive | stop
  | setReady | warn | count | gaugeSessions =>
    simp only [Effect.writes?, reduceCtorEq] at hwrites

end Cluster

section Undisturbed

open Cluster

variable {α : Type} {keys : String → Prop} {op : Operation α} (host : Nat) (c : Cluster)

theorem Within.seen_runAlone (h : Within keys op) {key : String} (hkey : ¬keys key) :
    (runAlone host op c).2.seen key = c.seen key := by
  induction op generalizing c with
  | done a => rfl
  | ask e next ih =>
    have hrest := ih (c.perform host e).1 (c.perform host e).2 (h.2 _ trivial)
    exact hrest.trans (seen_perform h.1 c host hkey)

theorem Within.queues_runAlone (h : Within keys op) : (runAlone host op c).2.queues = c.queues := by
  induction op generalizing c with
  | done a => rfl
  | ask e next ih =>
    have hstep : (c.perform host e).2.queues = c.queues := by
      rw [queues_perform]
      cases e with
      | offer session item => exact absurd h.1 id
      | store | publish | clock | postmark | spareId | insertSession | findSession | removeSession
      | removeSessionIf | listSessions | countSessions | isOpen | lifecycle | comeAlive | stop
      | setReady | warn | count | gaugeSessions => rfl
    exact (ih (c.perform host e).1 (c.perform host e).2 (h.2 _ trivial)).trans hstep

theorem Within.find?_directory_runAlone (h : Within keys op) {other : Nat} {user : UserId}
    {session : SessionHandle}
    (hfind : ((runAlone host op c).2.directory other).find? user = some session) :
    (c.directory other).find? user = some session := by
  induction op generalizing c with
  | done a => exact hfind
  | ask e next ih =>
    have hthen := ih (c.perform host e).1 (c.perform host e).2 (h.2 _ trivial) hfind
    rcases find?_directory_perform hthen with hbefore | ⟨_, he, _⟩
    · exact hbefore
    · subst he
      exact absurd h.1 id

end Undisturbed

/-! ## The registry -/

section Registry

variable {keys : String → Prop} (self : Registrar)

theorem within_readEntry (user : UserId) : Within keys (Registrar.readEntry user) := by
  refine within_bind (within_look rfl) fun reply => ?_
  rcases reply with e | _ | text
  · exact within_pure _
  · exact within_pure _
  · simp only
    split <;> exact within_pure _

theorem within_owner? (user : UserId) : Within keys (Registrar.owner? user) := by
  refine within_bind (within_readEntry user) fun reply => ?_
  rcases reply with e | entry <;> exact within_pure _

theorem within_gauge : Within keys Registrar.gauge :=
  within_bind (within_perform trivial) fun _ => within_perform trivial

variable {user : UserId}

theorem within_writeEntry (h : keys (Key.registry user.text)) :
    Within keys (self.writeEntry user) :=
  within_bind (within_perform trivial) fun _ => within_write rfl h

theorem within_deleteOwnEntry (h : keys (Key.registry user.text)) :
    Within keys (self.deleteOwnEntry user) := by
  refine within_bind (within_readEntry user) fun reply => ?_
  rcases reply with e | _ | entry
  · cases e with
    | codec => exact within_write rfl h
    | unavailable | timeout => exact within_pure _
  · exact within_pure _
  · change Within keys (if entry.owner ≠ self.id then pure (.ok false)
      else store (.delete (Key.registry user.text)))
    split
    · exact within_pure _
    · exact within_write rfl h

theorem within_release (h : keys (Key.registry user.text)) : Within keys (self.release user) := by
  refine within_bind (within_deleteOwnEntry self h) fun reply => ?_
  rcases reply with e | done
  · exact within_bind (within_warn _) fun _ => within_count _
  · exact within_pure _

theorem within_unregister (h : keys (Key.registry user.text)) :
    Within keys (self.unregister user) := by
  refine within_bind (within_perform trivial) fun removed => ?_
  cases removed with
  | none => exact within_release self h
  | some session => exact within_bind within_gauge fun _ => within_release self h

theorem within_unregisterIf (id : SessionId) (h : keys (Key.registry user.text)) :
    Within keys (self.unregisterIf user id) := by
  refine within_bind (within_perform trivial) fun reply => ?_
  cases reply with
  | none => exact within_pure _
  | some session =>
    refine within_bind within_gauge fun _ => ?_
    exact within_bind (within_release self h) fun _ => within_pure _

theorem within_refresh (h : keys (Key.registry user.text)) : Within keys (self.refresh user) := by
  refine within_bind (within_perform trivial) fun reply => ?_
  cases reply with
  | none => exact within_pure _
  | some session =>
    refine within_bind (within_perform trivial) fun isOpen => ?_
    cases isOpen with
    | false => exact within_pure _
    | true =>
      refine within_bind (within_write rfl h) fun reply => ?_
      rcases reply with e | _ | _
      · exact within_pure _
      · refine within_bind (within_writeEntry self h) fun reply => ?_
        rcases reply with e | _ <;> exact within_pure _
      · exact within_pure _

theorem within_refreshEach (h : ∀ user : UserId, keys (Key.registry user.text))
    (sessions : List SessionHandle) (refreshed : Nat) :
    Within keys (self.refreshEach sessions refreshed) := by
  induction sessions generalizing refreshed with
  | nil => exact within_pure _
  | cons session rest ih =>
    refine within_bind (within_refresh self (h session.user)) fun reply => ?_
    rcases reply with e | _ | _
    · exact within_bind (within_warn _) fun _ => within_bind (within_count _) fun _ => ih _
    · exact ih _
    · exact ih _

/-- Whose entries are extended is known only when the sessions have been listed. -/
theorem within_refreshAll (h : ∀ user : UserId, keys (Key.registry user.text)) :
    Within keys self.refreshAll :=
  within_bind (within_perform trivial) fun sessions => within_refreshEach self h sessions 0

end Registry

/-! ## The limiter -/

section Limiter

variable {Q : Type} [BucketText Q] {keys : String → Prop}

theorem within_load (user : UserId) : Within keys (RateLimiter.load (Q := Q) user) := by
  refine within_bind (within_look rfl) fun reply => ?_
  rcases reply with e | _ | text
  · exact within_pure _
  · exact within_pure _
  · simp only
    split
    · exact within_pure _
    · exact within_bind (within_warn _) fun _ => within_pure _

variable [Amount Q] (s : LimitSettings Q) {user : UserId}

-- Whether the bucket could be saved or not, the outcome is counted in the same way.
theorem within_drawAndSave (h : keys (Key.rateLimit user.text)) (now : Int64)
    (bucket : Bucket Q) : Within keys (RateLimiter.drawAndSave s user now bucket) := by
  rw [RateLimiter.drawAndSave]
  rcases bucket.draw s now with ⟨admission, next⟩
  refine within_bind (within_write rfl h) fun reply => ?_
  rcases reply with e | _
  · refine within_bind (within_warn _) fun _ => ?_
    cases admission <;> exact within_bind (within_count _) fun _ => within_pure _
  · cases admission <;> exact within_bind (within_count _) fun _ => within_pure _

theorem within_check (h : keys (Key.rateLimit user.text)) :
    Within keys (RateLimiter.check s user) := by
  rw [RateLimiter.check]
  split
  · refine within_bind (within_perform trivial) fun now => ?_
    refine within_bind (within_load user) fun reply => ?_
    rcases reply with e | stored
    · refine within_bind (within_warn _) fun _ => ?_
      exact within_bind (within_count _) fun _ => within_pure _
    · exact within_drawAndSave s h now _
  · exact within_pure _

theorem within_status (user : UserId) : Within keys (RateLimiter.status s user) := by
  refine within_bind (within_perform trivial) fun now => ?_
  refine within_bind (within_load user) fun reply => ?_
  rcases reply with e | stored <;> exact within_pure _

theorem within_reset (h : keys (Key.rateLimit user.text)) :
    Within keys (RateLimiter.reset user) :=
  within_write rfl h

end Limiter

/-! ## Liveness -/

section Liveness

variable {keys : String → Prop} (self : Monitor)

theorem within_heartbeat (hentries : ∀ user : UserId, keys (Key.registry user.text))
    (hsign : keys (Key.liveness self.id.text)) : Within keys self.heartbeat := by
  have hrefresh : Within keys (self.toRegistrar.refreshAll >>= fun _ =>
      (pure (.ok ()) : Operation (Except StoreError Unit))) :=
    within_bind (within_refreshAll self.toRegistrar hentries) fun _ => within_pure _
  refine within_bind (within_perform trivial) fun lifecycle => ?_
  split
  · exact within_pure _
  · refine within_bind (within_perform trivial) fun now => ?_
    refine within_bind (within_write rfl hsign) fun reply => ?_
    rcases reply with e | _
    · exact within_pure _
    · refine within_bind (within_perform trivial) fun came => ?_
      cases came with
      | false => exact hrefresh
      | true => exact within_bind (within_perform trivial) fun _ => hrefresh

theorem within_judge (live : List InstanceId) (text : String) :
    Within keys (Monitor.judge live text) := by
  rw [Monitor.judge]
  cases RegistryEntry.ofJson? text with
  | none => exact within_bind (within_warn _) fun _ => within_pure _
  | some entry =>
    simp only
    split
    · exact within_pure _
    · refine within_bind (within_look rfl) fun reply => ?_
      rcases reply with e | _ | _ <;> exact within_pure _

theorem within_deleteUnchanged {key : String} (h : keys key) (text : String) :
    Within keys (Monitor.deleteUnchanged key text) := by
  refine within_bind (within_look rfl) fun reply => ?_
  rcases reply with e | current
  · exact within_pure _
  · simp only
    split
    · exact within_write rfl h
    · exact within_pure _

theorem within_reapEach {listed : List String} (h : ∀ key ∈ listed, keys key)
    (live : List InstanceId) (removed : Nat) :
    Within keys (Monitor.reapEach listed live removed) := by
  -- The list of live instances grows on the way, and has no bearing on what is written.
  induction listed generalizing live removed with
  | nil => exact within_pure _
  | cons key rest ih =>
    have hrest := fun live removed =>
      ih (fun other hother => h other (List.mem_cons_of_mem key hother)) live removed
    refine within_bind (within_look rfl) fun reply => ?_
    rcases reply with e | _ | text
    · exact within_pure _
    · exact hrest _ _
    · refine within_bind (within_judge live text) fun verdict => ?_
      rcases verdict with e | _ | owner | _
      · exact within_pure _
      · exact hrest _ _
      · exact hrest _ _
      · refine within_bind (within_deleteUnchanged (h key List.mem_cons_self) text) fun reply => ?_
        rcases reply with e | _ | _
        · exact within_pure _
        · exact hrest _ _
        · exact hrest _ _

/-- A reap pass writes to keys that the store has listed, which may be any. -/
theorem within_reap (h : ∀ key, keys key) : Within keys self.reap := by
  refine within_bind (within_bind (within_look rfl) fun reply => ?_) fun reply => ?_
  · rcases reply with e | listed <;> exact within_pure _
  · rcases reply with e | live
    · exact within_pure _
    · refine within_bind (within_look rfl) fun reply => ?_
      rcases reply with e | listed
      · exact within_pure _
      · refine within_bind (within_reapEach (fun key _ => h key) _ 0) fun reply => ?_
        rcases reply with e | removed
        · exact within_pure _
        · exact within_bind (within_perform trivial) fun _ => within_pure _

theorem within_withdraw (h : keys (Key.liveness self.id.text)) : Within keys self.withdraw := by
  refine within_bind (within_perform trivial) fun _ => ?_
  refine within_bind (within_perform trivial) fun _ => ?_
  refine within_bind (within_write rfl h) fun reply => ?_
  rcases reply with e | _ <;> exact within_pure _

/-! ### What an instance does when its time has come -/

variable (node : Profile)

theorem within_firstHeartbeat (hentries : ∀ user : UserId, keys (Key.registry user.text))
    (hsign : keys (Key.liveness node.id.text)) : Within keys node.firstHeartbeat := by
  refine within_bind (within_heartbeat node.monitor hentries hsign) fun reply => ?_
  rcases reply with e | _
  · exact within_bind (within_warn _) fun _ => within_count _
  · exact within_pure _

theorem within_timedHeartbeat (hentries : ∀ user : UserId, keys (Key.registry user.text))
    (hsign : keys (Key.liveness node.id.text)) : Within keys node.timedHeartbeat := by
  refine within_bind (within_heartbeat node.monitor hentries hsign) fun reply => ?_
  rcases reply with e | _
  · exact within_bind (within_warn _) fun _ => within_count _
  · exact within_pure _

theorem within_timedReap (h : ∀ key, keys key) : Within keys node.timedReap := by
  refine within_bind (within_reap node.monitor h) fun reply => ?_
  rcases reply with e | _
  · exact within_warn _
  · exact within_pure _

end Liveness

end ChatCluster
