import ChatCluster.Proofs.Instance.Footprint
import ChatCluster.Proofs.Instance.Rules

/-!
# Quiet Operations

Most of what an instance does hands nothing on to anybody: it reads and writes the store, looks at
its clock, or warns. Such operations keep every rule of delivery and leave what is remembered as
it was, save for sessions they may have looked up. Being quiet passes from the parts of an
operation to the whole. Whatever has a footprint is quiet.

## Main definitions

* `Quiet`: An operation hands nothing on.
* `Effect.IsIdle`: A step neither hands anything on nor looks a session up.

## Theorems

* `quiet_bind`, `quiet_perform`: Wholes and parts.
* `quiet_of_within`: What keeps to itself hands nothing on.
* `quiet_owner?`, `quiet_unregisterIf`, `quiet_check`, `quiet_timedHeartbeat`, `quiet_timedReap`,
  `quiet_withdraw`: What this comes to for the operations of an instance.
-/

namespace ChatCluster

open Operation

/-- The operation hands nothing on, whoever runs it. -/
def Quiet {α : Type} (op : Operation α) : Prop :=
  ∀ (b : Brief) (l : Ledger), b.rules.Obeys l op fun l' _ => l.Keeps l'

section Quiet

variable {α β : Type}

theorem quiet_pure (a : α) : Quiet (pure a : Operation α) :=
  fun _ l => Ledger.Keeps.refl l

theorem quiet_bind {op : Operation α} {f : α → Operation β} (h : Quiet op)
    (hf : ∀ a, Quiet (f a)) : Quiet (op >>= f) := by
  -- What the first part keeps is handed to the second, whatever the first has ended with.
  intro b l
  refine Rules.obeys_bind (h b l) fun l' a hkeeps => ?_
  exact (hf a b l').mono fun l'' _ hkeeps' => hkeeps.trans hkeeps'

theorem quiet_warn (w : Warning) : Quiet (warn w) :=
  fun _ l => ⟨trivial, fun _ _ => Ledger.Keeps.refl l⟩

theorem quiet_count (m : Metric) : Quiet (count m) :=
  fun _ l => ⟨trivial, fun _ _ => Ledger.Keeps.refl l⟩

theorem quiet_findSession (user : UserId) : Quiet (perform (.findSession user)) :=
  fun _ _ => ⟨trivial, fun _ _ => ⟨List.subset_append_right _ _, rfl, rfl⟩⟩

theorem quiet_listSessions : Quiet (perform .listSessions) :=
  fun _ _ => ⟨trivial, fun _ _ => ⟨List.subset_append_right _ _, rfl, rfl⟩⟩

/-- The steps that neither hand anything on nor look a session up. -/
def Effect.IsIdle : Effect → Prop
  | .offer _ _ | .publish _ _ | .insertSession _ | .findSession _ | .listSessions => False
  | _ => True

theorem quiet_perform (e : Effect) (h : e.IsIdle) : Quiet (perform e) := by
  intro b l
  cases e with
  | offer | publish | insertSession | findSession | listSessions => exact absurd h id
  | store | clock | postmark | spareId | removeSession | removeSessionIf | countSessions | isOpen
  | lifecycle | comeAlive | stop | setReady | warn | count | gaugeSessions =>
    exact ⟨trivial, fun _ _ => Ledger.Keeps.refl l⟩

end Quiet

/-- What keeps to itself hands nothing on, whatever keys it writes to. -/
theorem quiet_of_within {α : Type} {op : Operation α} (h : Within (fun _ => True) op) :
    Quiet op := by
  induction op with
  | done a => exact quiet_pure a
  | ask e next ih =>
    have hstep : Quiet (perform e) := by
      cases e with
      | offer | publish | insertSession => exact absurd h.1 id
      | findSession user => exact quiet_findSession user
      | listSessions => exact quiet_listSessions
      | store | clock | postmark | spareId | removeSession | removeSessionIf | countSessions
      | isOpen | lifecycle | comeAlive | stop | setReady | warn | count | gaugeSessions =>
        exact quiet_perform _ trivial
    exact quiet_bind hstep fun reply => ih reply (h.2 reply trivial)

/-! ## Operations of an instance -/

theorem quiet_owner? (user : UserId) : Quiet (Registrar.owner? user) :=
  quiet_of_within (within_owner? user)

theorem quiet_gauge : Quiet Registrar.gauge :=
  quiet_of_within within_gauge

theorem quiet_writeEntry (self : Registrar) (user : UserId) : Quiet (self.writeEntry user) :=
  quiet_of_within (within_writeEntry self trivial)

theorem quiet_unregisterIf (self : Registrar) (user : UserId) (id : SessionId) :
    Quiet (self.unregisterIf user id) :=
  quiet_of_within (within_unregisterIf self id trivial)

theorem quiet_check {Q : Type} [BucketText Q] [Amount Q] (s : LimitSettings Q) (user : UserId) :
    Quiet (RateLimiter.check s user) :=
  quiet_of_within (within_check s trivial)

theorem quiet_withdraw (self : Monitor) : Quiet self.withdraw :=
  quiet_of_within (within_withdraw self trivial)

theorem quiet_timedHeartbeat (self : Profile) : Quiet self.timedHeartbeat :=
  quiet_of_within (within_timedHeartbeat self (fun _ => trivial) trivial)

theorem quiet_firstHeartbeat (self : Profile) : Quiet self.firstHeartbeat :=
  quiet_of_within (within_firstHeartbeat self (fun _ => trivial) trivial)

theorem quiet_timedReap (self : Profile) : Quiet self.timedReap :=
  quiet_of_within (within_timedReap self fun _ => trivial)

end ChatCluster
