import ChatCluster.Cluster.Perform
import ChatCluster.Proofs.Store.Slots

/-!
# What a Step Can Change

Most steps change one part of the cluster and leave the others as they are. Here this is said part
by part, for all steps at once: who can get into a directory, what can get into an outbound queue,
what can happen to the bus, and that nothing changes how an instance is configured.

## Main definitions

* `Cluster.profile?`: How an instance is configured.

## Theorems

* `Cluster.profile?_perform`: Configurations do not change.
* `Cluster.find?_directory_perform`: Only an insertion brings a session into a directory.
* `Cluster.perform_parts`: Each part that all instances share is changed by one kind of step.
* `Cluster.isOpen_perform`: Steps bring no client back.
* `Cluster.fault_perform`: Steps do not mend the store.
* `Cluster.setsNodup_perform`: The sets of the store hold nobody twice.
-/

namespace ChatCluster

namespace Cluster

/-- How an instance is configured. -/
def profile? (c : Cluster) (host : Nat) : Option Profile :=
  (c.hosts.find? host).map Host.profile

-- An instance is changed in one part at a time, and the other parts are what they were.
theorem profile?_updateHost (c : Cluster) (host other : Nat) {f : Host → Host}
    (hf : ∀ h, (f h).profile = h.profile) :
    (c.updateHost host f).profile? other = c.profile? other := by
  simp only [profile?, updateHost, Table.find?_update]
  by_cases ho : other = host
  · simp only [ho, if_true, Option.map_map, Function.comp_def, hf]
  · simp only [ho, if_false]

theorem directory_updateHost (c : Cluster) (host other : Nat) {f : Host → Host}
    (hf : ∀ h, (f h).directory = h.directory) :
    (c.updateHost host f).directory other = c.directory other := by
  simp only [directory, updateHost, Table.find?_update]
  by_cases ho : other = host
  · simp only [ho, if_true, Option.map_map, Function.comp_def, hf]
  · simp only [ho, if_false]

theorem directory_updateDirectory (c : Cluster) (host other : Nat)
    (f : Table UserId SessionHandle → Table UserId SessionHandle)
    (h : (c.hosts.find? host).isSome) :
    (c.updateDirectory host f).directory other =
      if other = host then f (c.directory host) else c.directory other := by
  rcases Option.isSome_iff_exists.1 h with ⟨state, hstate⟩
  simp only [directory, updateDirectory, updateHost, Table.find?_update]
  by_cases ho : other = host
  · subst ho
    simp only [if_true, hstate, Option.map_some, Option.getD_some]
  · simp only [ho, if_false]

/-- No step changes how an instance is configured. -/
theorem profile?_perform (c : Cluster) (host other : Nat) (e : Effect) :
    (c.perform host e).2.profile? other = c.profile? other := by
  cases e with
  | publish topic frame =>
    simp only [perform, publish]
    split <;> rfl
  | insertSession session => exact profile?_updateHost c host other fun _ => rfl
  | removeSession user => exact profile?_updateHost c host other fun _ => rfl
  | removeSessionIf user id =>
    simp only [perform]
    split
    · rfl
    · split
      · exact profile?_updateHost c host other fun _ => rfl
      · rfl
  | offer session item =>
    simp only [perform, offer]
    split
    · rfl
    · split <;> rfl
  | comeAlive =>
    simp only [perform]
    split
    · exact profile?_updateHost c host other fun _ => rfl
    · rfl
  | stop => exact profile?_updateHost c host other fun _ => rfl
  | setReady ready => exact profile?_updateHost c host other fun _ => rfl
  | store | clock | postmark | spareId | findSession | listSessions | countSessions | isOpen
  | lifecycle | warn | count | gaugeSessions => rfl

/-- What stands in a directory after a change of one was there before, or is what the change has
    made. -/
theorem find?_directory_updateDirectory {c : Cluster} {host other : Nat}
    {f : Table UserId SessionHandle → Table UserId SessionHandle} {user : UserId}
    {session : SessionHandle}
    (h : ((c.updateDirectory host f).directory other).find? user = some session) :
    (c.directory other).find? user = some session ∨
      other = host ∧ (f (c.directory host)).find? user = some session := by
  -- An instance that is not there has an empty directory, and a change does not bring it up.
  by_cases ho : other = host
  · subst ho
    cases hhost : c.hosts.find? other with
    | none =>
      simp only [directory, updateDirectory, updateHost, Table.find?_update, hhost, if_true,
        Option.map_none, Option.getD_none, Table.find?_empty, reduceCtorEq] at h
    | some state =>
      rw [directory_updateDirectory c other other f (by rw [hhost]; rfl), if_pos rfl] at h
      exact Or.inr ⟨rfl, h⟩
  · rw [directory, updateDirectory, updateHost, Table.find?_update, if_neg ho] at h
    exact Or.inl h

theorem find?_directory_erase {c : Cluster} {host other : Nat} {gone user : UserId}
    {session : SessionHandle}
    (h : ((c.updateDirectory host fun d => d.erase gone).directory other).find? user =
      some session) : (c.directory other).find? user = some session := by
  rcases find?_directory_updateDirectory h with h | ⟨rfl, h⟩
  · exact h
  · rw [Table.find?_erase] at h
    split at h
    · simp only [reduceCtorEq] at h
    · exact h

/-- Whoever is taken out of a directory is no longer there. -/
theorem find?_directory_erase_self (c : Cluster) (host : Nat) (user : UserId) :
    ((c.updateDirectory host fun d => d.erase user).directory host).find? user = none := by
  cases hhost : c.hosts.find? host with
  | none =>
    simp only [directory, updateDirectory, updateHost, Table.find?_update, hhost, if_true,
      Option.map_none, Option.getD_none, Table.find?_empty]
  | some state =>
    rw [directory_updateDirectory c host host _ (by rw [hhost]; rfl), if_pos rfl, Table.find?_erase,
      if_pos rfl]

/-- A session in a directory was there before, or has just been inserted by that instance. -/
theorem find?_directory_perform {c : Cluster} {host other : Nat} {e : Effect} {user : UserId}
    {session : SessionHandle}
    (h : ((c.perform host e).2.directory other).find? user = some session) :
    (c.directory other).find? user = some session ∨
      other = host ∧ e = .insertSession session ∧ user = session.user := by
  cases e with
  -- Every session is inserted under its own user.
  | insertSession inserted =>
    rcases find?_directory_updateDirectory h with h | ⟨rfl, h⟩
    · exact Or.inl h
    · rw [Table.find?_insert] at h
      split at h
      · next huser => exact Or.inr ⟨rfl, by rw [Option.some.inj h], Option.some.inj h ▸ huser⟩
      · exact Or.inl h
  | removeSession gone => exact Or.inl (find?_directory_erase h)
  | removeSessionIf gone id =>
    simp only [perform] at h
    split at h
    · exact Or.inl h
    · split at h
      · exact Or.inl (find?_directory_erase h)
      · exact Or.inl h
  | publish topic frame =>
    simp only [perform, publish] at h
    split at h <;> exact Or.inl h
  | offer session item =>
    simp only [perform, offer] at h
    split at h
    · exact Or.inl h
    · split at h <;> exact Or.inl h
  | comeAlive =>
    simp only [perform] at h
    split at h
    · rw [directory_updateHost c host other (f := fun h => { h with lifecycle := .alive })
        fun _ => rfl] at h
      exact Or.inl h
    · exact Or.inl h
  | stop =>
    simp only [perform] at h
    rw [directory_updateHost c host other (f := fun h => { h with lifecycle := .stopped })
      fun _ => rfl] at h
    exact Or.inl h
  | setReady ready =>
    simp only [perform] at h
    rw [directory_updateHost c host other (f := fun h => { h with ready }) fun _ => rfl] at h
    exact Or.inl h
  | store | clock | postmark | spareId | findSession | listSessions | countSessions | isOpen
  | lifecycle | warn | count | gaugeSessions => exact Or.inl h

/-- An offer is taken, and the item stands at the end of the queue, or nothing has changed. -/
theorem offer_cases (c : Cluster) (session : SessionHandle) (item : Outbound) :
    (∃ e, c.offer session item = (.error e, c)) ∨
      ∃ box, c.queues.find? session.queue = some box ∧
        c.offer session item =
          (.ok (),
            { c with
              queues :=
                c.queues.insert session.queue { box with items := box.items ++ [item] } }) := by
  rw [offer]
  cases hbox : c.queues.find? session.queue with
  | none => exact Or.inl ⟨_, rfl⟩
  | some box =>
    cases hoffer : box.offer item with
    | error e =>
      simp only [hoffer]
      exact Or.inl ⟨_, rfl⟩
    | ok box' =>
      have hbox' := ((box.offer_eq_ok_iff box' item).1 hoffer).2.2
      simp only [hoffer, hbox']
      exact Or.inr ⟨box, rfl, rfl⟩

/-- What a step does to the parts of the cluster that all instances share. -/
theorem perform_parts (c : Cluster) (host : Nat) (e : Effect) :
    (c.perform host e).2.now = c.now ∧
      ((c.perform host e).2.store =
        match e with
        | .store call => (c.store.call c.now call).2
        | _ => c.store) ∧
      ((c.perform host e).2.bus =
        match e with
        | .publish topic frame => (c.bus.publish topic frame).2
        | _ => c.bus) ∧
      (c.perform host e).2.queues =
        match e with
        | .offer session item => (c.offer session item).2.queues
        | _ => c.queues := by
  cases e with
  | publish topic frame =>
    simp only [perform, publish, MemoryBus.publish]
    cases c.bus.unavailable <;> exact ⟨rfl, rfl, rfl, rfl⟩
  | removeSessionIf user id =>
    simp only [perform]
    split
    · exact ⟨rfl, rfl, rfl, rfl⟩
    · split <;> exact ⟨rfl, rfl, rfl, rfl⟩
  | offer session item =>
    have hperform : (c.perform host (.offer session item)).2 = (c.offer session item).2 := rfl
    rw [hperform]
    rcases c.offer_cases session item with ⟨_, hoffer⟩ | ⟨_, _, hoffer⟩ <;>
      exact ⟨by rw [hoffer], by rw [hoffer], by rw [hoffer], rfl⟩
  | comeAlive =>
    simp only [perform]
    split <;> exact ⟨rfl, rfl, rfl, rfl⟩
  | store | clock | postmark | spareId | insertSession | findSession | removeSession | listSessions
  | countSessions | isOpen | lifecycle | stop | setReady | warn | count | gaugeSessions =>
    exact ⟨rfl, rfl, rfl, rfl⟩

theorem now_perform (c : Cluster) (host : Nat) (e : Effect) :
    (c.perform host e).2.now = c.now :=
  (perform_parts c host e).1

theorem store_perform (c : Cluster) (host : Nat) (e : Effect) :
    (c.perform host e).2.store =
      match e with
      | .store call => (c.store.call c.now call).2
      | _ => c.store :=
  (perform_parts c host e).2.1

theorem bus_perform (c : Cluster) (host : Nat) (e : Effect) :
    (c.perform host e).2.bus =
      match e with
      | .publish topic frame => (c.bus.publish topic frame).2
      | _ => c.bus :=
  (perform_parts c host e).2.2.1

theorem queues_perform (c : Cluster) (host : Nat) (e : Effect) :
    (c.perform host e).2.queues =
      match e with
      | .offer session item => (c.offer session item).2.queues
      | _ => c.queues :=
  (perform_parts c host e).2.2.2

/-- No step brings a client who has left back, or makes one leave. -/
theorem isOpen_perform (c : Cluster) (host : Nat) (e : Effect) (session : SessionHandle) :
    (c.perform host e).2.isOpen session = c.isOpen session := by
  rw [isOpen, isOpen, queues_perform]
  cases e with
  | offer other item =>
    rcases c.offer_cases other item with ⟨_, hoffer⟩ | ⟨box, hbox, hoffer⟩
    · simp only [hoffer]
    · simp only [hoffer, Table.find?_insert]
      by_cases hqueue : session.queue = other.queue
      · rw [if_pos hqueue, hqueue, hbox]
        rfl
      · rw [if_neg hqueue]
  | publish | store | clock | postmark | spareId | insertSession | findSession | removeSession
  | removeSessionIf | listSessions | countSessions | isOpen | lifecycle | comeAlive | stop
  | setReady | warn | count | gaugeSessions => rfl

/-- A client who leaves makes no other one come. -/
theorem isOpen_of_hangUp {c : Cluster} {queue : Nat} {session : SessionHandle}
    (h : (c.updateQueue queue Mailbox.closeReceiver).isOpen session = true) :
    c.isOpen session = true := by
  simp only [isOpen, updateQueue, Table.find?_update] at h ⊢
  split at h
  · cases hbox : c.queues.find? session.queue with
    | none =>
      rw [hbox] at h
      exact absurd h Bool.false_ne_true
    | some box =>
      rw [hbox] at h
      exact absurd h Bool.false_ne_true
  · exact h

/-- No step changes whether the store can answer. -/
theorem fault_perform (c : Cluster) (host : Nat) (e : Effect) :
    (c.perform host e).2.store.fault = c.store.fault := by
  rw [store_perform]
  cases e with
  | store call =>
    simp only [MemoryStore.call]
    cases hfault : c.store.fault with
    | none => exact hfault
    | some e => exact hfault
  | publish | removeSessionIf | offer | comeAlive | clock | postmark | spareId | insertSession
  | findSession | removeSession | listSessions | countSessions | isOpen | lifecycle | stop
  | setReady | warn | count | gaugeSessions => rfl

/-- No step puts anybody into a set twice. -/
theorem setsNodup_perform {c : Cluster} (host : Nat) (e : Effect)
    (h : c.store.slots.SetsNodup) : (c.perform host e).2.store.slots.SetsNodup := by
  rw [store_perform]
  cases e with
  | store call => exact h.storeCall c.now call
  | publish | removeSessionIf | offer | comeAlive | clock | postmark | spareId | insertSession
  | findSession | removeSession | listSessions | countSessions | isOpen | lifecycle | stop
  | setReady | warn | count | gaugeSessions => exact h

end Cluster

end ChatCluster
