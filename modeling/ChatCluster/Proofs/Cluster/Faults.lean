import ChatCluster.Proofs.Cluster.Alone

/-!
# Operations in a Store That Fails

A store may fail at any call and answer the next one. Which calls fail is a plan that is fixed
before the operation begins and that the operation cannot see. A call that fails may have been
carried out all the same, where it is only the answer that did not get through. `Cluster.runUnder`
runs an operation under such a plan, with nothing else in between. It agrees with
`Cluster.runAlone` where the plan says of every call what the store itself would say.

Much of what an instance does gives up at the first failure and hands it on. For these operations
no plan has to be looked at: they either end well, or stop at some call with the work half done.
`Cluster.Attempts` says both, and passes from the parts of an operation to the whole.

## Main definitions

* `CallFault`, `Faults`: How a call fails, and which calls do.
* `Cluster.runUnder`: A whole operation under a plan of failures.
* `Cluster.Attempts`: The operation ends well or gives up at the first failure.

## Theorems

* `Cluster.runUnder_bind`: One operation after another.
* `Cluster.runUnder_ownFaults`: A store that always does the same.
* `Cluster.attempts_bind`, `Cluster.attempts_store`: Wholes and parts.
-/

namespace ChatCluster

/-- How a call fails. -/
structure CallFault where
  /-- What the caller is told. -/
  error : StoreError
  /-- The call was carried out all the same. -/
  tookEffect : Bool

/-- Which of the calls to come fail, and how: the first one has the number zero. -/
abbrev Faults := Nat → Option CallFault

/-- The plan for the calls after the next one. -/
def Faults.next (faults : Faults) : Faults :=
  fun n => faults (n + 1)

/-- What has come of an operation. -/
structure Ending (α : Type) where
  /-- Its result. -/
  result : α
  /-- The cluster as it is then. -/
  cluster : Cluster
  /-- The failures that were met, first one first. -/
  failures : List StoreError
  /-- The plan for the calls to come. -/
  faults : Faults

/-- The same, with failures that were met before. -/
def Ending.after {α : Type} (failures : List StoreError) (r : Ending α) : Ending α :=
  { r with failures := failures ++ r.failures }

namespace Cluster

variable {α β : Type} (host : Nat)

/-- One step, where a call to the store may fail. -/
def attempt (c : Cluster) (faults : Faults) : (e : Effect) → Ending e.Reply
  | .store call =>
    let (result, slots) := c.store.slots.call c.now call
    match faults 0 with
    | some fault =>
      { result := .error fault.error,
        cluster := if fault.tookEffect then c.withSlots slots else c,
        failures := [fault.error], faults := faults.next }
    | none =>
      { result := .ok result, cluster := c.withSlots slots, failures := [], faults := faults.next }
  | e =>
    let (result, cluster) := c.perform host e
    { result, cluster, failures := [], faults }

/-- A whole operation with nothing in between, where calls to the store may fail. -/
def runUnder : Operation α → Faults → Cluster → Ending α
  | .done a, faults, c => { result := a, cluster := c, failures := [], faults }
  | .ask e next, faults, c =>
    let step := c.attempt host faults e
    (runUnder (next step.result) step.faults step.cluster).after step.failures

theorem runUnder_perform (e : Effect) (faults : Faults) (c : Cluster) :
    runUnder host (Operation.perform e) faults c = c.attempt host faults e := by
  rw [Operation.perform, Program.request, runUnder]
  simp only [runUnder, Ending.after, List.append_nil]

/-- What comes second meets the failures that are left. -/
theorem runUnder_bind (p : Operation α) (f : α → Operation β) (faults : Faults) (c : Cluster) :
    runUnder host (p >>= f) faults c =
      (runUnder host (f (runUnder host p faults c).result) (runUnder host p faults c).faults
        (runUnder host p faults c).cluster).after (runUnder host p faults c).failures := by
  induction p generalizing faults c with
  | done a => rfl
  | ask e next ih =>
    rw [Program.ask_bind, runUnder, ih]
    simp only [runUnder, Ending.after, List.append_assoc]

/-- The plan for a store as it is, which fails before it does anything. -/
def ownFaults (c : Cluster) : Faults :=
  fun _ => c.store.fault.map fun error => { error, tookEffect := false }

/-- A store that says the same to every call is the store as it is. -/
theorem runUnder_ownFaults (op : Operation α) (c : Cluster) :
    (runUnder host op c.ownFaults c).result = (runAlone host op c).1 ∧
      (runUnder host op c.ownFaults c).cluster = (runAlone host op c).2 := by
  induction op generalizing c with
  | done a => exact ⟨rfl, rfl⟩
  | ask e next ih =>
    -- One step under this plan is one step of the cluster, and the plan stays the same.
    have hstep : c.attempt host c.ownFaults e =
        { result := (c.perform host e).1, cluster := (c.perform host e).2,
          failures := (c.attempt host c.ownFaults e).failures, faults := c.ownFaults } := by
      cases e with
      | store call =>
        simp only [attempt, ownFaults, perform, MemoryStore.call]
        cases hfault : c.store.fault <;> rfl
      | publish | clock | postmark | spareId | insertSession | findSession | removeSession
      | removeSessionIf | listSessions | countSessions | isOpen | offer | lifecycle | comeAlive
      | stop | setReady | warn | count | gaugeSessions => rfl
    have hplan : (c.perform host e).2.ownFaults = c.ownFaults := by
      funext n
      simp only [ownFaults, fault_perform]
    have hrest := ih (c.perform host e).1 (c.perform host e).2
    rw [hplan] at hrest
    rw [runUnder, hstep]
    exact hrest

theorem failures_runUnder_none (op : Operation α) (c : Cluster) :
    (runUnder host op (fun _ => none) c).failures = [] := by
  induction op generalizing c with
  | done a => rfl
  | ask e next ih =>
    have hstep : (c.attempt host (fun _ => none) e).failures = [] ∧
        (c.attempt host (fun _ => none) e).faults = fun _ => none := by
      cases e <;> exact ⟨rfl, rfl⟩
    rw [runUnder]
    simp only [Ending.after, hstep.1, hstep.2, List.nil_append]
    exact ih _ _

theorem faults_runUnder_none (op : Operation α) (c : Cluster) :
    (runUnder host op (fun _ => none) c).faults = fun _ => none := by
  induction op generalizing c with
  | done a => rfl
  | ask e next ih =>
    have hstep : (c.attempt host (fun _ => none) e).faults = fun _ => none := by
      cases e <;> rfl
    rw [runUnder]
    simp only [Ending.after, hstep]
    exact ih _ _

/-! ## Giving up at the first failure -/

/-- However calls fail, the operation either ends well, having met no failure, or gives up at the
    first one, hands it on, and leaves its work half done. -/
def Attempts (p : Operation (Except StoreError α)) (c : Cluster) (done : α → Cluster → Prop)
    (halfDone : Cluster → Prop) : Prop :=
  ∀ faults,
    (∃ a, (runUnder host p faults c).result = .ok a ∧ (runUnder host p faults c).failures = [] ∧
      done a (runUnder host p faults c).cluster) ∨
    ∃ e, (runUnder host p faults c).result = .error e ∧
      (runUnder host p faults c).failures = [e] ∧ halfDone (runUnder host p faults c).cluster

variable {host} {c : Cluster} {done : α → Cluster → Prop} {halfDone : Cluster → Prop}

theorem attempts_pure {a : α} (h : done a c) :
    Attempts host (pure (.ok a)) c done halfDone :=
  fun _ => Or.inl ⟨a, rfl, rfl, h⟩

/-- A call is answered, or leaves the cluster alone, or is carried out without an answer. -/
theorem attempts_store {call : StoreCall} {done : call.Result → Cluster → Prop}
    (hdone : done (c.store.slots.call c.now call).1
      (c.withSlots (c.store.slots.call c.now call).2)) (hhalf : halfDone c)
    (hlost : halfDone (c.withSlots (c.store.slots.call c.now call).2)) :
    Attempts host (Operation.store call) c done halfDone := by
  intro faults
  rw [Operation.store, runUnder_perform, attempt]
  cases hfault : faults 0 with
  | none => exact Or.inl ⟨_, rfl, rfl, hdone⟩
  | some fault =>
    refine Or.inr ⟨fault.error, rfl, rfl, ?_⟩
    cases htook : fault.tookEffect with
    | false => simpa only [htook, Bool.false_eq_true, if_false] using hhalf
    | true => simpa only [htook, if_true] using hlost

theorem attempts_perform {e : Effect} {f : e.Reply → Operation (Except StoreError α)}
    (he : ∀ call, e ≠ .store call)
    (h : Attempts host (f (c.perform host e).1) (c.perform host e).2 done halfDone) :
    Attempts host (Operation.perform e >>= f) c done halfDone := by
  intro faults
  have hstep : c.attempt host faults e =
      { result := (c.perform host e).1, cluster := (c.perform host e).2, failures := [],
        faults } := by
    cases e with
    | store call => exact absurd rfl (he call)
    | publish | clock | postmark | spareId | insertSession | findSession | removeSession
    | removeSessionIf | listSessions | countSessions | isOpen | offer | lifecycle | comeAlive
    | stop | setReady | warn | count | gaugeSessions => rfl
  rw [runUnder_bind, runUnder_perform, hstep]
  exact h faults

/-- What comes second begins where the first has ended well, and is not begun otherwise. -/
theorem attempts_bind {p : Operation (Except StoreError α)}
    {f : Except StoreError α → Operation (Except StoreError β)} {goal : β → Cluster → Prop}
    (h : Attempts host p c done halfDone) (hfail : ∀ e, f (.error e) = pure (.error e))
    (hf : ∀ a c', done a c' → Attempts host (f (.ok a)) c' goal halfDone) :
    Attempts host (p >>= f) c goal halfDone := by
  intro faults
  rw [runUnder_bind]
  rcases h faults with ⟨a, hresult, hfailures, hdone⟩ | ⟨e, hresult, hfailures, hhalf⟩
  · rw [hresult, hfailures]
    exact hf a _ hdone _
  · rw [hresult, hfailures, hfail]
    exact Or.inr ⟨e, rfl, rfl, hhalf⟩

theorem Attempts.mono {p : Operation (Except StoreError α)} {goal : α → Cluster → Prop}
    {weaker : Cluster → Prop} (h : Attempts host p c done halfDone)
    (hdone : ∀ a c', done a c' → goal a c') (hhalf : ∀ c', halfDone c' → weaker c') :
    Attempts host p c goal weaker := by
  intro faults
  rcases h faults with ⟨a, hresult, hfailures, hend⟩ | ⟨e, hresult, hfailures, hend⟩
  · exact Or.inl ⟨a, hresult, hfailures, hdone a _ hend⟩
  · exact Or.inr ⟨e, hresult, hfailures, hhalf _ hend⟩

theorem Attempts.runAlone {p : Operation (Except StoreError α)}
    (h : Attempts host p c done halfDone) (hhealthy : c.store.fault = none) :
    ∃ a, (runAlone host p c).1 = .ok a ∧ done a (runAlone host p c).2 := by
  have hsame := runUnder_ownFaults host p c
  have hplan : c.ownFaults = fun _ => none := by
    funext n
    simp only [ownFaults, hhealthy, Option.map_none]
  rw [hplan] at hsame
  rw [← hsame.1, ← hsame.2]
  rcases h fun _ => none with ⟨a, hresult, _, hdone⟩ | ⟨e, _, hfailures, _⟩
  · exact ⟨a, hresult, hdone⟩
  · exact absurd (hfailures.symm.trans (failures_runUnder_none host p c)) (List.cons_ne_nil e [])

end Cluster

end ChatCluster
