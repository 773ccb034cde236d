import ChatCluster.Proofs.Cluster.Seen

/-!
# Operations While Store and Bus Fail

A call to the store or to the bus may fail without having done anything, and the next one may
succeed. Which calls fail is settled before an operation begins, for the store and for the bus
apart, and the operation cannot see it. `Cluster.runAmid` runs an operation under such outages
with nothing else in between, and writes down what the bus has accepted. A call that does not fail
for that reason is made, and then the store and the bus say what they would always say.

What the bus has accepted is all that happens to it, so a statement about what was written down is
one about the bus.

## Main definitions

* `Outages`: Which calls fail.
* `Upshot`: What has come of an operation.
* `Cluster.runAmid`: A whole operation under outages.
* `Cluster.Undisturbed`: The store shows what it has shown, and the instances are as they were.

## Theorems

* `Cluster.runAmid_bind`: One operation after another.
* `Cluster.runAmid_none`: Without outages.
* `Cluster.bus_runAmid`: The bus has seen what was written down.
-/

namespace ChatCluster

/-- Which of the calls to come fail, having done nothing, those to the store and those to the bus
    counted apart: the first one of each has the number zero. -/
structure Outages where
  /-- What the store says instead of doing what it is asked. -/
  store : Nat → Option StoreError
  /-- What the bus says instead of publishing. -/
  bus : Nat → Option BusError

namespace Outages

/-- No call fails. -/
def none : Outages :=
  { store := fun _ => Option.none, bus := fun _ => Option.none }

/-- The outages after the next call to the store. -/
def afterStore (o : Outages) : Outages :=
  { o with store := fun n => o.store (n + 1) }

/-- The outages after the next call to the bus. -/
def afterBus (o : Outages) : Outages :=
  { o with bus := fun n => o.bus (n + 1) }

end Outages

/-- What has come of an operation. -/
structure Upshot (α : Type) where
  /-- Its result. -/
  result : α
  /-- The cluster as it is then. -/
  cluster : Cluster
  /-- What the bus has accepted, topic and frame, first one first. -/
  published : List (String × Bytes)
  /-- The outages to come. -/
  outages : Outages

/-- The same, when the bus had accepted something before. -/
def Upshot.after {α : Type} (published : List (String × Bytes)) (u : Upshot α) : Upshot α :=
  { u with published := published ++ u.published }

/-- The step calls neither the store nor the bus. -/
def Effect.IsOwn : Effect → Prop
  | .store _ | .publish _ _ => False
  | _ => True

namespace Cluster

variable {α β : Type} (host : Nat)

/-- One step, where a call may fail. -/
def venture (c : Cluster) (o : Outages) : (e : Effect) → Upshot e.Reply
  | .store call =>
    match o.store 0 with
    | some e => { result := .error e, cluster := c, published := [], outages := o.afterStore }
    | none =>
      let (result, cluster) := c.perform host (.store call)
      { result, cluster, published := [], outages := o.afterStore }
  | .publish topic frame =>
    match o.bus 0 with
    | some e => { result := .error e, cluster := c, published := [], outages := o.afterBus }
    | none =>
      match c.publish topic frame with
      | (.error e, cluster) =>
        { result := .error e, cluster, published := [], outages := o.afterBus }
      | (.ok (), cluster) =>
        { result := .ok (), cluster, published := [(topic, frame)], outages := o.afterBus }
  | e =>
    let (result, cluster) := c.perform host e
    { result, cluster, published := [], outages := o }

/-- A whole operation with nothing in between, where calls may fail. -/
def runAmid : Operation α → Outages → Cluster → Upshot α
  | .done a, o, c => { result := a, cluster := c, published := [], outages := o }
  | .ask e next, o, c =>
    let step := c.venture host o e
    (runAmid (next step.result) step.outages step.cluster).after step.published

@[simp] theorem runAmid_pure (a : α) (o : Outages) (c : Cluster) :
    runAmid host (pure a : Operation α) o c =
      { result := a, cluster := c, published := [], outages := o } := rfl

theorem runAmid_perform (e : Effect) (o : Outages) (c : Cluster) :
    runAmid host (Operation.perform e) o c = c.venture host o e := by
  rw [Operation.perform, Program.request, runAmid]
  simp only [runAmid, Upshot.after, List.append_nil]

/-- What comes second starts where what comes first has ended, and meets the outages to come. -/
theorem runAmid_bind (p : Operation α) (f : α → Operation β) (o : Outages) (c : Cluster) :
    runAmid host (p >>= f) o c =
      (runAmid host (f (runAmid host p o c).result) (runAmid host p o c).outages
        (runAmid host p o c).cluster).after (runAmid host p o c).published := by
  induction p generalizing o c with
  | done a => rfl
  | ask e next ih =>
    rw [Program.ask_bind, runAmid, ih]
    simp only [runAmid, Upshot.after, List.append_assoc]

/-- A step that is no call cannot fail. -/
theorem venture_of_isOwn {e : Effect} (h : e.IsOwn) (o : Outages) (c : Cluster) :
    c.venture host o e =
      { result := (c.perform host e).1, cluster := (c.perform host e).2, published := [],
        outages := o } := by
  cases e with
  | store | publish => exact absurd h id
  | clock | postmark | spareId | insertSession | findSession | removeSession | removeSessionIf
  | listSessions | countSessions | isOpen | offer | lifecycle | comeAlive | stop | setReady | warn
  | count | gaugeSessions => rfl

theorem runAmid_own_bind {e : Effect} (h : e.IsOwn) (f : e.Reply → Operation α) (o : Outages)
    (c : Cluster) :
    runAmid host (Operation.perform e >>= f) o c =
      runAmid host (f (c.perform host e).1) o (c.perform host e).2 := by
  rw [runAmid_bind, runAmid_perform, venture_of_isOwn host h]
  rfl

/-- Where no call fails, an operation runs as it does alone. -/
theorem runAmid_none (op : Operation α) (c : Cluster) :
    (runAmid host op .none c).result = (runAlone host op c).1 ∧
      (runAmid host op .none c).cluster = (runAlone host op c).2 := by
  induction op generalizing c with
  | done a => exact ⟨rfl, rfl⟩
  | ask e next ih =>
    have hstep : (c.venture host .none e).result = (c.perform host e).1 ∧
        (c.venture host .none e).cluster = (c.perform host e).2 ∧
        (c.venture host .none e).outages = .none := by
      cases e with
      | publish topic frame =>
        simp only [venture, Outages.none, perform]
        rcases c.publish topic frame with ⟨⟨⟩ | ⟨⟩, after⟩ <;> exact ⟨rfl, rfl, rfl⟩
      | store | clock | postmark | spareId | insertSession | findSession | removeSession
      | removeSessionIf | listSessions | countSessions | isOpen | offer | lifecycle | comeAlive
      | stop | setReady | warn | count | gaugeSessions => exact ⟨rfl, rfl, rfl⟩
    rw [runAmid, runAlone]
    simp only [Upshot.after, hstep.1, hstep.2.1, hstep.2.2]
    exact ih _ _

/-! ## What the bus has seen -/

/-- The bus after some publications. -/
def busAfter (bus : MemoryBus) (published : List (String × Bytes)) : MemoryBus :=
  published.foldl (fun bus p => (bus.publish p.1 p.2).2) bus

/-- A bus that is not marked unavailable accepts a frame, and nothing else changes but reports. -/
theorem publish_cases (c : Cluster) (topic : String) (frame : Bytes) :
    (c.bus.unavailable = true ∧ ∃ e, c.publish topic frame = (.error e, c)) ∨
      (c.bus.unavailable = false ∧ ∃ reports, c.publish topic frame =
        (.ok (), { c with bus := (c.bus.publish topic frame).2, reports })) := by
  rw [publish, MemoryBus.publish]
  cases hunavailable : c.bus.unavailable with
  | true => exact Or.inl ⟨rfl, _, rfl⟩
  | false => exact Or.inr ⟨rfl, _, rfl⟩

theorem busAfter_append (bus : MemoryBus) (published more : List (String × Bytes)) :
    busAfter bus (published ++ more) = busAfter (busAfter bus published) more :=
  List.foldl_append

theorem bus_venture (e : Effect) (o : Outages) (c : Cluster) :
    (c.venture host o e).cluster.bus = busAfter c.bus (c.venture host o e).published := by
  cases e with
  | store call =>
    rw [venture]
    cases o.store 0 with
    | some e => rfl
    | none => exact bus_perform c host (.store call)
  | publish topic frame =>
    rw [venture]
    cases o.bus 0 with
    | some e => rfl
    | none =>
      rcases publish_cases c topic frame with ⟨_, e, hfails⟩ | ⟨_, reports, haccepted⟩
      · simp only [hfails]
        rfl
      · simp only [haccepted]
        rfl
  | clock | postmark | spareId | insertSession | findSession | removeSession | removeSessionIf
  | listSessions | countSessions | isOpen | offer | lifecycle | comeAlive | stop | setReady | warn
  | count | gaugeSessions =>
    rw [venture_of_isOwn]
    · exact bus_perform c host _
    · trivial

/-- Nothing has happened to the bus but what was written down. -/
theorem bus_runAmid (op : Operation α) (o : Outages) (c : Cluster) :
    (runAmid host op o c).cluster.bus = busAfter c.bus (runAmid host op o c).published := by
  induction op generalizing o c with
  | done a => rfl
  | ask e next ih =>
    rw [runAmid]
    simp only [Upshot.after]
    rw [ih, bus_venture, busAfter_append]

/-! ## Calls to the store -/

/-- The next call to the store is answered. -/
structure StoreAnswers (c : Cluster) (o : Outages) : Prop where
  /-- It does not fail. -/
  call : o.store 0 = none
  /-- The store is not marked unavailable or stalled. -/
  healthy : c.store.fault = none

theorem runAmid_store {c : Cluster} {o : Outages} (h : c.StoreAnswers o) (call : StoreCall) :
    runAmid host (Operation.store call) o c =
      { result := .ok (c.store.slots.call c.now call).1
        cluster := c.withSlots (c.store.slots.call c.now call).2
        published := [], outages := o.afterStore } := by
  have halone := runAlone_store host call h.healthy
  rw [Operation.store, runAlone_perform] at halone
  rw [Operation.store, runAmid_perform, venture]
  simp only [h.call, halone]

/-- A call to the store that is not answered has done nothing. -/
theorem runAmid_store_of_not {c : Cluster} {o : Outages} (h : ¬c.StoreAnswers o)
    (call : StoreCall) :
    ∃ e, runAmid host (Operation.store call) o c =
      { result := .error e, cluster := c, published := [], outages := o.afterStore } := by
  rw [Operation.store, runAmid_perform, venture]
  cases hcall : o.store 0 with
  | some e => exact ⟨e, rfl⟩
  | none =>
    cases hfault : c.store.fault with
    | none => exact absurd ⟨hcall, hfault⟩ h
    | some e =>
      have halone := runAlone_store_of_fault host call hfault
      rw [Operation.store, runAlone_perform] at halone
      refine ⟨e, ?_⟩
      simp only [halone]

/-! ## What is not disturbed -/

/-- The store shows what it has shown, and the instances are as they were. -/
structure Undisturbed (c after : Cluster) : Prop where
  seen : after.seen = c.seen
  hosts : after.hosts = c.hosts

theorem Undisturbed.refl (c : Cluster) : c.Undisturbed c :=
  ⟨rfl, rfl⟩

theorem Undisturbed.trans {a b c : Cluster} (h : a.Undisturbed b) (h' : b.Undisturbed c) :
    a.Undisturbed c :=
  ⟨h'.seen.trans h.seen, h'.hosts.trans h.hosts⟩

end Cluster

end ChatCluster
