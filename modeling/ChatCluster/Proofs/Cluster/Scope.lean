import ChatCluster.Proofs.Instance.Footprint
import ChatCluster.Proofs.Liveness.Reaping
import Mathlib.Data.List.Sort

/-!
# Scopes

What an operation can be influenced by, and what it can influence. A scope consists of some keys of
the store and, if need be, of the sessions and the state of the instances, with or without a say in
who comes and goes. An operation that is confined to a scope looks at nothing else and changes
nothing else, so clusters that are alike in the scope are answered alike, and one that is confined
to another scope apart from it makes no difference (`Confined.alike`, `Confined.alike_of_apart`).

Listing keys looks at many of them at once. It is in scope if all keys that begin in that way are,
whether there are any or not. What is listed then begins in that way too, and that is all that an
operation has to know about the keys it is told of.

Reports are written by everybody and read by nobody, so they are in no scope. Clocks are in every
scope: they are read by everybody and changed by nobody.

## Main definitions

* `Scope`, `Scope.Apart`: What may be looked at and changed.
* `Alike`: What looks the same in a scope.
* `Confined`: An operation that keeps to a scope.

## Theorems

* `Slots.call_congr`: The store answers by what is visible at the keys that a call is about.
* `Alike.reply`, `Alike.perform`, `Alike.perform_left`: Single steps.
* `Confined.alike`: Operations in scope.
* `Confined.alike_of_apart`: Operations in a scope apart.
-/

namespace ChatCluster

/-- Some keys of the store, and perhaps the sessions and the state of the instances. -/
structure Scope where
  /-- The keys. -/
  keys : String → Prop
  /-- The sessions and the state of the instances are in it as well. -/
  sessions : Prop
  /-- Sessions may come and go. -/
  traffic : Prop

/-- The scopes have nothing in common. -/
def Scope.Apart (scope other : Scope) : Prop :=
  (∀ key, scope.keys key → ¬other.keys key) ∧ ¬(scope.sessions ∧ other.sessions)

/-- The call is about the given keys. -/
def StoreCall.KeepsTo (keys : String → Prop) : StoreCall → Prop
  | .get key | .set key _ _ | .delete key | .expire key _ | .addMember key _ | .removeMember key _
  | .members key => keys key
  | .keys start => ∀ rest, keys (start ++ rest)

/-- The step looks at what is in a scope, and changes nothing else. -/
def Effect.KeepsTo (scope : Scope) : Effect → Prop
  | .store call => call.KeepsTo scope.keys
  | .clock | .warn _ | .count _ _ => True
  | .insertSession _ | .removeSession _ | .removeSessionIf _ _ => scope.sessions ∧ scope.traffic
  | .findSession _ | .listSessions | .countSessions | .isOpen _ | .lifecycle | .comeAlive | .stop
  | .setReady _ | .gaugeSessions _ => scope.sessions
  | .publish _ _ | .postmark | .spareId | .offer _ _ => False

/-- The rules of keeping to a scope. There is nothing to remember. -/
def keepingTo (scope : Scope) : Rules Unit where
  allows _ e := e.KeepsTo scope
  possible
    | .store (.keys start), reply => ∀ listed, reply = .ok listed →
      ∀ key ∈ listed, ∃ rest, key = start ++ rest
    | _, _ => True
  after _ _ _ := ()

/-- The operation keeps to a scope. -/
def Confined {α : Type} (scope : Scope) (op : Operation α) : Prop :=
  (keepingTo scope).Obeys () op fun _ _ => True

/-- What the clock of an instance shows, if the instance is there. -/
def Cluster.clock? (c : Cluster) (host : Nat) : Option Int64 :=
  (c.hosts.find? host).map Host.clock

/-- Two clusters with stores that answer look the same in a scope. -/
structure Alike (scope : Scope) (c d : Cluster) : Prop where
  healthy : c.store.fault = none
  healthy' : d.store.fault = none
  now : c.now = d.now
  clocks : c.clock? = d.clock?
  seen : ∀ key, scope.keys key → c.seen key = d.seen key
  sessions : scope.sessions → c.hosts = d.hosts ∧ c.queues = d.queues

theorem Alike.refl (scope : Scope) {c : Cluster} (h : c.store.fault = none) : Alike scope c c :=
  ⟨h, h, rfl, rfl, fun _ _ => rfl, fun _ => ⟨rfl, rfl⟩⟩

/-! ## The store -/

/-- Texts are listed in one order only. -/
theorem sortTexts_congr {texts others : List String} (h : texts.Perm others) :
    sortTexts texts = sortTexts others := by
  have hsorted : ∀ some : List String, (sortTexts some).Pairwise (· ≤ ·) :=
    fun some => List.pairwise_mergeSort' (· ≤ ·) some
  refine List.Perm.eq_of_pairwise' (hsorted texts) (hsorted others) ?_
  exact (sortTexts_perm texts).trans (h.trans (sortTexts_perm others).symm)

namespace Slots

variable {slots others : Slots} {now : Nat} {keys : String → Prop}

theorem visibleKeys_perm {start : String}
    (h : ∀ rest, slots.visible now (start ++ rest) = others.visible now (start ++ rest)) :
    (slots.visibleKeys now start).Perm (others.visibleKeys now start) := by
  refine (List.perm_ext_iff_of_nodup (nodup_visibleKeys _ _ _) (nodup_visibleKeys _ _ _)).2
    fun key => ?_
  rw [mem_visibleKeys_iff, mem_visibleKeys_iff]
  refine and_congr_left fun hstart => ?_
  rcases Text.exists_of_startsWith hstart with ⟨rest, rfl⟩
  rw [h rest]

/-- What a call leaves at its own key depends on what it has found there. -/
theorem visible_call_self {call : StoreCall} {key : String} (hcall : call.writes? = some key)
    (h : slots.visible now key = others.visible now key) :
    (slots.call now call).2.visible now key = (others.call now call).2.visible now key := by
  cases call with
  | get | keys | members => cases hcall
  | set written value ttl =>
    cases hcall
    rw [visible_set, visible_set, Function.update_self, Function.update_self]
  | delete written =>
    cases hcall
    rw [visible_delete, visible_delete, Function.update_self, Function.update_self]
  | expire written ttl =>
    cases hcall
    rw [visible_expire, visible_expire, Function.update_self, Function.update_self, h]
  | addMember written member =>
    cases hcall
    simp only [call, find?_sweep_self, h]
    cases others.visible now key <;>
      simp only [visible_insert, visible_sweep, Function.update_self]
  | removeMember written member =>
    cases hcall
    simp only [call, find?_sweep_self, h]
    split
    · split <;> simp only [visible_insert, visible_erase, visible_sweep, Function.update_self]
    · rw [visible_sweep, visible_sweep, h]

/-- The reply to a call, and what can be seen then, depend on what could be seen before. -/
theorem call_congr {call : StoreCall} (hcall : call.KeepsTo keys)
    (h : ∀ key, keys key → slots.visible now key = others.visible now key) :
    (slots.call now call).1 = (others.call now call).1 ∧
      ∀ key, keys key →
        (slots.call now call).2.visible now key = (others.call now call).2.visible now key := by
  constructor
  · cases call with
    | get key => rw [call_get, call_get, h key hcall]
    | delete key => rw [call_delete, call_delete, h key hcall]
    | expire key ttl => rw [call_expire, call_expire, h key hcall]
    | keys start =>
      exact sortTexts_congr (visibleKeys_perm fun rest => h _ (hcall rest))
    | members key => simp only [call, find?_sweep_self, h key hcall]
    | set | addMember | removeMember => rfl
  · intro key hkey
    by_cases hwrites : call.writes? = some key
    · exact visible_call_self hwrites (h key hkey)
    · rw [visible_call_of_ne _ _ call hwrites, visible_call_of_ne _ _ call hwrites, h key hkey]

end Slots

/-! ## Steps -/

namespace Cluster

theorem clock?_updateHost (c : Cluster) (host : Nat) {f : Host → Host}
    (hf : ∀ h, (f h).clock = h.clock) : (c.updateHost host f).clock? = c.clock? := by
  funext other
  simp only [clock?, updateHost, Table.find?_update]
  split
  · next heq => simp only [heq, Option.map_map, Function.comp_def, hf]
  · rfl

/-- No step changes what clocks show. -/
theorem clock?_perform (c : Cluster) (host : Nat) (e : Effect) :
    (c.perform host e).2.clock? = c.clock? := by
  cases e with
  | publish topic frame =>
    simp only [perform, publish]
    split <;> rfl
  | offer session item =>
    simp only [perform, offer]
    split
    · rfl
    · split <;> rfl
  | removeSessionIf user id =>
    simp only [perform]
    split
    · rfl
    · split
      · exact c.clock?_updateHost host fun _ => rfl
      · rfl
  | comeAlive =>
    simp only [perform]
    split
    · exact c.clock?_updateHost host fun _ => rfl
    · rfl
  | insertSession | removeSession | stop | setReady => exact c.clock?_updateHost host fun _ => rfl
  | store | clock | postmark | spareId | findSession | listSessions | countSessions | isOpen
  | lifecycle | warn | count | gaugeSessions => rfl

theorem clock?_runAlone {α : Type} (c : Cluster) (host : Nat) (op : Operation α) :
    (c.runAlone host op).2.clock? = c.clock? := by
  induction op generalizing c with
  | done a => rfl
  | ask e next ih => exact (ih _ _).trans (clock?_perform c host e)

end Cluster

section Steps

open Cluster

variable {scope other : Scope} {c d : Cluster} {e : Effect} {host : Nat}

theorem possible_perform (scope : Scope) (c : Cluster) (host : Nat) (e : Effect) :
    (keepingTo scope).possible e (c.perform host e).1 := by
  cases e with
  | store call =>
    cases call with
    | keys start =>
      intro listed hlisted key hkey
      simp only [perform, MemoryStore.call] at hlisted
      cases hfault : c.store.fault with
      | some e =>
        simp only [hfault] at hlisted
        cases hlisted
      | none =>
        simp only [hfault] at hlisted
        obtain rfl := Except.ok.inj hlisted
        have hmem := (Slots.keys_call_perm c.store.slots c.now start).mem_iff.1 hkey
        exact Text.exists_of_startsWith ((Slots.mem_visibleKeys_iff _ _).1 hmem).2
    | get | set | delete | expire | addMember | removeMember | members => trivial
  | publish | clock | postmark | spareId | insertSession | findSession | removeSession
  | removeSessionIf | listSessions | countSessions | isOpen | offer | lifecycle | comeAlive | stop
  | setReady | warn | count | gaugeSessions => trivial

/-- What a step does to the sessions depends on nothing else. -/
theorem perform_sessions_congr (he : e.KeepsTo scope) (hosts : c.hosts = d.hosts)
    (queues : c.queues = d.queues) :
    (c.perform host e).2.hosts = (d.perform host e).2.hosts ∧
      (c.perform host e).2.queues = (d.perform host e).2.queues := by
  cases c
  cases d
  subst hosts queues
  cases e with
  | publish | postmark | spareId | offer => cases he
  | removeSessionIf user id =>
    simp only [perform, directory]
    split
    · exact ⟨rfl, rfl⟩
    · split <;> exact ⟨rfl, rfl⟩
  | comeAlive =>
    simp only [perform]
    split <;> exact ⟨rfl, rfl⟩
  | store | clock | insertSession | findSession | removeSession | listSessions | countSessions
  | isOpen | lifecycle | stop | setReady | warn | count | gaugeSessions => exact ⟨rfl, rfl⟩

theorem Alike.visible (h : Alike scope c d) {key : String} (hkey : scope.keys key) :
    c.store.slots.visible c.now key = d.store.slots.visible c.now key := by
  have hseen := h.seen key hkey
  rwa [Cluster.seen, Cluster.seen, ← h.now] at hseen

/-- A step in scope is told the same. -/
theorem Alike.reply (h : Alike scope c d) (host : Nat) (he : e.KeepsTo scope) :
    (c.perform host e).1 = (d.perform host e).1 := by
  -- A step about the sessions finds the same sessions in both clusters.
  have hsessions : scope.sessions → ∀ host, c.directory host = d.directory host ∧
      c.hosts.find? host = d.hosts.find? host ∧ ∀ session, c.isOpen session = d.isOpen session := by
    intro hscope host
    rcases h.sessions hscope with ⟨hhosts, hqueues⟩
    simp only [directory, isOpen, hhosts, hqueues, implies_true, and_self]
  cases e with
  | store call =>
    have hreply := (Slots.call_congr he fun _ => h.visible).1
    simp only [perform, MemoryStore.call, h.healthy, h.healthy', ← h.now, hreply]
  | clock => exact congrArg (fun time : Option Int64 => time.getD 0) (congrFun h.clocks host)
  | insertSession session | removeSession user => simp only [perform, (hsessions he.1 host).1]
  | findSession user | listSessions | countSessions => simp only [perform, (hsessions he host).1]
  | removeSessionIf user id =>
    simp only [perform, (hsessions he.1 host).1]
    split
    · rfl
    · split <;> rfl
  | isOpen session => exact (hsessions he host).2.2 session
  | lifecycle => simp only [perform, (hsessions he host).2.1]
  | comeAlive =>
    simp only [perform, (hsessions he host).2.1]
    split <;> rfl
  | stop | setReady | warn | count | gaugeSessions => rfl
  | publish | postmark | spareId | offer => cases he

/-- What can be seen at a key in scope after a step in scope. -/
theorem Alike.seen_perform (h : Alike scope c d) (host : Nat) (he : e.KeepsTo scope) {key : String}
    (hkey : scope.keys key) :
    (c.perform host e).2.seen key = (d.perform host e).2.seen key := by
  cases hwrites : e.writes? with
  | none =>
    have hne : e.writes? ≠ some key := by
      simp only [hwrites, ne_eq, reduceCtorEq, not_false_eq_true]
    rw [seen_perform_of_ne hne, seen_perform_of_ne hne, h.seen key hkey]
  | some written =>
    cases e with
    | store call =>
      have hcall := (Slots.call_congr he fun _ => h.visible).2 key hkey
      simp only [Cluster.seen, perform, MemoryStore.call, h.healthy, h.healthy', ← h.now, hcall]
    | publish | clock | postmark | spareId | insertSession | findSession | removeSession
    | removeSessionIf | listSessions | countSessions | isOpen | offer | lifecycle | comeAlive
    | stop | setReady | warn | count | gaugeSessions => cases hwrites

/-- A step in scope leaves clusters that look the same again. -/
theorem Alike.perform (h : Alike scope c d) (host : Nat) (he : e.KeepsTo scope) :
    Alike scope (c.perform host e).2 (d.perform host e).2 where
  healthy := (fault_perform c host e).trans h.healthy
  healthy' := (fault_perform d host e).trans h.healthy'
  now := by rw [now_perform, now_perform, h.now]
  clocks := by rw [clock?_perform, clock?_perform, h.clocks]
  seen _ hkey := h.seen_perform host he hkey
  sessions hscope := perform_sessions_congr he (h.sessions hscope).1 (h.sessions hscope).2

/-- A step in scope writes to keys in scope. -/
theorem Effect.KeepsTo.writes (he : e.KeepsTo scope) {key : String} (h : e.writes? = some key) :
    scope.keys key := by
  cases e with
  | store call =>
    cases call with
    | get | keys | members => cases h
    | set | delete | expire | addMember | removeMember =>
      cases h
      exact he
  | publish | clock | postmark | spareId | insertSession | findSession | removeSession
  | removeSessionIf | listSessions | countSessions | isOpen | offer | lifecycle | comeAlive
  | stop | setReady | warn | count | gaugeSessions => cases h

/-- A step outside the sessions leaves them as they are. -/
theorem Effect.KeepsTo.sessions (he : e.KeepsTo scope) (hscope : ¬scope.sessions) (c : Cluster)
    (host : Nat) :
    (c.perform host e).2.hosts = c.hosts ∧ (c.perform host e).2.queues = c.queues := by
  cases e with
  | store | clock | warn | count => exact ⟨rfl, rfl⟩
  | insertSession | removeSession | removeSessionIf => exact absurd he.1 hscope
  | findSession | listSessions | countSessions | isOpen | lifecycle | comeAlive | stop | setReady
  | gaugeSessions => exact absurd he hscope
  | publish | postmark | spareId | offer => cases he

/-- A step in a scope apart makes no difference. -/
theorem Alike.perform_left (h : Alike scope c d) (host : Nat) (hapart : other.Apart scope)
    (he : e.KeepsTo other) : Alike scope (c.perform host e).2 d where
  healthy := (fault_perform c host e).trans h.healthy
  healthy' := h.healthy'
  now := (now_perform c host e).trans h.now
  clocks := (clock?_perform c host e).trans h.clocks
  seen key hkey := by
    rw [seen_perform_of_ne (fun hwrites => hapart.1 key (he.writes hwrites) hkey), h.seen key hkey]
  sessions hscope := by
    rcases he.sessions (fun hother => hapart.2 ⟨hother, hscope⟩) c host with ⟨hhosts, hqueues⟩
    rw [hhosts, hqueues]
    exact h.sessions hscope

end Steps

/-! ## Operations -/

section Operations

open Operation

variable {α β : Type} {scope other : Scope} {c d : Cluster} {op : Operation α}

/-- An operation in scope has the same result, and what it leaves looks the same again. -/
theorem Confined.alike (h : Confined scope op) (host : Nat) (halike : Alike scope c d) :
    (c.runAlone host op).1 = (d.runAlone host op).1 ∧
      Alike scope (c.runAlone host op).2 (d.runAlone host op).2 := by
  induction op generalizing c d with
  | done a => exact ⟨rfl, halike⟩
  | ask e next ih =>
    have hrest := ih _ (h.2 _ (possible_perform scope c host e)) (halike.perform host h.1)
    rw [halike.reply host h.1] at hrest
    simp only [Cluster.runAlone, halike.reply host h.1]
    exact hrest

/-- An operation in a scope apart makes no difference. -/
theorem Confined.alike_of_apart (h : Confined other op) (host : Nat) (hapart : other.Apart scope)
    (halike : Alike scope c d) : Alike scope (c.runAlone host op).2 d := by
  induction op generalizing c with
  | done a => exact halike
  | ask e next ih =>
    exact ih _ (h.2 _ (possible_perform other c host e)) (halike.perform_left host hapart h.1)

theorem confined_pure (a : α) : Confined scope (pure a : Operation α) := trivial

theorem confined_bind {f : α → Operation β} (h : Confined scope op)
    (hf : ∀ a, Confined scope (f a)) : Confined scope (op >>= f) :=
  Rules.obeys_bind h fun _ a _ => hf a

theorem confined_perform {e : Effect} (h : e.KeepsTo scope) : Confined scope (perform e) :=
  Rules.obeys_perform h fun _ _ => trivial

theorem confined_store {call : StoreCall} (h : call.KeepsTo scope.keys) :
    Confined scope (store call) :=
  confined_perform h

theorem confined_warn (w : Warning) : Confined scope (warn w) := confined_perform trivial

theorem confined_count (m : Metric) : Confined scope (count m) := confined_perform trivial

end Operations

end ChatCluster
