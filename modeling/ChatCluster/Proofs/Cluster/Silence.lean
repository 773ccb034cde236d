import ChatCluster.Proofs.Cluster.Interleaving
import ChatCluster.Proofs.Cluster.Outages
import ChatCluster.Proofs.Cluster.Scope

/-!
# Nobody Reads Reports

What has been reported has no bearing on what follows. Two clusters that differ in nothing but their
reports answer every step alike, and differ in nothing but their reports afterwards. The same goes
for whole operations, with whatever outages they meet. So whoever wants to know what a cluster will
do may look at the silenced one.

An operation that keeps to a scope without sessions changes nothing but what is stored at the keys
of the scope, and what has been reported.

## Main definitions

* `Cluster.silenced`, `Upshot.silenced`: With nothing reported.
* `Cluster.ChangedAt`: Nothing has changed but what is stored at some keys.

## Theorems

* `Cluster.perform_silenced`, `Cluster.runAmid_silenced`, `Cluster.befall_silenced`: Reports have no
  bearing.
* `Cluster.changedAt_runAmid`: What an operation that keeps to some keys leaves as it was.
-/

namespace ChatCluster

/-- The cluster with nothing reported. -/
def Cluster.silenced (c : Cluster) : Cluster :=
  { c with reports := .none }

/-- What has come of an operation, with nothing reported. -/
def Upshot.silenced {α : Type} (u : Upshot α) : Upshot α :=
  { u with cluster := u.cluster.silenced }

namespace Cluster

variable {α : Type} {c d : Cluster} {host : Nat}

theorem eq_of_silenced (h : c.silenced = d.silenced) : d = { c with reports := d.reports } := by
  cases c
  cases d
  rw [silenced, silenced, Cluster.mk.injEq] at h
  rcases h with ⟨rfl, rfl, rfl, rfl, rfl, rfl, rfl, _⟩
  rfl

/-- Whatever has been reported, a step has the same reply and does the same to everything else. -/
theorem perform_reports (c : Cluster) (host : Nat) (e : Effect) (reports : Reports) :
    ∃ reports', ({ c with reports } : Cluster).perform host e =
      ((c.perform host e).1, { (c.perform host e).2 with reports := reports' }) := by
  cases e with
  | publish topic frame =>
    simp only [perform, publish]
    rcases c.bus.publish topic frame with ⟨e | _, bus⟩
    · exact ⟨reports, rfl⟩
    · exact ⟨_, rfl⟩
  | removeSessionIf user id =>
    simp only [perform]
    have hdirectory : ({ c with reports } : Cluster).directory host = c.directory host := rfl
    rw [hdirectory]
    cases (c.directory host).find? user with
    | none => exact ⟨reports, rfl⟩
    | some session =>
      by_cases hid : session.id = id
      · simp only [hid, if_true]
        exact ⟨reports, rfl⟩
      · simp only [hid, if_false]
        exact ⟨reports, rfl⟩
  | offer session item =>
    simp only [perform, offer]
    cases c.queues.find? session.queue with
    | none => exact ⟨reports, rfl⟩
    | some box =>
      cases hoffer : box.offer item with
      | error e =>
        simp only [hoffer]
        exact ⟨reports, rfl⟩
      | ok box' =>
        simp only [hoffer]
        exact ⟨reports, rfl⟩
  | comeAlive =>
    simp only [perform]
    split
    · exact ⟨reports, rfl⟩
    · exact ⟨reports, rfl⟩
  | warn | count | gaugeSessions => exact ⟨_, rfl⟩
  | store | clock | postmark | spareId | insertSession | findSession | removeSession | listSessions
  | countSessions | isOpen | lifecycle | stop | setReady => exact ⟨reports, rfl⟩

theorem perform_silenced (h : c.silenced = d.silenced) (host : Nat) (e : Effect) :
    (c.perform host e).1 = (d.perform host e).1 ∧
      (c.perform host e).2.silenced = (d.perform host e).2.silenced := by
  rw [eq_of_silenced h]
  rcases perform_reports c host e d.reports with ⟨reports, hperform⟩
  rw [hperform]
  exact ⟨rfl, rfl⟩

theorem befall_silenced (o : Outside) (h : c.silenced = d.silenced) :
    (c.befall o).silenced = (d.befall o).silenced := by
  cases o with
  | step other e => exact (perform_silenced h other e).2
  | hangUp | wait | setClock =>
    rw [eq_of_silenced h]
    rfl

theorem venture_silenced (h : c.silenced = d.silenced) (host : Nat) (o : Outages) (e : Effect) :
    (c.venture host o e).silenced = (d.venture host o e).silenced := by
  have hperform := perform_silenced h host e
  have hown : e.IsOwn → (c.venture host o e).silenced = (d.venture host o e).silenced := by
    intro he
    rw [venture_of_isOwn host he, venture_of_isOwn host he, Upshot.silenced, Upshot.silenced,
      hperform.1, hperform.2]
  cases e with
  | store call =>
    simp only [venture]
    cases o.store 0 with
    | some e =>
      simp only [Upshot.silenced, h]
    | none =>
      simp only [Upshot.silenced, hperform.1, hperform.2]
  | publish topic frame =>
    change (c.publish topic frame).1 = (d.publish topic frame).1 ∧
      (c.publish topic frame).2.silenced = (d.publish topic frame).2.silenced at hperform
    simp only [venture]
    cases o.bus 0 with
    | some e =>
      simp only [Upshot.silenced, h]
    | none =>
      rcases hc : c.publish topic frame with ⟨result, after⟩
      rcases hd : d.publish topic frame with ⟨result', after'⟩
      rw [hc, hd] at hperform
      rcases hperform with ⟨rfl, hafter⟩
      cases result <;> simp only [Upshot.silenced, hafter]
  | clock | postmark | spareId | insertSession | findSession | removeSession | removeSessionIf
  | listSessions | countSessions | isOpen | offer | lifecycle | comeAlive | stop | setReady | warn
  | count | gaugeSessions => exact hown trivial

/-- Whatever has been reported, an operation has the same result and does the same to everything
    else. -/
theorem runAmid_silenced (host : Nat) (op : Operation α) (o : Outages)
    (h : c.silenced = d.silenced) :
    (runAmid host op o c).silenced = (runAmid host op o d).silenced := by
  induction op generalizing o c d with
  | done a => simp only [runAmid, Upshot.silenced, h]
  | ask e next ih =>
    have hstep := venture_silenced h host o e
    rw [Upshot.silenced, Upshot.silenced, Upshot.mk.injEq] at hstep
    rcases hstep with ⟨hresult, hcluster, hpublished, houtages⟩
    have hrest := ih (d.venture host o e).result (d.venture host o e).outages hcluster
    rw [Upshot.silenced, Upshot.silenced, Upshot.mk.injEq] at hrest
    rcases hrest with ⟨hresult', hcluster', hpublished', houtages'⟩
    rw [runAmid, runAmid]
    simp only [Upshot.silenced, Upshot.after, hresult, houtages, hpublished, hresult', hcluster',
      hpublished', houtages']

/-! ## What is left as it was -/

/-- Nothing has changed but what is stored at some keys, and what has been reported. -/
structure ChangedAt (keys : String → Prop) (c after : Cluster) : Prop where
  /-- All other keys are seen as before. -/
  seen : ∀ key, ¬keys key → after.seen key = c.seen key
  /-- Everything but the slots of the store and the reports is what it was. -/
  rest : after =
    { c with store := { c.store with slots := after.store.slots }, reports := after.reports }

variable {keys : String → Prop} {scope : Scope}

theorem ChangedAt.refl (keys : String → Prop) (c : Cluster) : ChangedAt keys c c :=
  ⟨fun _ _ => rfl, rfl⟩

theorem ChangedAt.trans {a b c : Cluster} (h : ChangedAt keys a b) (h' : ChangedAt keys b c) :
    ChangedAt keys a c :=
  ⟨fun key hkey => (h'.seen key hkey).trans (h.seen key hkey), h'.rest.trans (by rw [h.rest])⟩

theorem changedAt_perform {e : Effect} (he : e.KeepsTo scope) (hscope : ¬scope.sessions)
    (c : Cluster) (host : Nat) : ChangedAt scope.keys c (c.perform host e).2 := by
  refine ⟨fun key hkey => seen_perform_of_ne (fun hwrites => hkey (he.writes hwrites)) c host, ?_⟩
  cases e with
  | store call =>
    simp only [perform, MemoryStore.call]
    cases c.store.fault <;> rfl
  | clock | warn | count => rfl
  | insertSession | removeSession | removeSessionIf => exact absurd he.1 hscope
  | findSession | listSessions | countSessions | isOpen | lifecycle | comeAlive | stop | setReady
  | gaugeSessions => exact absurd he hscope
  | publish | postmark | spareId | offer => cases he

theorem possible_venture (scope : Scope) (c : Cluster) (host : Nat) (o : Outages) (e : Effect) :
    (keepingTo scope).possible e (c.venture host o e).result := by
  cases e with
  | store call =>
    simp only [venture]
    cases o.store 0 with
    | some e =>
      cases call with
      | keys start => exact fun listed hlisted => by cases hlisted
      | get | set | delete | expire | addMember | removeMember | members => trivial
    | none => exact possible_perform scope c host (.store call)
  | publish | clock | postmark | spareId | insertSession | findSession | removeSession
  | removeSessionIf | listSessions | countSessions | isOpen | offer | lifecycle | comeAlive
  | stop | setReady | warn | count | gaugeSessions => trivial

/-- A step in a scope without sessions, where a call may fail. The bus is not called. -/
theorem changedAt_venture {e : Effect} (he : e.KeepsTo scope) (hscope : ¬scope.sessions)
    (c : Cluster) (host : Nat) (o : Outages) :
    ChangedAt scope.keys c (c.venture host o e).cluster ∧
      (c.venture host o e).published = [] ∧ (c.venture host o e).outages.bus = o.bus := by
  have hperform := changedAt_perform he hscope c host
  cases e with
  | store call =>
    simp only [venture]
    cases o.store 0 with
    | some e => exact ⟨ChangedAt.refl _ c, rfl, rfl⟩
    | none => exact ⟨hperform, rfl, rfl⟩
  | clock | warn | count => exact ⟨hperform, rfl, rfl⟩
  | insertSession | removeSession | removeSessionIf => exact absurd he.1 hscope
  | findSession | listSessions | countSessions | isOpen | lifecycle | comeAlive | stop | setReady
  | gaugeSessions => exact absurd he hscope
  | publish | postmark | spareId | offer => cases he

/-- An operation that keeps to a scope without sessions changes nothing but what is stored there. -/
theorem changedAt_runAmid {op : Operation α} (h : Confined scope op) (hscope : ¬scope.sessions)
    (c : Cluster) (host : Nat) (o : Outages) :
    ChangedAt scope.keys c (runAmid host op o c).cluster ∧
      (runAmid host op o c).published = [] ∧ (runAmid host op o c).outages.bus = o.bus := by
  induction op generalizing o c with
  | done a => exact ⟨ChangedAt.refl _ c, rfl, rfl⟩
  | ask e next ih =>
    rcases changedAt_venture h.1 hscope c host o with ⟨hchanged, hpublished, hbus⟩
    rcases ih _ (h.2 _ (possible_venture scope c host o e)) (c.venture host o e).cluster
      (c.venture host o e).outages with ⟨hchanged', hpublished', hbus'⟩
    rw [runAmid]
    simp only [Upshot.after, hpublished, List.nil_append]
    exact ⟨hchanged.trans hchanged', hpublished', hbus'.trans hbus⟩

end Cluster

end ChatCluster
