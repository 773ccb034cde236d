import ChatCluster.Proofs.Registry.Entries
import ChatCluster.Proofs.Registry.Ownership

/-!
# After an Outage

A registration that finds the store out of reach still takes the session in, and leaves the entry
as it was. The next refresh on a store that answers writes the entry if none is left. An entry
that was left behind is extended instead, and goes on naming whoever it named: the refresh looks
only at whether there is one.

## Main definitions

* `Cluster.recovered`: The store can be reached again.

## Theorems

* `Cluster.runAlone_register_of_fault`: A registration during an outage.
* `owner?_after_outage`: Who is found when the outage is over and the user has been refreshed.
-/

namespace ChatCluster

namespace Cluster

variable (self : Registrar) (host : Nat) {c : Cluster}

/-- The store can be reached again after a while. -/
def recovered (c : Cluster) (ms : Nat) : Cluster :=
  { c with now := c.now + ms, store := { c.store with unavailable := false, stalled := false } }

theorem fault_recovered (c : Cluster) (ms : Nat) : (c.recovered ms).store.fault = none := rfl

/-- A registration during an outage is not shared, and changes the directory only. -/
theorem runAlone_register_of_fault (session : SessionHandle) {e : StoreError}
    (h : c.store.fault = some e) :
    ∃ reports, runAlone host (self.register session) c =
      ({ superseded := (c.directory host).find? session.user, shared := false },
        c.keeping host (fun d => d.insert session.user session) reports) := by
  let inserted := c.updateDirectory host fun d => d.insert session.user session
  let gauged := (runAlone host Registrar.gauge inserted).2
  have hwrite : runAlone host (self.writeEntry session.user) gauged = (.error e, gauged) := by
    rw [Registrar.writeEntry, runAlone_bind, runAlone_perform]
    exact runAlone_store_of_fault host _ h
  refine ⟨(gauged.reports.warn .registryWriteFailed).count (.registryStoreErrors .register) 1, ?_⟩
  rw [Registrar.register, runAlone_bind, runAlone_perform, runAlone_bind, runAlone_bind,
    show (runAlone host Registrar.gauge (c.perform host (.insertSession session)).2).2 = gauged
    from rfl, hwrite]
  rfl

theorem holdsOpen_keeping_insert (session : SessionHandle) (reports : Reports)
    (hthere : (c.hosts.find? host).isSome = true) (hopen : c.isOpen session = true) :
    (c.keeping host (fun d => d.insert session.user session) reports).holdsOpen host
      session.user = true := by
  have hfind : ((c.keeping host (fun d => d.insert session.user session) reports).directory
      host).find? session.user = some session := by
    change ((c.updateDirectory host fun d => d.insert session.user session).directory host).find?
      session.user = some session
    rw [directory_updateDirectory c host host _ hthere, if_pos rfl, Table.find?_insert,
      if_pos rfl]
  rw [holdsOpen, hfind, Option.any_some]
  exact hopen

end Cluster

open Cluster in
/-- A session that came during an outage is not shared. When the store can be reached again, a
    refresh succeeds, and then the instance is found if no entry was left behind. Otherwise whoever
    is found without the refresh is found after it, too. -/
theorem owner?_after_outage (self : Registrar) (host asker : Nat) (session : SessionHandle)
    (c : Cluster) (ms : Nat) {e : StoreError} (hfault : c.store.fault = some e)
    (hthere : (c.hosts.find? host).isSome = true) (hopen : c.isOpen session = true)
    (httl : 0 < self.entryTtl) :
    (c.runAlone host (self.register session)).1.shared = false ∧
    ∃ refreshed, (((c.runAlone host (self.register session)).2.recovered ms).runAlone host
        (self.refresh session.user)) = (.ok true, refreshed) ∧
      (refreshed.runAlone asker (Registrar.owner? session.user)).1 =
        if (c.recovered ms).seen (Key.registry session.user.text) = none then .ok (some self.id)
        else ((c.recovered ms).runAlone asker (Registrar.owner? session.user)).1 := by
  rcases runAlone_register_of_fault self host session hfault with ⟨reports, hregister⟩
  rw [hregister]
  let degraded := c.keeping host (fun d => d.insert session.user session) reports
  have hholds : (degraded.recovered ms).holdsOpen host session.user = true :=
    holdsOpen_keeping_insert host session reports hthere hopen
  -- The outage and the directory have no bearing on what is seen.
  have hseen : (degraded.recovered ms).seen = (c.recovered ms).seen := rfl
  rcases runAlone_refresh_of_holdsOpen self session.user host
    (fault_recovered degraded ms) hholds with ⟨slots, hrefresh, hafter⟩
  refine ⟨rfl, _, hrefresh, ?_⟩
  rw [runAlone_owner?_seen session.user asker (c := (degraded.recovered ms).withSlots slots) rfl,
    runAlone_owner?_seen session.user asker (fault_recovered c ms)]
  rw [hseen] at hafter
  rcases hafter with ⟨slot, hslot, hafter⟩ | ⟨hslot, entry, howner, hafter⟩
  · rw [hafter, Function.update_self, ownerIn_renewed slot _ httl, hslot]
    rfl
  · rw [hafter, Function.update_self, ownerIn_renewed entry.slot _ httl, ownerIn_entry, howner,
      hslot]
    rfl

/-- The second of two instances has an open queue, and cannot reach the store, which holds an entry
    of the first one. -/
def staleEntry : Cluster :=
  let entry : RegistryEntry := { user := ⟨"u"⟩, owner := ⟨"a"⟩, establishedAt := 0 }
  { twoInstances with
    queues := Table.empty.insert 0 (.new 4)
    store :=
      { MemoryStore.new 1000 with
        unavailable := true
        slots :=
          Table.empty.insert (Key.registry "u") { entry.slot with expiresAt := some 90000 } } }

/-- The refresh succeeds, and the first instance is found. -/
theorem owner?_after_outage_stale :
    (staleEntry.runAlone 1 (Registrar.register ⟨⟨"b"⟩, 90000⟩ ⟨0, ⟨1⟩, ⟨"u"⟩⟩)).1.shared = false ∧
    ∃ refreshed, ((staleEntry.runAlone 1
        (Registrar.register ⟨⟨"b"⟩, 90000⟩ ⟨0, ⟨1⟩, ⟨"u"⟩⟩)).2.recovered 0).runAlone 1
          (Registrar.refresh ⟨⟨"b"⟩, 90000⟩ ⟨"u"⟩) = (.ok true, refreshed) ∧
      (refreshed.runAlone 1 (Registrar.owner? ⟨"u"⟩)).1 = .ok (some ⟨"a"⟩) := by
  have hleft : (staleEntry.recovered 0).seen (Key.registry "u") ≠ none := by decide +kernel
  have hfound : ((staleEntry.recovered 0).runAlone 1 (Registrar.owner? ⟨"u"⟩)).1 =
      .ok (some ⟨"a"⟩) := by
    decide +kernel
  rcases owner?_after_outage ⟨⟨"b"⟩, 90000⟩ 1 1 ⟨0, ⟨1⟩, ⟨"u"⟩⟩ staleEntry 0
    (e := .unavailable "in-memory store marked unavailable") rfl rfl rfl (by decide) with
    ⟨hshared, refreshed, hrefresh, hlookup⟩
  refine ⟨hshared, refreshed, hrefresh, ?_⟩
  rw [hlookup, if_neg hleft]
  exact hfound

end ChatCluster
