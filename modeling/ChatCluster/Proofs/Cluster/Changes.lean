import ChatCluster.Proofs.Cluster.Course
import ChatCluster.Proofs.Liveness.Reaping
import ChatCluster.Proofs.Liveness.Signs

/-!
# What Happens to Entries and Records

Everything that can happen to the entry of one user and to the record of one instance, on a store
that answers. An entry is written by an instance that takes its user in, extended or written anew
by one that holds an open session for its user, and deleted by one that lets the user go or clears
it away. A record is written and deleted by the instance it names and by nobody else. Both expire.

Later theorems follow an entry or a record through a whole run, and need nothing of the operations
but these cases.

## Main definitions

* `Deed.TakesIn`, `Deed.Refreshes`, `Deed.LetsGo`: Deeds that concern a user.
* `EntryChange`: What can happen to an entry.
* `SignChange`: What can happen to a record.

## Theorems

* `entryChange_happen`, `signChange_happen`: Nothing else happens.
* `seen_or_renewed_happen`: Where an entry that is seen comes from.
-/

namespace ChatCluster

/-- The deed takes a session of the user in. -/
def Deed.TakesIn (user : UserId) : Deed → Prop
  | .register session => session.user = user
  | .unregister _ | .unregisterIf _ _ | .refresh _ | .refreshAll | .heartbeat | .reap | .withdraw
  | .check _ | .status _ | .forget _ => False

/-- The deed refreshes the user if the instance holds an open session for it. -/
def Deed.Refreshes (user : UserId) : Deed → Prop
  | .refresh other => other = user
  | .refreshAll | .heartbeat => True
  | .register _ | .unregister _ | .unregisterIf _ _ | .reap | .withdraw | .check _ | .status _
  | .forget _ => False

/-- The deed lets the user go, or is meant to. -/
def Deed.LetsGo (user : UserId) : Deed → Prop
  | .unregister other | .unregisterIf other _ => other = user
  | .register _ | .refresh _ | .refreshAll | .heartbeat | .reap | .withdraw | .check _ | .status _
  | .forget _ => False

/-- What is seen of the entry of a user after something has happened. -/
inductive EntryChange (c : Cluster) (user : UserId) : Happening → Option Slot → Prop where
  /-- It is what it was. -/
  | kept (m : Happening) : EntryChange c user m (c.seen (Key.registry user.text))
  /-- Time has passed, and the entry may have expired. -/
  | aged (ms : Nat) :
    EntryChange c user (.wait ms)
      ((c.seen (Key.registry user.text)).filter fun slot => slot.isLive (c.now + ms))
  /-- An instance has taken the user in. -/
  | registered {host : Nat} {self : Profile} {deed : Deed} {e : RegistryEntry}
    (hself : c.profile? host = some self) (hdeed : deed.TakesIn user) (howner : e.owner = self.id) :
    EntryChange c user (.does host deed) (e.slot.renewed c.now self.entryTtl)
  /-- An instance with an open session has extended it, whoever wrote it. -/
  | extended {host : Nat} {self : Profile} {deed : Deed} {slot : Slot}
    (hself : c.profile? host = some self) (hdeed : deed.Refreshes user)
    (hopen : c.holdsOpen host user = true) (hslot : c.seen (Key.registry user.text) = some slot) :
    EntryChange c user (.does host deed) (slot.renewed c.now self.entryTtl)
  /-- An instance with an open session has written it where there was none. -/
  | rewritten {host : Nat} {self : Profile} {deed : Deed} {e : RegistryEntry}
    (hself : c.profile? host = some self) (hdeed : deed.Refreshes user)
    (hopen : c.holdsOpen host user = true) (hnone : c.seen (Key.registry user.text) = none)
    (howner : e.owner = self.id) :
    EntryChange c user (.does host deed) (e.slot.renewed c.now self.entryTtl)
  /-- An instance has let the user go, and nobody else was named. -/
  | released {host : Nat} {self : Profile} {deed : Deed} (hself : c.profile? host = some self)
    (hdeed : deed.LetsGo user)
    (hown : ownerIn (c.seen (Key.registry user.text)) = .ok (some self.id) ∨
      ownerIn (c.seen (Key.registry user.text)) = .error .codec)
    (hgone : (c.happen (.does host deed)).holdsOpen host user = false) :
    EntryChange c user (.does host deed) none
  /-- An instance has found it orphaned. -/
  | reaped {host : Nat} {self : Profile} (hself : c.profile? host = some self)
    (horphaned : c.orphaned self.id (Key.registry user.text) = true) :
    EntryChange c user (.does host .reap) none

/-- What is seen of the record of an instance after something has happened. -/
inductive SignChange (c : Cluster) (id : InstanceId) : Happening → Option Slot → Prop where
  /-- It is what it was. -/
  | kept (m : Happening) : SignChange c id m (c.seen (Key.liveness id.text))
  /-- Time has passed, and the record may have expired. -/
  | aged (ms : Nat) :
    SignChange c id (.wait ms)
      ((c.seen (Key.liveness id.text)).filter fun slot => slot.isLive (c.now + ms))
  /-- An instance of that name has shown itself. -/
  | shown {host : Nat} {self : Profile} {text : String} (hself : c.profile? host = some self)
    (hname : self.id = id) :
    SignChange c id (.does host .heartbeat) (c.shownSign self.monitor text)
  /-- An instance of that name has taken its leave. -/
  | withdrawn {host : Nat} {self : Profile} (hself : c.profile? host = some self)
    (hname : self.id = id) :
    SignChange c id (.does host .withdraw) none

section Changes

open Cluster

variable {c : Cluster} {host : Nat} {self : Profile} {user : UserId}

/-! ## Entries -/

theorem Refreshed.entryChange {deed : Deed} {after : Option Slot}
    (h : Refreshed c host self.registrar user (c.seen (Key.registry user.text)) after)
    (hself : c.profile? host = some self) (hdeed : deed.Refreshes user) :
    EntryChange c user (.does host deed) after := by
  generalize hbefore : c.seen (Key.registry user.text) = before at h
  cases h with
  | kept =>
    rw [← hbefore]
    exact .kept _
  | extended slot hopen => exact .extended hself hdeed hopen hbefore
  | written e howner hopen => exact .rewritten hself hdeed hopen hbefore howner

theorem holdsOpen_letGo (r : Registrar) (reports : Reports)
    (hthere : (c.hosts.find? host).isSome = true) :
    ((c.keeping host (fun d => d.erase user) reports).runAlone host
      (r.release user)).2.holdsOpen host user = false := by
  rw [← Bool.not_eq_true]
  intro hopen
  have hwithin : Within (fun _ => True) (r.release user) := within_release r trivial
  have hbefore := holdsOpen_of_within hwithin hopen
  rcases holdsOpen_eq_true_iff.1 hbefore with ⟨session, hfind, _⟩
  have hnone : ((c.updateDirectory host fun d => d.erase user).directory host).find? user =
      none := by
    rw [directory_updateDirectory c host host _ hthere, if_pos rfl, Table.find?_erase, if_pos rfl]
  exact absurd (hnone.symm.trans hfind) (by simp only [reduceCtorEq, not_false_eq_true])

/-- Nothing is deleted in letting a user go but what names nobody else. -/
theorem entryChange_letGo {deed : Deed} {reports : Reports} (hhealthy : c.store.fault = none)
    (hself : c.profile? host = some self) (hdeed : deed.LetsGo user)
    (hrun : c.happen (.does host deed) = ((c.keeping host (fun d => d.erase user)
      reports).runAlone host (self.registrar.release user)).2) :
    EntryChange c user (.does host deed)
      ((c.happen (.does host deed)).seen (Key.registry user.text)) := by
  have hthere : (c.hosts.find? host).isSome = true := by
    rw [← Option.isSome_map (f := Host.profile)]
    exact Option.isSome_of_eq_some hself
  have hgone : (c.happen (.does host deed)).holdsOpen host user = false := by
    rw [hrun]
    exact holdsOpen_letGo self.registrar reports hthere
  rcases seen_release self.registrar user host (c := c.keeping host (fun d => d.erase user) reports)
    hhealthy with hsame | ⟨hown, hdeleted⟩
  · rw [hrun, hsame]
    exact .kept _
  · have hnone : (c.happen (.does host deed)).seen (Key.registry user.text) = none := by
      rw [hrun, hdeleted, Function.update_self]
    rw [hnone]
    exact .released hself hdeed hown hgone

theorem happen_does (hself : c.profile? host = some self) (deed : Deed) :
    c.happen (.does host deed) = c.carryOut host self deed := by
  simp only [happen, hself]

theorem entryChange_unregister (hhealthy : c.store.fault = none)
    (hself : c.profile? host = some self) :
    EntryChange c user (.does host (.unregister user))
      ((c.happen (.does host (.unregister user))).seen (Key.registry user.text)) := by
  rcases runAlone_unregister self.registrar user host c with ⟨reports, hafter⟩
  exact entryChange_letGo hhealthy hself rfl ((happen_does hself _).trans hafter)

theorem entryChange_unregisterIf (id : SessionId) (hhealthy : c.store.fault = none)
    (hself : c.profile? host = some self) :
    EntryChange c user (.does host (.unregisterIf user id))
      ((c.happen (.does host (.unregisterIf user id))).seen (Key.registry user.text)) := by
  have hrun := happen_does hself (.unregisterIf user id)
  rcases runAlone_unregisterIf self.registrar user host id c with
    ⟨_, hafter⟩ | ⟨_, reports, hafter⟩
  · rw [hrun, carryOut, hafter]
    exact .kept _
  · exact entryChange_letGo hhealthy hself rfl (hrun.trans hafter)

theorem entryChange_of_within {α : Type} {op : Operation α} {deed : Deed}
    (h : Within (fun key => key ≠ Key.registry user.text) op)
    (hrun : c.happen (.does host deed) = (c.runAlone host op).2) :
    EntryChange c user (.does host deed)
      ((c.happen (.does host deed)).seen (Key.registry user.text)) := by
  rw [hrun, h.seen_runAlone host c fun hne => hne rfl]
  exact .kept _

theorem entryChange_does (deed : Deed) (hhealthy : c.store.fault = none)
    (hself : c.profile? host = some self) :
    EntryChange c user (.does host deed)
      ((c.happen (.does host deed)).seen (Key.registry user.text)) := by
  have hrun := happen_does hself deed
  -- Other users have other keys, and so have records and buckets.
  have hother : ∀ other : UserId, other ≠ user →
      Key.registry other.text ≠ Key.registry user.text :=
    fun other hne hkey => hne (Key.registry_inj.1 hkey)
  have hsign := (Key.registry_ne_liveness user.text self.id.text).symm
  have hbucket := fun other : UserId => (Key.registry_ne_rateLimit user.text other.text).symm
  cases deed with
  | register session =>
    rcases seen_register self.registrar host session hhealthy with ⟨e, howner, hseen⟩
    rw [hrun, carryOut, hseen]
    by_cases huser : session.user = user
    · subst huser
      rw [Function.update_self]
      exact .registered hself rfl howner
    · rw [Function.update_of_ne (hother _ huser).symm]
      exact .kept _
  | unregister other =>
    by_cases huser : other = user
    · subst huser
      exact entryChange_unregister hhealthy hself
    · exact entryChange_of_within (within_unregister _ (hother other huser)) hrun
  | unregisterIf other id =>
    by_cases huser : other = user
    · subst huser
      exact entryChange_unregisterIf id hhealthy hself
    · exact entryChange_of_within (within_unregisterIf _ id (hother other huser)) hrun
  | refresh other =>
    by_cases huser : other = user
    · subst huser
      rw [hrun]
      have hrefreshed := (entriesRefreshed_refresh host self.registrar other hhealthy).refreshed
      exact (hrefreshed other).entryChange hself rfl
    · exact entryChange_of_within (within_refresh _ (hother other huser)) hrun
  | refreshAll =>
    rw [hrun]
    have hrefreshed := (entriesRefreshed_refreshAll host self.registrar hhealthy).refreshed
    exact (hrefreshed user).entryChange hself trivial
  | heartbeat =>
    rw [hrun]
    exact (refreshed_heartbeat self.monitor host hhealthy user).1.entryChange hself trivial
  | reap =>
    rcases (attempts_reap c host self.monitor).runAlone hhealthy with ⟨report, _, hends⟩
    rw [hrun]
    rcases hends.partly (Key.registry user.text) with hsame | ⟨_, horphaned, hgone⟩
    · rw [carryOut, hsame]
      exact .kept _
    · rw [carryOut, hgone]
      exact .reaped hself horphaned
  | withdraw => exact entryChange_of_within (within_withdraw _ hsign) hrun
  | check other => exact entryChange_of_within (within_check _ (hbucket other)) hrun
  | status other => exact entryChange_of_within (within_status _ other) hrun
  | forget other => exact entryChange_of_within (within_reset (hbucket other)) hrun

/-- Nothing else happens to an entry. -/
theorem entryChange_happen (user : UserId) (m : Happening) (hhealthy : c.store.fault = none) :
    EntryChange c user m ((c.happen m).seen (Key.registry user.text)) := by
  cases m with
  | does host deed =>
    cases hself : c.profile? host with
    | none =>
      simp only [happen, hself]
      exact .kept _
    | some self => exact entryChange_does deed hhealthy hself
  | wait ms =>
    have hseen := seen_wait c ms (Key.registry user.text)
    rw [happen, hseen]
    exact .aged ms
  | hangUp queue => exact .kept _
  | setClock host time => exact .kept _

/-- An entry that is seen was seen before, or an instance has just given it its time to live. -/
theorem seen_or_renewed_happen {m : Happening} (hhealthy : c.store.fault = none) {slot : Slot}
    (hslot : (c.happen m).seen (Key.registry user.text) = some slot) :
    c.seen (Key.registry user.text) = some slot ∨ ∃ host self before,
      c.profile? host = some self ∧ Slot.renewed before c.now self.entryTtl = some slot := by
  have hchange := entryChange_happen user m hhealthy
  generalize (c.happen m).seen (Key.registry user.text) = after at hchange hslot
  cases hchange with
  | kept => exact Or.inl hslot
  | aged ms => exact Or.inl (Option.filter_eq_some_iff.1 hslot).1
  | registered hself hdeed howner => exact Or.inr ⟨_, _, _, hself, hslot⟩
  | extended hself hdeed hopen hbefore => exact Or.inr ⟨_, _, _, hself, hslot⟩
  | rewritten hself hdeed hopen hnone howner => exact Or.inr ⟨_, _, _, hself, hslot⟩
  | released | reaped => cases hslot

/-! ## Records -/

variable {id : InstanceId}

theorem signChange_of_within {α : Type} {op : Operation α} {deed : Deed}
    (h : Within (fun key => key ≠ Key.liveness id.text) op)
    (hrun : c.happen (.does host deed) = (c.runAlone host op).2) :
    SignChange c id (.does host deed)
      ((c.happen (.does host deed)).seen (Key.liveness id.text)) := by
  rw [hrun, h.seen_runAlone host c fun hne => hne rfl]
  exact .kept _

theorem Key.liveness_inj {a b : InstanceId} :
    Key.liveness a.text = Key.liveness b.text ↔ a = b := by
  rw [Key.liveness, Key.liveness, String.append_right_inj]
  exact ⟨fun h => congrArg InstanceId.mk h, fun h => congrArg InstanceId.text h⟩

theorem signChange_heartbeat (hhealthy : c.store.fault = none)
    (hself : c.profile? host = some self) :
    SignChange c id (.does host .heartbeat)
      ((c.happen (.does host .heartbeat)).seen (Key.liveness id.text)) := by
  have hrun := happen_does hself .heartbeat
  by_cases hname : self.id = id
  · subst hname
    by_cases hstopped : c.lifecycle host = .stopped
    · rw [hrun, carryOut, runAlone_heartbeat_of_stopped self.monitor host hstopped]
      exact .kept _
    · rcases seen_heartbeat_sign self.monitor host hhealthy hstopped with ⟨text, hseen⟩
      have hshown : (c.happen (.does host .heartbeat)).seen (Key.liveness self.id.text) =
          c.shownSign self.monitor text := by
        rw [hrun]
        exact hseen
      rw [hshown]
      exact .shown hself rfl
  · -- What is written is entries and the record of another instance.
    have hsign : Key.liveness self.id.text ≠ Key.liveness id.text :=
      fun hkey => hname (Key.liveness_inj.1 hkey)
    have hentry := fun user : UserId => Key.registry_ne_liveness user.text id.text
    exact signChange_of_within (within_heartbeat self.monitor hentry hsign) hrun

theorem signChange_does (deed : Deed) (hhealthy : c.store.fault = none)
    (hself : c.profile? host = some self) :
    SignChange c id (.does host deed)
      ((c.happen (.does host deed)).seen (Key.liveness id.text)) := by
  have hrun := happen_does hself deed
  have hentry := fun user : UserId => Key.registry_ne_liveness user.text id.text
  have hbucket := fun user : UserId => (Key.liveness_ne_rateLimit id.text user.text).symm
  cases deed with
  | register session =>
    rcases seen_register self.registrar host session hhealthy with ⟨e, _, hseen⟩
    rw [hrun, carryOut, hseen, Function.update_of_ne (hentry session.user).symm]
    exact .kept _
  | unregister other => exact signChange_of_within (within_unregister _ (hentry other)) hrun
  | unregisterIf other sid =>
    exact signChange_of_within (within_unregisterIf _ sid (hentry other)) hrun
  | refresh other => exact signChange_of_within (within_refresh _ (hentry other)) hrun
  | refreshAll => exact signChange_of_within (within_refreshAll _ hentry) hrun
  | heartbeat => exact signChange_heartbeat hhealthy hself
  | reap =>
    rcases (attempts_reap c host self.monitor).runAlone hhealthy with ⟨report, _, hends⟩
    rw [hrun]
    rcases hends.partly (Key.liveness id.text) with hsame | ⟨hmem, _, _⟩
    · rw [carryOut, hsame]
      exact .kept _
    · -- Only keys of entries are gone through.
      rcases Text.exists_of_startsWith (mem_seenKeys_iff.1 hmem).2 with ⟨rest, hkey⟩
      exact absurd hkey.symm (hentry ⟨rest⟩)
  | withdraw =>
    have hseen := seen_withdraw self.monitor host hhealthy
    rw [hrun, carryOut, hseen]
    by_cases hname : self.id = id
    · subst hname
      rw [show self.monitor.id = self.id from rfl, Function.update_self]
      exact .withdrawn hself rfl
    · have hne : Key.liveness id.text ≠ Key.liveness self.monitor.id.text :=
        fun hkey => hname (Key.liveness_inj.1 hkey).symm
      rw [Function.update_of_ne hne]
      exact .kept _
  | check other => exact signChange_of_within (within_check _ (hbucket other)) hrun
  | status other => exact signChange_of_within (within_status _ other) hrun
  | forget other => exact signChange_of_within (within_reset (hbucket other)) hrun

/-- Nothing else happens to a record. -/
theorem signChange_happen (id : InstanceId) (m : Happening) (hhealthy : c.store.fault = none) :
    SignChange c id m ((c.happen m).seen (Key.liveness id.text)) := by
  cases m with
  | does host deed =>
    cases hself : c.profile? host with
    | none =>
      simp only [happen, hself]
      exact .kept _
    | some self => exact signChange_does deed hhealthy hself
  | wait ms =>
    have hseen := seen_wait c ms (Key.liveness id.text)
    rw [happen, hseen]
    exact .aged ms
  | hangUp queue => exact .kept _
  | setClock host time => exact .kept _

end Changes

end ChatCluster
