import ChatCluster.Proofs.Instance.Dues
import ChatCluster.Proofs.Registry.Ownership

/-!
# Who Lets a Session Go

Sessions come to an instance and go, while the instance shows itself and takes its leave, and the
steps of all of these are taken in any order. A session that is closed lets itself go. One that is
broken off does not: it relies on the instance, which lets all go that are there when it looks.

So a session that came before the instance looked is gone when both are over, and so is its user's
entry, unless somebody who has let the session go still owes it, or somebody has written it when the
user was no longer there. But a session may come when the instance has looked already. Then, if it
is broken off, nobody lets it go, and its user stays behind with an entry that names the instance
(`attend_after_leave`).

## Main definitions

* `Party`: The operations that have to do with sessions that come and go.
* `duesOf`: What each of them has still to do.
* `Attended`: They go on by their rules.
* `NewestAt`: A session came at a step, and none has come for its user since.
* `Minded`, `EntryOwed`: Who is still to let a session go, or to give up an entry.

## Theorems

* `Lodging.step`, `Lodging.outside`: What every turn preserves.
* `close_detaches`: What is left when a session is over.
-/

namespace ChatCluster

open Operation

/-! ## What happens outside -/

/-- A session comes or goes. -/
def Effect.isTraffic : Effect → Bool
  | .insertSession _ | .removeSession _ | .removeSessionIf _ _ => true
  | _ => false

theorem Effect.directory_of_not_traffic {e : Effect} (h : e.isTraffic = false)
    (d : Table UserId SessionHandle) : e.directory d = d := by
  cases e with
  | insertSession | removeSession | removeSessionIf => cases h
  | store | publish | clock | postmark | spareId | findSession | listSessions | countSessions
  | isOpen | offer | lifecycle | comeAlive | stop | setReady | warn | count | gaugeSessions => rfl

/-- It does not meddle with the users of an instance: no session comes to the instance or goes, and
    nobody writes an entry that names it. -/
def Outside.SparesUsers (self : InstanceId) (host : Nat) : Outside → Prop
  | .step other e => (other = host → e.isTraffic = false) ∧ ∀ user, ¬e.Claims user self
  | .hangUp _ | .wait _ | .setClock _ _ => True

namespace Cluster

variable {c : Cluster} {host : Nat} {self : Profile} {o : Outside}

theorem directory_of_spared (hthere : c.profile? host = some self)
    (h : o.SparesUsers self.id host) : (c.befall o).directory host = c.directory host := by
  cases o with
  | step other e =>
    by_cases hother : other = host
    · subst hother
      exact (directory_perform_self hthere e).trans (e.directory_of_not_traffic (h.1 rfl) _)
    · exact directory_perform_of_ne hother c e
  | hangUp | wait => rfl
  | setClock other time => exact directory_updateHost c other host fun _ => rfl

theorem names_of_spared {user : UserId} (hhealthy : c.store.fault = none)
    (h : o.SparesUsers self.id host) (hnames : (c.befall o).Names user self.id) :
    c.Names user self.id := by
  cases o with
  | step other e => exact ((names_perform hhealthy hnames).resolve_right (h.2 user)).1
  | hangUp | setClock => exact hnames
  | wait ms =>
    rcases hnames.exists_slot with ⟨slot, hslot, hnamed⟩
    rw [befall, seen_wait] at hslot
    rw [Names, Option.eq_some_of_filter_eq_some hslot]
    exact hnamed

end Cluster

/-! ## Dues from step to step -/

namespace Dues

variable {self : Profile} {d : Dues} {m : Moment} {session : SessionHandle} {user : UserId}

/-- The session is to be let go, or is sure to be seen. -/
def Minds (d : Dues) (session : SessionHandle) : Prop :=
  d.lists = true ∨ session ∈ d.due

/-- The session is still to come. Unless it is broken off, it is to be let go as well. -/
structure Awaits (d : Dues) (session : SessionHandle) (brokenOff : Bool) : Prop where
  comes : d.comes = some session
  lists : d.lists = false
  due : brokenOff = false → session ∈ d.due

/-- Calls to the store have to do with entries only. -/
theorem exists_after_store (self : InstanceId) (d : Dues) (call : StoreCall)
    (reply : Effect.Reply (.store call)) :
    ∃ owing, d.after self (.store call) reply = { d with owing } := by
  cases call with
  | get key =>
    rcases reply with e | text
    · exact ⟨d.owing, rfl⟩
    · by_cases h : d.owes key ∧ entryOwner? text ≠ some self
      · exact ⟨none, if_pos h⟩
      · exact ⟨d.owing, if_neg h⟩
  | delete key =>
    by_cases h : d.owes key
    · exact ⟨none, if_pos h⟩
    · exact ⟨d.owing, if_neg h⟩
  | set | expire | keys | addMember | removeMember | members => exact ⟨d.owing, rfl⟩

/-- Whoever is to let a session go that is still there is to do so afterwards as well. -/
theorem Minds.after (h : d.Minds session) (hthere : m.before.profile? m.host = some self)
    (hpresent : (m.after.directory m.host).find? session.user = some session) :
    (d.after self.id m.effect m.reply).Minds session := by
  rcases m with ⟨i, host, c, e⟩
  rw [Moment.after, Cluster.directory_perform_self hthere] at hpresent
  cases e with
  | listSessions =>
    rw [after]
    split
    · exact Or.inr (Table.mem_values_of_find? hpresent)
    · exact h
  | removeSessionIf user id =>
    refine h.imp_right fun hdue => ?_
    rw [after, List.mem_filter, decide_eq_true_eq]
    refine ⟨hdue, ?_⟩
    -- A session of that number would have been taken out just now.
    rintro ⟨rfl, rfl⟩
    rw [Effect.directory] at hpresent
    split at hpresent
    · rw [Table.find?_erase, if_pos rfl] at hpresent
      cases hpresent
    · next hnot =>
      rw [hpresent] at hnot
      exact hnot rfl
  | store call =>
    rcases exists_after_store self.id d call (Moment.mk i host c (.store call)).reply with
      ⟨owing, hafter⟩
    rw [hafter]
    exact h
  | publish | clock | postmark | spareId | insertSession | findSession | removeSession
  | countSessions | isOpen | offer | lifecycle | comeAlive | stop | setReady | warn | count
  | gaugeSessions => exact h

/-- Nothing is done about sessions before the one that is to come has come. -/
theorem Awaits.eq_insertSession {brokenOff : Bool} (h : d.Awaits session brokenOff)
    (hallows : (minding self.id).allows d m.effect)
    (hafter : ¬(d.after self.id m.effect m.reply).Awaits session brokenOff) :
    m.effect = .insertSession session := by
  rcases m with ⟨i, host, c, e⟩
  cases e with
  | insertSession other => rw [Option.some.inj (h.comes.symm.trans hallows)]
  | removeSessionIf user id =>
    have hcomes : d.comes = none := hallows.1
    rw [h.comes] at hcomes
    cases hcomes
  | listSessions =>
    refine absurd ?_ hafter
    rw [after, h.lists, if_neg Bool.false_ne_true]
    exact h
  | store call =>
    rcases exists_after_store self.id d call (Moment.mk i host c (.store call)).reply with
      ⟨owing, hsame⟩
    rw [hsame] at hafter
    exact absurd ⟨h.comes, h.lists, h.due⟩ hafter
  | publish | clock | postmark | spareId | findSession | removeSession | countSessions | isOpen
  | offer | lifecycle | comeAlive | stop | setReady | warn | count | gaugeSessions =>
    exact absurd h hafter

/-- Whoever has no longer to look has looked. -/
theorem eq_listSessions_of_after {self : InstanceId} (h : d.lists = true)
    (hafter : (d.after self m.effect m.reply).lists ≠ true) : m.effect = .listSessions := by
  rcases m with ⟨i, host, c, e⟩
  cases e with
  | listSessions => rfl
  | store call =>
    rcases exists_after_store self d call (Moment.mk i host c (.store call)).reply with
      ⟨owing, hsame⟩
    rw [hsame] at hafter
    exact absurd h hafter
  | publish | clock | postmark | spareId | insertSession | findSession | removeSession
  | removeSessionIf | countSessions | isOpen | offer | lifecycle | comeAlive | stop | setReady
  | warn | count | gaugeSessions => exact absurd h hafter

/-- An entry that names the instance is owed until it has been deleted. -/
theorem owing_after (h : d.owing = some user) (hallows : (minding self.id).allows d m.effect)
    (hhealthy : m.before.store.fault = none) (hnames : m.before.Names user self.id)
    (hkept : m.effect ≠ .store (.delete (Key.registry user.text))) :
    (d.after self.id m.effect m.reply).owing = some user := by
  have howes : ∀ key, d.owes key → key = Key.registry user.text := by
    intro key hkey
    rw [owes, h] at hkey
    exact (Option.some.inj hkey).symm
  rcases m with ⟨i, host, c, e⟩
  cases e with
  | store call =>
    cases call with
    | get key =>
      have hreply : (Moment.mk i host c (.store (.get key))).reply =
          .ok ((c.seen key).bind Slot.text?) := Cluster.reply_get host key hhealthy
      rw [hreply, after, if_neg]
      · exact h
      · rintro ⟨hkey, hnot⟩
        obtain rfl := howes key hkey
        exact hnot (entryOwner?_eq_some_iff.2 hnames)
    | delete key =>
      rw [after, if_neg]
      · exact h
      · intro hkey
        exact hkept (by rw [howes key hkey])
    | set | expire | keys | addMember | removeMember | members => exact h
  | removeSessionIf other id =>
    have howing : d.owing = none := hallows.2
    rw [h] at howing
    cases howing
  | listSessions =>
    rw [after]
    split <;> exact h
  | publish | clock | postmark | spareId | insertSession | findSession | removeSession
  | countSessions | isOpen | offer | lifecycle | comeAlive | stop | setReady | warn | count
  | gaugeSessions => exact h

end Dues

/-! ## Parties -/

/-- The operations of an instance that have to do with sessions that come and go. -/
inductive Party where
  /-- The instance takes its leave. -/
  | shutdown
  /-- The instance shows itself. -/
  | heartbeat
  /-- A session from its beginning to its end. -/
  | session (session : SessionHandle) (brokenOff : Bool)

namespace Party

/-- What is to be done. -/
def operation (self : Profile) : Party → Operation Unit
  | shutdown => self.leave
  | heartbeat => self.timedHeartbeat
  | session x brokenOff => self.attend x brokenOff

/-- What there is to be minded about it. -/
def dues : Party → Dues
  | shutdown => { Dues.clear with lists := true }
  | heartbeat => .clear
  | session x brokenOff =>
    { Dues.clear with comes := some x, due := if brokenOff then [] else [x] }

theorem minding_operation (self : Profile) (p : Party) :
    (minding self.id).Obeys p.dues (p.operation self) fun d _ => d = .clear := by
  cases p with
  | shutdown => exact minding_leave self
  | heartbeat => exact minding_timedHeartbeat self
  | session x brokenOff => exact minding_attend self x brokenOff

end Party

/-- What one of some parties has still to do, as the record shows. -/
def duesOf (self : InstanceId) (parties : List Party) (past : List Moment) (i : Nat) : Dues :=
  (minding self).notes ((parties[i]?.map Party.dues).getD .clear) i past

/-- The parties go on by their rules at an instance that is at work, on a store that answers. -/
structure Attended (s : Interplay Unit) (node : Profile) (host : Nat) (parties : List Party) : Prop
    where
  healthy : s.cluster.store.fault = none
  there : s.cluster.profile? host = some node
  conducts : ∀ i p, parties[i]? = some p →
    s.Conducts i host (minding node.id) p.dues fun d _ => d = .clear
  length : s.errands.length = parties.length
  numbered : s.Numbered

namespace Attended

variable {s : Interplay Unit} {self : Profile} {host i k : Nat} {parties : List Party} {m : Moment}
  {session : SessionHandle}

theorem begin {c : Cluster} (hhealthy : c.store.fault = none)
    (hthere : c.profile? host = some self) (parties : List Party) :
    Attended (.begin c (parties.map fun p => ⟨host, p.operation self⟩)) self host parties where
  healthy := hhealthy
  there := hthere
  conducts i p hp := by
    refine Interplay.conducts_begin ?_ (p.minding_operation self)
    rw [List.getElem?_map, hp]
    rfl
  length := List.length_map _
  numbered := Interplay.numbered_begin _ _

theorem step (h : Attended s self host parties) (i : Nat) :
    Attended (s.step i) self host parties where
  healthy := (s.fault_step i).trans h.healthy
  there := by
    rcases s.step_cases i with hsame | ⟨host', e, next, _, hstep⟩
    · rw [hsame]
      exact h.there
    · rw [hstep]
      exact (Cluster.profile?_perform _ _ _ _).trans h.there
  conducts j p hp := (h.conducts j p hp).step (possible_minding self.id h.healthy host) i
  length := (s.length_step i).trans h.length
  numbered := h.numbered.step i

theorem outside (h : Attended s self host parties) (o : Outside) :
    Attended { s with cluster := s.cluster.befall o } self host parties where
  healthy := (Cluster.fault_befall o).trans h.healthy
  there := (Cluster.profile?_befall o).trans h.there
  conducts i p hp := (h.conducts i p hp).outside o
  length := h.length
  numbered := h.numbered

/-- Whatever is on record was done at the instance, and was allowed. -/
theorem allowed (h : Attended s self host parties) (hm : s.past[k]? = some m) :
    m.host = host ∧
      (minding self.id).allows (duesOf self.id parties (s.past.take k) m.errand) m.effect := by
  have hlt : m.errand < parties.length := h.length ▸ h.numbered k m hm
  rw [duesOf, List.getElem?_eq_getElem hlt]
  exact (h.conducts m.errand _ (List.getElem?_eq_getElem hlt)).allowed k m hm rfl

/-- Whoever is over has nothing left to do. -/
theorem clear_of_over (h : Attended s self host parties) (hover : s.result? i ≠ none) :
    duesOf self.id parties s.past i = .clear := by
  have hlt : i < parties.length := by
    by_contra hge
    rw [Interplay.result?, List.getElem?_eq_none (by rw [h.length]; omega)] at hover
    exact hover rfl
  rcases (h.conducts i _ (List.getElem?_eq_getElem hlt)).rest with ⟨rest, hrest, hobeys⟩
  rw [Interplay.result?, hrest] at hover
  rw [duesOf, List.getElem?_eq_getElem hlt]
  cases rest with
  | done a => exact hobeys
  | ask e next => exact absurd rfl hover

/-- A session that is over has come. Unless it was broken off, it was to be let go when it came. -/
theorem came (h : Attended s self host parties) {brokenOff : Bool}
    (hi : parties[i]? = some (.session session brokenOff)) (hover : s.result? i ≠ none) :
    ∃ came, s.Took came i (.insertSession session) ∧
      (brokenOff = false → (duesOf self.id parties (s.past.take came) i).Minds session) := by
  have hstart : (parties[i]?.map Party.dues).getD .clear =
      (Party.session session brokenOff).dues := by rw [hi]; rfl
  have hawaits : (Party.session session brokenOff).dues.Awaits session brokenOff := by
    refine ⟨rfl, rfl, fun hkept => ?_⟩
    simp [Party.dues, hkept]
  have hend : ¬((minding self.id).notes (Party.session session brokenOff).dues i s.past).Awaits
      session brokenOff := by
    have hclear := h.clear_of_over hover
    rw [duesOf, hstart] at hclear
    rw [hclear]
    intro hstill
    cases hstill.comes
  rcases Rules.exists_of_notes (P := fun d : Dues => ¬d.Awaits session brokenOff)
    (not_not.2 hawaits) hend with ⟨came, m, hm, herrand, hbefore, hafter⟩
  have hbefore := not_not.1 hbefore
  have hallows := (h.allowed hm).2
  rw [herrand, duesOf, hstart] at hallows
  refine ⟨came, ⟨m, hm, herrand, hbefore.eq_insertSession hallows hafter⟩, ?_⟩
  intro hkept
  rw [duesOf, hstart]
  exact Or.inr (hbefore.due hkept)

end Attended

/-- An instance that has not yet looked is sure to see whoever is there. -/
theorem lists_duesOf {s : Interplay Unit} {self : InstanceId} {parties : List Party} {j came : Nat}
    (hj : parties[j]? = some .shutdown)
    (hlater : ∀ looked, s.Took looked j .listSessions → came < looked) :
    (duesOf self parties (s.past.take came) j).lists = true := by
  by_contra hlooked
  have hstart : (parties[j]?.map Party.dues).getD .clear = Party.shutdown.dues := by rw [hj]; rfl
  rw [duesOf, hstart] at hlooked
  rcases Rules.exists_of_notes (P := fun d : Dues => d.lists ≠ true) (not_not.2 rfl) hlooked with
    ⟨looked, m, hm, herrand, hbefore, hafter⟩
  rcases getElem?_take_eq_some hm with ⟨hlt, hm, _⟩
  have heffect := Dues.eq_listSessions_of_after (not_not.1 hbefore) hafter
  have hlate := hlater looked ⟨m, hm, herrand, heffect⟩
  omega

/-! ## What every turn preserves -/

/-- A session came at a step, and none has come for its user since. -/
def NewestAt (past : List Moment) (came : Nat) (session : SessionHandle) : Prop :=
  (∃ m, past[came]? = some m ∧ m.effect = .insertSession session) ∧
    ∀ (later : Nat) (m : Moment) (other : SessionHandle), came < later → past[later]? = some m →
      m.effect = .insertSession other → other.user ≠ session.user

/-- Somebody has let the session go since it came, and still owes the entry of its user. -/
def StillOwed (self : InstanceId) (parties : List Party) (past : List Moment) (came : Nat)
    (session : SessionHandle) : Prop :=
  ∃ gone m, came < gone ∧ past[gone]? = some m ∧
    m.effect = .removeSessionIf session.user session.id ∧
    (duesOf self parties past m.errand).owing = some session.user

/-- Somebody has written an entry that names the instance since the session came, when the instance
    had no session of the user. -/
def WrittenLate (self : InstanceId) (host : Nat) (past : List Moment) (came : Nat)
    (user : UserId) : Prop :=
  ∃ late m, came < late ∧ past[late]? = some m ∧ m.effect.Claims user self ∧
    (m.before.directory host).find? user = none

/-- If the user of the newest session has a session, it is that one, and whoever was to let it go
    when it came still is. -/
def Minded (self : InstanceId) (host : Nat) (parties : List Party) (c : Cluster)
    (past : List Moment) : Prop :=
  ∀ came session, NewestAt past came session →
    ∀ found, (c.directory host).find? session.user = some found → found = session ∧
      ∀ i, (duesOf self parties (past.take came) i).Minds session →
        (duesOf self parties past i).Minds session

/-- If the user of the newest session has none any more and there is an entry that names the
    instance, it is owed, or was written late. -/
def EntryOwed (self : InstanceId) (host : Nat) (parties : List Party) (c : Cluster)
    (past : List Moment) : Prop :=
  ∀ came session, NewestAt past came session →
    (c.directory host).find? session.user = none → c.Names session.user self →
      StillOwed self parties past came session ∨ WrittenLate self host past came session.user

section Turns

variable {self : Profile} {host came : Nat} {parties : List Party} {c : Cluster}
  {past : List Moment} {m : Moment} {o : Outside} {session : SessionHandle}

theorem NewestAt.lt (h : NewestAt past came session) : came < past.length := by
  rcases h.1 with ⟨m, hm, _⟩
  exact (List.getElem?_eq_some_iff.1 hm).1

theorem newestAt_concat (h : NewestAt (past ++ [m]) came session) :
    (NewestAt past came session ∧
        ∀ other, m.effect = .insertSession other → other.user ≠ session.user) ∨
      came = past.length ∧ m.effect = .insertSession session := by
  rcases h with ⟨⟨first, hfirst, heffect⟩, hnone⟩
  rcases getElem?_concat_iff.1 hfirst with hold | ⟨rfl, rfl⟩
  · have hlt : came < past.length := (List.getElem?_eq_some_iff.1 hold).1
    refine Or.inl ⟨⟨⟨first, hold, heffect⟩, ?_⟩, ?_⟩
    · intro later m' other hlater hm'
      exact hnone later m' other hlater (getElem?_concat_iff.2 (Or.inl hm'))
    · intro other
      exact hnone past.length m other hlt (getElem?_concat_iff.2 (Or.inr ⟨rfl, rfl⟩))
  · exact Or.inr ⟨rfl, heffect⟩

theorem duesOf_concat (self : InstanceId) (parties : List Party) (past : List Moment) (m : Moment)
    (i : Nat) :
    duesOf self parties (past ++ [m]) i =
      if m.errand = i then (duesOf self parties past i).after self m.effect m.reply
      else duesOf self parties past i :=
  (minding self).notes_concat _ i past m

/-- Whoever is to let a session go that is still there is to do so after one more step as well. -/
theorem minds_concat (hthere : m.before.profile? m.host = some self)
    (hpresent : (m.after.directory m.host).find? session.user = some session) {i : Nat}
    (h : (duesOf self.id parties past i).Minds session) :
    (duesOf self.id parties (past ++ [m]) i).Minds session := by
  rw [duesOf_concat]
  by_cases hi : m.errand = i
  · rw [if_pos hi]
    exact h.after hthere hpresent
  · rw [if_neg hi]
    exact h

theorem Minded.concat (h : Minded self.id host parties c past) (hbefore : m.before = c)
    (hhost : m.host = host) (hthere : c.profile? host = some self) :
    Minded self.id host parties m.after (past ++ [m]) := by
  subst hbefore hhost
  intro came session hnewest found hfound
  rcases newestAt_concat hnewest with ⟨hold, hother⟩ | ⟨rfl, heffect⟩
  · have hwas : (m.before.directory m.host).find? session.user = some found := by
      rcases Cluster.find?_directory_perform hfound with hwas | ⟨_, heffect, huser⟩
      · exact hwas
      · exact absurd huser.symm (hother found heffect)
    obtain ⟨rfl, hminds⟩ := h came session hold found hwas
    refine ⟨rfl, fun i hi => ?_⟩
    rw [take_concat_of_le (Nat.le_of_lt hold.lt)] at hi
    exact minds_concat hthere hfound (hminds i hi)
  · have hsame : found = session := by
      rw [Moment.after, Cluster.directory_perform_self hthere, heffect, Effect.directory,
        Table.find?_insert_self] at hfound
      exact (Option.some.inj hfound).symm
    subst hsame
    refine ⟨rfl, fun i hi => ?_⟩
    rw [take_concat_of_le (Nat.le_refl _), List.take_length] at hi
    exact minds_concat hthere hfound hi

/-- A user who has no session after a step had none before, or the session was taken out. -/
theorem find?_directory_of_none (hthere : m.before.profile? m.host = some self) {user : UserId}
    (hgone : m.effect ≠ .removeSession user)
    (h : (m.after.directory m.host).find? user = none) :
    (m.before.directory m.host).find? user = none ∨
      ∃ found, (m.before.directory m.host).find? user = some found ∧
        m.effect = .removeSessionIf user found.id := by
  rw [Moment.after, Cluster.directory_perform_self hthere] at h
  rcases m with ⟨i, host, c, e⟩
  cases e with
  | insertSession inserted =>
    rw [Effect.directory, Table.find?_insert] at h
    split at h
    · cases h
    · exact Or.inl h
  | removeSessionIf gone id =>
    rw [Effect.directory] at h
    split at h
    · next hfound =>
      rcases Option.map_eq_some_iff.1 hfound with ⟨found, hfound, rfl⟩
      rw [Table.find?_erase] at h
      split at h
      · next heq =>
        subst heq
        exact Or.inr ⟨found, hfound, rfl⟩
      · exact Or.inl h
    · exact Or.inl h
  | removeSession gone =>
    rw [Effect.directory, Table.find?_erase] at h
    split at h
    · next heq =>
      subst heq
      exact absurd rfl hgone
    · exact Or.inl h
  | store | publish | clock | postmark | spareId | findSession | listSessions | countSessions
  | isOpen | offer | lifecycle | comeAlive | stop | setReady | warn | count | gaugeSessions =>
    exact Or.inl h

theorem StillOwed.concat (h : StillOwed self.id parties past came session)
    (hallows : (minding self.id).allows (duesOf self.id parties past m.errand) m.effect)
    (hhealthy : m.before.store.fault = none) (hnames : m.before.Names session.user self.id)
    (hkept : m.effect ≠ .store (.delete (Key.registry session.user.text))) :
    StillOwed self.id parties (past ++ [m]) came session := by
  rcases h with ⟨gone, taken, hlt, htaken, heffect, howing⟩
  refine ⟨gone, taken, hlt, getElem?_concat_iff.2 (Or.inl htaken), heffect, ?_⟩
  rw [duesOf_concat]
  by_cases herrand : m.errand = taken.errand
  · rw [if_pos herrand]
    rw [herrand] at hallows
    exact Dues.owing_after howing hallows hhealthy hnames hkept
  · rw [if_neg herrand]
    exact howing

theorem WrittenLate.concat {user : UserId} (h : WrittenLate self.id host past came user) :
    WrittenLate self.id host (past ++ [m]) came user := by
  rcases h with ⟨late, written, hlt, hwritten, hwhat⟩
  exact ⟨late, written, hlt, getElem?_concat_iff.2 (Or.inl hwritten), hwhat⟩

theorem EntryOwed.concat (h : EntryOwed self.id host parties c past)
    (hminded : Minded self.id host parties c past) (hbefore : m.before = c) (hhost : m.host = host)
    (hthere : c.profile? host = some self) (hhealthy : c.store.fault = none)
    (hallows : (minding self.id).allows (duesOf self.id parties past m.errand) m.effect) :
    EntryOwed self.id host parties m.after (past ++ [m]) := by
  subst hbefore hhost
  intro came session hnewest hnone hnames
  rcases newestAt_concat hnewest with ⟨hold, _⟩ | ⟨_, heffect⟩
  · have hlt := hold.lt
    have hlast : (past ++ [m])[past.length]? = some m := List.getElem?_concat_length
    have hgone : m.effect ≠ .removeSession session.user := by
      intro heffect
      rw [heffect] at hallows
      exact hallows
    rcases find?_directory_of_none hthere hgone hnone with hwas | ⟨found, hfound, heffect⟩
    · rcases Cluster.names_perform hhealthy hnames with ⟨hnamed, hkept⟩ | hclaims
      · rcases h came session hold hwas hnamed with howed | hlate
        · exact Or.inl (howed.concat hallows hhealthy hnamed hkept)
        · exact Or.inr hlate.concat
      · exact Or.inr ⟨past.length, m, hlt, hlast, hclaims, hwas⟩
    · -- Whoever takes the session out owes the entry from then on.
      obtain ⟨rfl, _⟩ := hminded came session hold found hfound
      refine Or.inl ⟨past.length, m, hlt, hlast, heffect, ?_⟩
      have hreply : ∃ x, m.before.perform m.host (.removeSessionIf found.user found.id) =
          (some found, x) := by
        simp only [Cluster.perform, hfound, if_true]
        exact ⟨_, rfl⟩
      rcases hreply with ⟨_, hreply⟩
      rw [duesOf_concat, if_pos rfl]
      rcases m with ⟨i, host, c, e⟩
      simp only at heffect
      subst heffect
      simp only [Moment.reply, hreply, Dues.after, Option.isSome_some, if_true]
  · -- The user of a session that has just come has one.
    rw [Moment.after, Cluster.directory_perform_self hthere, heffect, Effect.directory,
      Table.find?_insert_self] at hnone
    cases hnone

theorem Minded.befall (h : Minded self.id host parties c past)
    (hthere : c.profile? host = some self) (hspares : o.SparesUsers self.id host) :
    Minded self.id host parties (c.befall o) past := by
  intro came session hnewest found hfound
  rw [Cluster.directory_of_spared hthere hspares] at hfound
  exact h came session hnewest found hfound

theorem EntryOwed.befall (h : EntryOwed self.id host parties c past)
    (hthere : c.profile? host = some self) (hhealthy : c.store.fault = none)
    (hspares : o.SparesUsers self.id host) :
    EntryOwed self.id host parties (c.befall o) past := by
  intro came session hnewest hnone hnames
  rw [Cluster.directory_of_spared hthere hspares] at hnone
  exact h came session hnewest hnone (Cluster.names_of_spared hhealthy hspares hnames)

end Turns

/-- And sessions are let go, and entries are given up, or somebody is still to do so. -/
structure Lodging (s : Interplay Unit) (node : Profile) (host : Nat) (parties : List Party) : Prop
    extends Attended s node host parties where
  minded : Minded node.id host parties s.cluster s.past
  owed : EntryOwed node.id host parties s.cluster s.past

namespace Lodging

variable {s : Interplay Unit} {self : Profile} {host : Nat} {parties : List Party} {o : Outside}

theorem begin {c : Cluster} (hhealthy : c.store.fault = none)
    (hthere : c.profile? host = some self) (parties : List Party) :
    Lodging (.begin c (parties.map fun p => ⟨host, p.operation self⟩)) self host parties where
  toAttended := .begin hhealthy hthere parties
  minded came session hnewest := by
    rcases hnewest.1 with ⟨m, hm, _⟩
    cases hm
  owed came session hnewest := by
    rcases hnewest.1 with ⟨m, hm, _⟩
    cases hm

theorem step (h : Lodging s self host parties) (i : Nat) :
    Lodging (s.step i) self host parties := by
  have hattended := h.toAttended.step i
  rcases s.step_cases i with hsame | ⟨host', e, next, _, hstep⟩
  · rw [hsame]
    exact h
  · -- The new step is on record, so it was allowed.
    have hlast : (s.step i).past[s.past.length]? = some ⟨i, host', s.cluster, e⟩ := by
      rw [hstep]
      exact List.getElem?_concat_length
    have hallowed := hattended.allowed hlast
    rw [hstep, take_concat_of_le (Nat.le_refl _), List.take_length] at hallowed
    rw [hstep] at hattended ⊢
    exact
      { hattended with
        minded := h.minded.concat rfl hallowed.1 h.there
        owed := h.owed.concat h.minded rfl hallowed.1 h.there h.healthy hallowed.2 }

theorem outside (h : Lodging s self host parties) (hspares : o.SparesUsers self.id host) :
    Lodging { s with cluster := s.cluster.befall o } self host parties where
  toAttended := h.toAttended.outside o
  minded := h.minded.befall h.there hspares
  owed := h.owed.befall h.there h.healthy hspares

theorem run (h : Lodging s self host parties) {events : List Turn}
    (hspares : ∀ o, .outside o ∈ events → o.SparesUsers self.id host) :
    Lodging (s.run events) self host parties :=
  Interplay.run_induction (P := fun s => Lodging s self host parties) h (fun _ i _ h => h.step i)
    fun _ o ho h => h.outside (hspares o ho)

end Lodging

/-! ## When a session is over -/

/-- Sessions of an instance are taken from their beginnings to their ends, while the instance shows
    itself and takes its leave, on a store that answers, and the steps of all of these are taken in
    any order. A session that is over has come. If none has come for its user since, and, should it
    have been broken off, the instance has taken a leave for which it looked after the session had
    come, then the instance has no session of the user. If there is an entry of the user that names
    the instance, somebody who has let the session go is not over, or somebody has written the entry
    when the instance had no session of the user. -/
theorem close_detaches {self : Profile} {host : Nat} {c : Cluster}
    (hhealthy : c.store.fault = none) (hthere : c.profile? host = some self) (parties : List Party)
    {events : List Turn} (hspares : ∀ o, .outside o ∈ events → o.SparesUsers self.id host) :
    let s := (Interplay.begin c (parties.map fun p => ⟨host, p.operation self⟩)).run events
    ∀ i session brokenOff, parties[i]? = some (.session session brokenOff) → s.result? i ≠ none →
      ∃ came, s.Took came i (.insertSession session) ∧
        (NewestAt s.past came session →
          (brokenOff = true → ∃ j, parties[j]? = some .shutdown ∧ s.result? j ≠ none ∧
            ∀ looked, s.Took looked j .listSessions → came < looked) →
          (s.cluster.directory host).find? session.user = none ∧
            (s.cluster.Names session.user self.id →
              (∃ j gone, came < gone ∧ s.result? j = none ∧
                s.Took gone j (.removeSessionIf session.user session.id)) ∨
              WrittenLate self.id host s.past came session.user)) := by
  intro s i session brokenOff hi hover
  have h : Lodging s self host parties := (Lodging.begin hhealthy hthere parties).run hspares
  rcases h.came hi hover with ⟨came, hcame, hminds⟩
  refine ⟨came, hcame, fun hnewest hleft => ?_⟩
  have hnone : (s.cluster.directory host).find? session.user = none := by
    by_contra hsome
    rcases Option.ne_none_iff_exists'.1 hsome with ⟨found, hfound⟩
    have hminded := (h.minded came session hnewest found hfound).2
    -- Whoever was to let the session go is over, and has nothing left to do.
    have hdone : ∀ j, s.result? j ≠ none → ¬(duesOf self.id parties s.past j).Minds session := by
      intro j hj
      rw [h.clear_of_over hj]
      rintro (hlists | hdue)
      · cases hlists
      · cases hdue
    by_cases hbroken : brokenOff = true
    · rcases hleft hbroken with ⟨j, hj, hoverj, hlater⟩
      exact hdone j hoverj (hminded j (Or.inl (lists_duesOf hj hlater)))
    · exact hdone i hover (hminded i (hminds (Bool.eq_false_iff.2 hbroken)))
  refine ⟨hnone, fun hnames => ?_⟩
  rcases h.owed came session hnewest hnone hnames with howed | hlate
  · rcases howed with ⟨gone, m, hlt, hm, heffect, howing⟩
    refine Or.inl ⟨m.errand, gone, hlt, ?_, m, hm, rfl, heffect⟩
    by_contra hoverj
    rw [h.clear_of_over hoverj] at howing
    cases howing
  · exact Or.inr hlate

/-- The session of a user, and the leave of the instance. -/
def annAndLeave : List Party :=
  [.shutdown, .session ⟨0, ⟨1⟩, ⟨"ann"⟩⟩ true]

/-- The instance takes its leave when the session has come. The session is broken off, and its user
    is gone. -/
theorem close_detaches_in_time :
    let s := (Interplay.begin twoInstances
      (annAndLeave.map fun p => ⟨0, p.operation (.standard ⟨"a"⟩)⟩)).run
      (List.replicate 8 (.step 1) ++ List.replicate 12 (.step 0))
    s.result? 0 = some () ∧ s.result? 1 = some () ∧
      (s.cluster.directory 0).find? ⟨"ann"⟩ = none ∧ ¬s.cluster.Names ⟨"ann"⟩ ⟨"a"⟩ := by
  intro s
  have hleft : s.result? 0 = some () := by decide +kernel
  have hover : s.result? 1 = some () := by decide +kernel
  have hgone : ownerIn (s.cluster.seen (Key.registry "ann")) ≠ .ok (some ⟨"a"⟩) := by
    decide +kernel
  -- The first step on record is the only one at which a session comes.
  have hone : ((s.past.drop 1).all fun m =>
      match m.effect with
      | .insertSession _ => false
      | _ => true) = true := by decide +kernel
  have hfirst : ∀ (k : Nat) (m : Moment) (x : SessionHandle), s.past[k]? = some m →
      m.effect = .insertSession x → k = 0 := by
    intro k m x hm heffect
    by_contra hk
    have hmem : m ∈ s.past.drop 1 := by
      refine List.mem_of_getElem? (i := k - 1) ?_
      rw [List.getElem?_drop, show 1 + (k - 1) = k by omega]
      exact hm
    have hnot := List.all_eq_true.1 hone m hmem
    simp [heffect] at hnot
  have hthere : twoInstances.profile? 0 = some (.standard ⟨"a"⟩) := rfl
  have hspares : ∀ o : Outside, .outside o ∈ List.replicate 8 (Turn.step 1) ++
      List.replicate 12 (Turn.step 0) → o.SparesUsers ⟨"a"⟩ 0 := by simp
  have hsession : s.result? 1 ≠ none := by simp [hover]
  have hleave : s.result? 0 ≠ none := by simp [hleft]
  rcases close_detaches rfl hthere annAndLeave hspares 1 _ true rfl hsession with
    ⟨came, hcame, hthen⟩
  rcases hcame with ⟨m, hm, _, heffect⟩
  obtain rfl := hfirst came m _ hm heffect
  have hnewest : NewestAt s.past 0 ⟨0, ⟨1⟩, ⟨"ann"⟩⟩ := by
    refine ⟨⟨m, hm, heffect⟩, fun later m' other hlater hm' heffect' => ?_⟩
    have hzero := hfirst later m' other hm' heffect'
    omega
  have hlooked : ∀ looked, s.Took looked 0 .listSessions → 0 < looked := by
    rintro looked ⟨m', hm', _, heffect'⟩
    refine Nat.pos_of_ne_zero ?_
    rintro rfl
    rw [Option.some.inj (hm'.symm.trans hm), heffect] at heffect'
    cases heffect'
  have hhow := hthen hnewest fun _ => ⟨0, rfl, hleave, hlooked⟩
  exact ⟨hleft, hover, hhow.1, hgone⟩

/-- The session comes when the instance has taken its leave. It is broken off, and its user stays
    behind. -/
theorem attend_after_leave :
    let s := (Interplay.begin twoInstances
      (annAndLeave.map fun p => ⟨0, p.operation (.standard ⟨"a"⟩)⟩)).run
      (List.replicate 4 (.step 0) ++ List.replicate 8 (.step 1))
    s.result? 0 = some () ∧ s.result? 1 = some () ∧
      (s.cluster.directory 0).find? ⟨"ann"⟩ = some ⟨0, ⟨1⟩, ⟨"ann"⟩⟩ ∧
      s.cluster.Names ⟨"ann"⟩ ⟨"a"⟩ := by
  intro s
  have hnames : ownerIn (s.cluster.seen (Key.registry "ann")) = .ok (some ⟨"a"⟩) := by
    decide +kernel
  exact ⟨by decide +kernel, by decide +kernel, by decide +kernel, hnames⟩

end ChatCluster
