import ChatCluster.Proofs.Cluster.Interleaving
import ChatCluster.Proofs.Liveness.Signs
import ChatCluster.Proofs.Registry.Ownership

/-!
# Taking Leave Among Heartbeats

An instance takes its leave while some of its heartbeats are under way. A heartbeat looks once
whether the instance has stopped, at its beginning, and writes its record later. So one that has
looked in time may write after the record has been deleted, and then there is a record of an
instance that has stopped, for as long as records last. In the same way one that has made the
instance a live one may call it ready when it is no longer.

That is all that can go wrong. A stopped instance stays a stopped one, so a heartbeat that looks
later does nothing. If there is a record when the leave has been taken, some heartbeat looked before
the instance stopped and wrote after the record was deleted (`Beating.looked`), and the record is
gone when its time to live is over.

## Main definitions

* `Cluster.isReady`: An instance is ready for clients.
* `beating`, `leaving`: The rules of heartbeats, and of taking leave.
* `StaysStopped`, `ReadyAgain`, `RecordAgain`: What follows what on record.
* `Heeding`, `Beating`: An instance takes its leave among heartbeats.

## Theorems

* `beating_heartbeat`, `leaving_withdraw`: Heartbeats keep their rules, and so does taking leave.
* `Beating.step`, `Beating.run`: What every turn preserves.
* `withdraw_among_heartbeats`: What is left when an instance has taken its leave.
-/

namespace ChatCluster

open Operation

/-! ## How an instance sees itself -/

namespace Cluster

/-- An instance is ready for clients. One that is not there is not. -/
def isReady (c : Cluster) (host : Nat) : Bool :=
  ((c.hosts.find? host).map Host.ready).getD false

variable {c : Cluster} {host : Nat}

theorem lifecycle_updateHost {f : Host → Host} (other : Nat)
    (hf : ∀ h, h.lifecycle = .stopped → (f h).lifecycle = .stopped)
    (h : c.lifecycle host = .stopped) : (c.updateHost other f).lifecycle host = .stopped := by
  rw [lifecycle] at h
  rw [lifecycle, updateHost, Table.find?_update]
  split
  · cases hhost : c.hosts.find? host with
    | none => rfl
    | some state =>
      rw [hhost] at h
      exact hf state h
  · exact h

theorem isReady_of_updateHost {f : Host → Host} {other : Nat} (hf : ∀ h, (f h).ready = h.ready)
    (h : (c.updateHost other f).isReady host = true) : c.isReady host = true := by
  rw [isReady, updateHost, Table.find?_update] at h
  split at h
  · rw [Option.map_map, show Host.ready ∘ f = Host.ready from funext hf] at h
    exact h
  · exact h

/-- Nothing brings a stopped instance back. -/
theorem lifecycle_perform (h : c.lifecycle host = .stopped) (other : Nat) (e : Effect) :
    (c.perform other e).2.lifecycle host = .stopped := by
  cases e with
  | comeAlive =>
    simp only [perform]
    split
    · next hstarting =>
      -- Whoever comes alive was starting, and is another instance.
      rw [lifecycle, updateHost, Table.find?_update]
      split
      · next heq =>
        rw [lifecycle, heq, hstarting] at h
        cases h
      · exact h
    · exact h
  | stop => exact lifecycle_updateHost other (fun _ _ => rfl) h
  | setReady | insertSession | removeSession =>
    exact lifecycle_updateHost other (fun _ hstate => hstate) h
  | removeSessionIf user id =>
    simp only [perform]
    split
    · exact h
    · split
      · exact lifecycle_updateHost other (fun _ hstate => hstate) h
      · exact h
  | publish topic frame =>
    simp only [perform, publish]
    split <;> exact h
  | offer session item =>
    simp only [perform]
    rcases c.offer_cases session item with ⟨_, hoffer⟩ | ⟨_, _, hoffer⟩ <;>
      (rw [hoffer]; exact h)
  | store | clock | postmark | spareId | findSession | listSessions | countSessions | isOpen
  | lifecycle | warn | count | gaugeSessions => exact h

/-- An instance becomes ready by its own account only. -/
theorem isReady_of_perform {other : Nat} {e : Effect}
    (h : (c.perform other e).2.isReady host = true) :
    c.isReady host = true ∨ other = host ∧ e = .setReady true := by
  cases e with
  | setReady ready =>
    simp only [perform, isReady, updateHost, Table.find?_update] at h
    split at h
    · next heq =>
      cases hhost : c.hosts.find? host with
      | none =>
        rw [hhost] at h
        cases h
      | some state =>
        rw [hhost] at h
        have hready : ready = true := h
        exact Or.inr ⟨heq.symm, by rw [hready]⟩
    · exact Or.inl h
  | comeAlive =>
    simp only [perform] at h
    split at h
    · refine Or.inl (isReady_of_updateHost ?_ h)
      exact fun _ => rfl
    · exact Or.inl h
  | stop | insertSession | removeSession =>
    simp only [perform, updateDirectory] at h
    refine Or.inl (isReady_of_updateHost ?_ h)
    exact fun _ => rfl
  | removeSessionIf user id =>
    simp only [perform, updateDirectory] at h
    split at h
    · exact Or.inl h
    · split at h
      · refine Or.inl (isReady_of_updateHost ?_ h)
        exact fun _ => rfl
      · exact Or.inl h
  | publish topic frame =>
    simp only [perform, publish] at h
    split at h <;> exact Or.inl h
  | offer session item =>
    simp only [perform] at h
    rcases c.offer_cases session item with ⟨_, hoffer⟩ | ⟨_, _, hoffer⟩ <;>
      (rw [hoffer] at h; exact Or.inl h)
  | store | clock | postmark | spareId | findSession | listSessions | countSessions | isOpen
  | lifecycle | warn | count | gaugeSessions => exact Or.inl h

theorem lifecycle_perform_stop (c : Cluster) (host : Nat) :
    (c.perform host .stop).2.lifecycle host = .stopped := by
  simp only [perform, lifecycle, updateHost, Table.find?_update, if_true]
  cases c.hosts.find? host <;> rfl

theorem isReady_perform_clear (c : Cluster) (host : Nat) :
    (c.perform host (.setReady false)).2.isReady host = false := by
  simp only [perform, isReady, updateHost, Table.find?_update, if_true]
  cases c.hosts.find? host <;> rfl

theorem lifecycle_befall (h : c.lifecycle host = .stopped) (o : Outside) :
    (c.befall o).lifecycle host = .stopped := by
  cases o with
  | step other e => exact lifecycle_perform h other e
  | hangUp | wait => exact h
  | setClock other time => exact lifecycle_updateHost other (fun _ hstate => hstate) h

end Cluster

/-- It does not meddle with how an instance shows itself: nobody else writes its record or calls it
    ready. -/
def Outside.SparesSign (self : Monitor) (host : Nat) : Outside → Prop
  | .step other e =>
    e.writes? ≠ some (Key.liveness self.id.text) ∧ (other = host → e ≠ .setReady true)
  | .hangUp _ | .wait _ | .setClock _ _ => True

/-! ## Rules -/

/-- What a heartbeat remembers. -/
structure Beat where
  /-- It has seen that the instance had not stopped. -/
  looked : Bool
  /-- It has made a live instance of a starting one. -/
  came : Bool

/-- Nothing is remembered. -/
def Beat.none : Beat :=
  { looked := false, came := false }

/-- What is remembered after a step and its reply. -/
def Beat.after (b : Beat) : (e : Effect) → e.Reply → Beat
  | .lifecycle, reply => if reply = .stopped then b else { b with looked := true }
  | .comeAlive, true => { b with came := true }
  | _, _ => b

/-- The rules of heartbeats. The record is written only after a look, and the instance is called
    ready only by whoever has made it a live one. -/
def beating (self : Monitor) : Rules Beat where
  allows
    | b, .store call =>
      call.writes? = some (Key.liveness self.id.text) →
        b.looked = true ∧ ∃ text, call = .set (Key.liveness self.id.text) text self.recordTtl
    | b, .setReady ready => ready = true ∧ b.came = true
    | _, .stop => False
    | _, _ => True
  possible _ _ := True
  after := Beat.after

/-- The steps of taking leave. -/
def Monitor.farewell (self : Monitor) : List Effect :=
  [.stop, .setReady false, .store (.delete (Key.liveness self.id.text))]

/-- The rules of taking leave. The steps are taken one after another. -/
def leaving (self : Monitor) : Rules Nat where
  allows n e := self.farewell[n]? = some e
  possible _ _ := True
  after n _ _ := n + 1

section Operations

variable (self : Monitor) (b : Beat)

/-- Entries are no records. -/
theorem beating_refresh (user : UserId) :
    (beating self).Obeys b (self.refresh user) fun _ _ => True := by
  have hentry : Key.registry user.text ≠ Key.liveness self.id.text :=
    Key.registry_ne_liveness user.text self.id.text
  refine ⟨trivial, fun found _ => ?_⟩
  cases found with
  | none => exact trivial
  | some session =>
    refine ⟨trivial, fun isOpen _ => ?_⟩
    cases isOpen with
    | false => exact trivial
    | true =>
      refine ⟨fun hkey => absurd (Option.some.inj hkey) hentry, fun reply _ => ?_⟩
      rcases reply with e | _ | _
      · exact trivial
      · refine ⟨trivial, fun now _ => ⟨fun hkey => absurd (Option.some.inj hkey) hentry, ?_⟩⟩
        rintro (e | _) _ <;> exact trivial
      · exact trivial

theorem beating_refreshEach (sessions : List SessionHandle) (refreshed : Nat) :
    (beating self).Obeys b (self.refreshEach sessions refreshed) fun _ _ => True := by
  induction sessions generalizing b refreshed with
  | nil => exact trivial
  | cons session rest ih =>
    refine Rules.obeys_bind (beating_refresh self b session.user) fun b' reply _ => ?_
    rcases reply with e | _ | _
    · exact ⟨trivial, fun _ _ => ⟨trivial, fun _ _ => ih _ _⟩⟩
    · exact ih _ _
    · exact ih _ _

/-- A heartbeat looks before it writes. -/
theorem beating_heartbeat :
    (beating self).Obeys b self.heartbeat fun _ _ => True := by
  have hrefresh : ∀ b : Beat, (beating self).Obeys b
      (self.refreshAll >>= fun _ => (pure (.ok ()) : Operation (Except StoreError Unit)))
      fun _ _ => True := by
    intro b
    have hall : (beating self).Obeys b self.refreshAll fun _ _ => True :=
      ⟨trivial, fun sessions _ => beating_refreshEach self _ sessions 0⟩
    exact Rules.obeys_bind hall fun _ _ _ => trivial
  have hlook : (beating self).Obeys b (perform .lifecycle)
      fun b' reply => reply ≠ .stopped → b'.looked = true :=
    ⟨trivial, fun reply _ hgoing => by simp only [beating, Beat.after, if_neg hgoing]⟩
  refine Rules.obeys_bind hlook fun b' lifecycle hlooked => ?_
  split
  · exact trivial
  · next hgoing =>
    refine ⟨trivial, fun now _ => ⟨fun _ => ⟨hlooked hgoing, _, rfl⟩, fun reply _ => ?_⟩⟩
    rcases reply with e | _
    · exact trivial
    · refine ⟨trivial, fun came _ => ?_⟩
      cases came with
      | false => exact hrefresh _
      | true => exact ⟨⟨rfl, rfl⟩, fun _ _ => hrefresh _⟩

theorem leaving_withdraw : (leaving self).Obeys 0 self.withdraw fun n _ => n = 3 := by
  refine ⟨rfl, fun _ _ => ⟨rfl, fun _ _ => ⟨rfl, fun reply _ => ?_⟩⟩⟩
  cases reply <;> rfl

end Operations

/-- A heartbeat learns that the instance has not stopped by looking. -/
theorem Beat.looked_after {b : Beat} {m : Moment} (hbefore : ¬b.looked = true)
    (hafter : (b.after m.effect m.reply).looked = true) :
    m.effect = .lifecycle ∧ m.before.lifecycle m.host ≠ .stopped := by
  rcases m with ⟨i, host, c, e⟩
  cases e with
  | lifecycle =>
    refine ⟨rfl, fun hstopped => hbefore ?_⟩
    have hreply : (Moment.mk i host c .lifecycle).reply = .stopped := hstopped
    rw [hreply] at hafter
    exact hafter
  | comeAlive =>
    refine absurd ?_ hbefore
    cases hreply : (Moment.mk i host c .comeAlive).reply <;> (rw [hreply] at hafter; exact hafter)
  | store | publish | clock | postmark | spareId | insertSession | findSession | removeSession
  | removeSessionIf | listSessions | countSessions | isOpen | offer | stop | setReady | warn | count
  | gaugeSessions => exact absurd hafter hbefore

/-- It learns that it has made a live instance of a starting one by doing so. -/
theorem Beat.came_after {b : Beat} {m : Moment} (hbefore : ¬b.came = true)
    (hafter : (b.after m.effect m.reply).came = true) :
    m.effect = .comeAlive ∧ m.before.lifecycle m.host ≠ .stopped := by
  rcases m with ⟨i, host, c, e⟩
  cases e with
  | comeAlive =>
    refine ⟨rfl, fun hstopped => hbefore ?_⟩
    have hreply : (Moment.mk i host c .comeAlive).reply = false := by
      simp only [Moment.reply, Cluster.perform]
      split
      · next hstarting =>
        rw [Cluster.lifecycle, hstarting] at hstopped
        cases hstopped
      · rfl
    rw [hreply] at hafter
    exact hafter
  | lifecycle =>
    refine absurd ?_ hbefore
    simp only [Beat.after] at hafter
    split at hafter <;> exact hafter
  | store | publish | clock | postmark | spareId | insertSession | findSession | removeSession
  | removeSessionIf | listSessions | countSessions | isOpen | offer | stop | setReady | warn | count
  | gaugeSessions => exact absurd hafter hbefore

/-! ## What follows what -/

section Following

variable {self : Monitor} {host : Nat} {c : Cluster} {past : List Moment} {m : Moment} {o : Outside}

/-- An instance that has stopped is a stopped one, and has been since. -/
def StaysStopped (host : Nat) (c : Cluster) (past : List Moment) : Prop :=
  ∀ (j : Nat) stop, past[j]? = some stop → stop.effect = .stop →
    c.lifecycle host = .stopped ∧
      ∀ (k : Nat) later, j < k → past[k]? = some later → later.before.lifecycle host = .stopped

/-- If an instance that was called unready is ready, it has been called ready since. -/
def ReadyAgain (host : Nat) (c : Cluster) (past : List Moment) : Prop :=
  ∀ (j : Nat) cleared, past[j]? = some cleared → cleared.effect = .setReady false →
    c.isReady host = true →
      ∃ (k : Nat) (raised : Moment), j < k ∧ past[k]? = some raised ∧ raised.effect = .setReady true

/-- If there is a record that was deleted, it has been written since. -/
def RecordAgain (self : Monitor) (c : Cluster) (past : List Moment) : Prop :=
  ∀ (j : Nat) gone, past[j]? = some gone →
    gone.effect = .store (.delete (Key.liveness self.id.text)) →
    ∀ slot, c.seen (Key.liveness self.id.text) = some slot →
      ∃ (k : Nat) (written : Moment) (text : String), j < k ∧ past[k]? = some written ∧
        written.effect = .store (.set (Key.liveness self.id.text) text self.recordTtl) ∧
        slot.GoneBy (written.before.now + self.recordTtl)

theorem StaysStopped.concat (h : StaysStopped host c past) (hbefore : m.before = c)
    (hhost : m.host = host) : StaysStopped host m.after (past ++ [m]) := by
  intro j stop hstop heffect
  rcases getElem?_concat_iff.1 hstop with hold | ⟨rfl, rfl⟩
  · rcases h j stop hold heffect with ⟨hnow, hsince⟩
    refine ⟨?_, fun k later hk hlater => ?_⟩
    · rw [Moment.after, hbefore]
      exact Cluster.lifecycle_perform hnow m.host m.effect
    · rcases getElem?_concat_iff.1 hlater with hlater | ⟨_, rfl⟩
      · exact hsince k later hk hlater
      · rw [hbefore]
        exact hnow
  · refine ⟨?_, fun k later hk hlater => ?_⟩
    · rw [Moment.after, heffect, hhost]
      exact Cluster.lifecycle_perform_stop _ host
    · have hlast : k < (past ++ [stop]).length := (List.getElem?_eq_some_iff.1 hlater).1
      rw [List.length_append, List.length_singleton] at hlast
      omega

theorem ReadyAgain.concat (h : ReadyAgain host c past) (hbefore : m.before = c)
    (hhost : m.host = host) : ReadyAgain host m.after (past ++ [m]) := by
  intro j cleared hcleared heffect hready
  rcases getElem?_concat_iff.1 hcleared with hold | ⟨rfl, rfl⟩
  · have hj : j < past.length := (List.getElem?_eq_some_iff.1 hold).1
    rw [Moment.after, hbefore] at hready
    rcases Cluster.isReady_of_perform hready with hready | ⟨_, hraised⟩
    · rcases h j cleared hold heffect hready with ⟨k, raised, hk, hraised, hwhat⟩
      exact ⟨k, raised, hk, getElem?_concat_iff.2 (Or.inl hraised), hwhat⟩
    · exact ⟨past.length, m, hj, getElem?_concat_iff.2 (Or.inr ⟨rfl, rfl⟩), hraised⟩
  · rw [Moment.after, heffect, hhost, Cluster.isReady_perform_clear] at hready
    cases hready

/-- Whoever writes to the record deletes it or writes it anew. -/
theorem RecordAgain.concat (h : RecordAgain self c past) (hbefore : m.before = c)
    (hhealthy : c.store.fault = none)
    (hwrites : m.effect.writes? = some (Key.liveness self.id.text) →
      m.effect = .store (.delete (Key.liveness self.id.text)) ∨
        ∃ text, m.effect = .store (.set (Key.liveness self.id.text) text self.recordTtl)) :
    RecordAgain self m.after (past ++ [m]) := by
  intro j gone hgone heffect slot hslot
  have hdeleted : m.effect = .store (.delete (Key.liveness self.id.text)) →
      m.after.seen (Key.liveness self.id.text) = none := by
    intro hdelete
    rw [Moment.after, hdelete, hbefore]
    exact (congrFun (Cluster.seen_delete m.host _ hhealthy) _).trans (Function.update_self _ _ _)
  rcases getElem?_concat_iff.1 hgone with hold | ⟨rfl, rfl⟩
  · have hj : j < past.length := (List.getElem?_eq_some_iff.1 hold).1
    by_cases hkey : m.effect.writes? = some (Key.liveness self.id.text)
    · rcases hwrites hkey with hdelete | ⟨text, hset⟩
      · rw [hdeleted hdelete] at hslot
        cases hslot
      · refine ⟨past.length, m, text, hj, getElem?_concat_iff.2 (Or.inr ⟨rfl, rfl⟩), hset, ?_⟩
        have hrenewed := (congrFun (Cluster.seen_set m.host (Key.liveness self.id.text) text
          self.recordTtl hhealthy) _).trans (Function.update_self _ _ _)
        rw [Moment.after, hset, hbefore] at hslot
        rw [hbefore]
        exact goneBy_of_renewed (hrenewed.symm.trans hslot)
    · rw [Moment.after, hbefore, Cluster.seen_perform_of_ne hkey] at hslot
      rcases h j gone hold heffect slot hslot with ⟨k, written, text, hk, hwritten, hwhat⟩
      exact ⟨k, written, text, hk, getElem?_concat_iff.2 (Or.inl hwritten), hwhat⟩
  · rw [hdeleted heffect] at hslot
    cases hslot

theorem StaysStopped.befall (h : StaysStopped host c past) : StaysStopped host (c.befall o) past :=
  fun j stop hstop heffect =>
    ⟨Cluster.lifecycle_befall (h j stop hstop heffect).1 o, (h j stop hstop heffect).2⟩

theorem ReadyAgain.befall (h : ReadyAgain host c past) (hspares : o.SparesSign self host) :
    ReadyAgain host (c.befall o) past := by
  intro j cleared hcleared heffect hready
  refine h j cleared hcleared heffect ?_
  cases o with
  | step other e =>
    rcases Cluster.isReady_of_perform hready with hready | ⟨hother, hraised⟩
    · exact hready
    · exact absurd hraised (hspares.2 hother)
  | hangUp | wait => exact hready
  | setClock other time =>
    refine Cluster.isReady_of_updateHost ?_ hready
    exact fun _ => rfl

theorem RecordAgain.befall (h : RecordAgain self c past) (hspares : o.SparesSign self host) :
    RecordAgain self (c.befall o) past := by
  intro j gone hgone heffect slot hslot
  refine h j gone hgone heffect slot (Cluster.seen_of_befall ?_ hslot)
  cases o with
  | step other e => exact hspares.1
  | hangUp | wait | setClock => exact trivial

end Following

/-! ## Turns -/

/-- An instance takes its leave among heartbeats of its own, and all of them keep their rules. -/
structure Heeding (s : Interplay (Except StoreError Unit)) (p : Monitor) (host : Nat) : Prop
    where
  healthy : s.cluster.store.fault = none
  leave : s.Conducts 0 host (leaving p) 0 fun n _ => n = 3
  beats : ∀ i, 0 < i → i < s.errands.length →
    s.Conducts i host (beating p) .none fun _ _ => True
  numbered : s.Numbered

/-- And what has been undone is done again only by somebody on record. -/
structure Beating (s : Interplay (Except StoreError Unit)) (p : Monitor) (host : Nat) : Prop
    extends Heeding s p host where
  stopped : StaysStopped host s.cluster s.past
  ready : ReadyAgain host s.cluster s.past
  record : RecordAgain p s.cluster s.past

section Turns

variable {s : Interplay (Except StoreError Unit)} {p : Monitor} {host : Nat} {o : Outside}
  {k : Nat} {m : Moment}

theorem Heeding.host_eq (h : Heeding s p host) (hm : s.past[k]? = some m) : m.host = host := by
  by_cases hzero : m.errand = 0
  · exact (h.leave.allowed k m hm hzero).1
  · exact ((h.beats m.errand (Nat.pos_of_ne_zero hzero) (h.numbered k m hm)).allowed k m hm rfl).1

/-- Whoever writes to the record is the one who takes the leave, and deletes it, or a heartbeat. -/
theorem Heeding.writes (h : Heeding s p host) (hm : s.past[k]? = some m)
    (hwrites : m.effect.writes? = some (Key.liveness p.id.text)) :
    m.errand = 0 ∧ m.effect = .store (.delete (Key.liveness p.id.text)) ∨
      0 < m.errand ∧
        ∃ text, m.effect = .store (.set (Key.liveness p.id.text) text p.recordTtl) := by
  by_cases hzero : m.errand = 0
  · have hstep : m.effect ∈ p.farewell :=
      List.mem_of_getElem? (h.leave.allowed k m hm hzero).2
    simp only [Monitor.farewell, List.mem_cons, List.not_mem_nil, or_false] at hstep
    rcases hstep with heffect | heffect | heffect
    · rw [heffect] at hwrites
      cases hwrites
    · rw [heffect] at hwrites
      cases hwrites
    · exact Or.inl ⟨hzero, heffect⟩
  · have hpos : 0 < m.errand := Nat.pos_of_ne_zero hzero
    have hallows := ((h.beats m.errand hpos (h.numbered k m hm)).allowed k m hm rfl).2
    cases heffect : m.effect with
    | store call =>
      rw [heffect] at hallows hwrites
      rcases (hallows hwrites).2 with ⟨text, hset⟩
      exact Or.inr ⟨hpos, text, by rw [hset]⟩
    | publish | clock | postmark | spareId | insertSession | findSession | removeSession
    | removeSessionIf | listSessions | countSessions | isOpen | offer | lifecycle | comeAlive | stop
    | setReady | warn | count | gaugeSessions =>
      rw [heffect] at hwrites
      cases hwrites

theorem Heeding.step (h : Heeding s p host) (i : Nat) : Heeding (s.step i) p host where
  healthy := (s.fault_step i).trans h.healthy
  leave := h.leave.step (fun _ => trivial) i
  beats j hj hlength := by
    rw [s.length_step i] at hlength
    exact (h.beats j hj hlength).step (fun _ => trivial) i
  numbered := h.numbered.step i

theorem Beating.step (h : Beating s p host) (i : Nat) : Beating (s.step i) p host := by
  have hheeding := h.toHeeding.step i
  rcases s.step_cases i with hsame | ⟨host', e, next, herrand, hstep⟩
  · rw [hsame]
    exact h
  · -- The new step is on record, so it was allowed.
    have hlast : (s.step i).past[s.past.length]? = some ⟨i, host', s.cluster, e⟩ := by
      rw [hstep]
      exact List.getElem?_concat_length
    have hhost : host' = host := hheeding.host_eq hlast
    have hwrites := hheeding.writes hlast
    rw [hstep] at hheeding ⊢
    exact
      { hheeding with
        stopped := h.stopped.concat rfl hhost
        ready := h.ready.concat rfl hhost
        record := h.record.concat rfl h.healthy fun hkey =>
          (hwrites hkey).imp And.right And.right }

theorem Beating.outside (h : Beating s p host) (hspares : o.SparesSign p host) :
    Beating { s with cluster := s.cluster.befall o } p host where
  healthy := (Cluster.fault_befall o).trans h.healthy
  leave := h.leave.outside o
  beats i hi hlength := (h.beats i hi hlength).outside o
  numbered := h.numbered
  stopped := h.stopped.befall
  ready := h.ready.befall hspares
  record := h.record.befall hspares

theorem beating_begin {c : Cluster} (hhealthy : c.store.fault = none) (beats : Nat) :
    Beating (.begin c (⟨host, p.withdraw⟩ :: List.replicate beats ⟨host, p.heartbeat⟩)) p host where
  healthy := hhealthy
  leave := Interplay.conducts_begin rfl (leaving_withdraw p)
  beats i hi hlength := by
    refine Interplay.conducts_begin ?_ (beating_heartbeat p .none)
    rcases i with _ | i
    · omega
    · simp only [Interplay.begin, List.length_cons, List.length_replicate] at hlength
      rw [List.getElem?_cons_succ, List.getElem?_replicate, if_pos (by omega)]
  numbered := Interplay.numbered_begin _ _
  stopped j stop hstop := by cases hstop
  ready j cleared hcleared := by cases hcleared
  record j gone hgone := by cases hgone

theorem Beating.run (h : Beating s p host) {events : List Turn}
    (hspares : ∀ o, .outside o ∈ events → o.SparesSign p host) :
    Beating (s.run events) p host :=
  Interplay.run_induction (P := fun s => Beating s p host) h (fun _ i _ h => h.step i)
    fun _ o ho h => h.outside (hspares o ho)

/-! ## When the leave has been taken -/

-- Every step of the leave is counted, so the one before it can be told.
theorem exists_of_leaving {past : List Moment} {n : Nat}
    (h : (leaving p).notes 0 0 past = n + 1) :
    ∃ (k : Nat) (m : Moment), past[k]? = some m ∧ m.errand = 0 ∧
      (leaving p).notes 0 0 (past.take k) = n := by
  rcases Rules.exists_of_notes (P := fun count => n + 1 ≤ count) (by simp)
    h.ge with ⟨k, m, hm, hzero, hbefore, hafter⟩
  have hcount : n + 1 ≤ (leaving p).notes 0 0 (past.take k) + 1 := hafter
  exact ⟨k, m, hm, hzero, by omega⟩

/-- The three steps of taking leave, in their order. -/
theorem Heeding.left (h : Heeding s p host) (hover : s.result? 0 ≠ none) :
    ∃ a b c, a < b ∧ b < c ∧ s.Took a 0 .stop ∧ s.Took b 0 (.setReady false) ∧
      s.Took c 0 (.store (.delete (Key.liveness p.id.text))) := by
  have hthree : (leaving p).notes 0 0 s.past = 3 := by
    rcases h.leave.rest with ⟨rest, hrest, hobeys⟩
    simp only [Interplay.result?, hrest] at hover
    cases rest with
    | done a => exact hobeys
    | ask e next => exact absurd rfl hover
  rcases exists_of_leaving hthree with ⟨c, gone, hgone, hzero, htwo⟩
  rcases exists_of_leaving htwo with ⟨b, cleared, hcleared, hzero', hone⟩
  rcases getElem?_take_eq_some hcleared with ⟨hbc, hcleared, htake⟩
  rw [htake] at hone
  rcases exists_of_leaving hone with ⟨a, stop, hstop, hzero'', hnone⟩
  rcases getElem?_take_eq_some hstop with ⟨hab, hstop, htake⟩
  rw [htake] at hnone
  have hgone' := (h.leave.allowed c gone hgone hzero).2
  have hcleared' := (h.leave.allowed b cleared hcleared hzero').2
  have hstop' := (h.leave.allowed a stop hstop hzero'').2
  rw [htwo] at hgone'
  rw [hone] at hcleared'
  rw [hnone] at hstop'
  exact ⟨a, b, c, hab, hbc, ⟨stop, hstop, hzero'', (Option.some.inj hstop').symm⟩,
    ⟨cleared, hcleared, hzero', (Option.some.inj hcleared').symm⟩,
    ⟨gone, hgone, hzero, (Option.some.inj hgone').symm⟩⟩

/-- Whoever met an instance that had not stopped did so before it stopped. -/
theorem Beating.lt_stop (h : Beating s p host) {j : Nat} {stop : Moment}
    (hstop : s.past[j]? = some stop) (heffect : stop.effect = .stop)
    (hm : s.past[k]? = some m) (hgoing : m.before.lifecycle host ≠ .stopped)
    (hne : m.effect ≠ .stop) : k < j := by
  rcases Nat.lt_trichotomy k j with hlt | rfl | hgt
  · exact hlt
  · rw [Option.some.inj (hm.symm.trans hstop)] at hne
    exact absurd heffect hne
  · exact absurd ((h.stopped j stop hstop heffect).2 k m hgt hm) hgoing

/-- What a heartbeat can learn only of an instance that has not stopped it has learnt before the
    instance stopped. -/
theorem Beating.learnt (h : Beating s p host) {P : Beat → Prop} {e : Effect} (hstart : ¬P .none)
    (hlearns : ∀ (b : Beat) (m : Moment), ¬P b → P (b.after m.effect m.reply) →
      m.effect = e ∧ m.before.lifecycle m.host ≠ .stopped) (hne : e ≠ .stop)
    {i : Nat} (hknown : P ((beating p).notes .none i (s.past.take k))) {j : Nat}
    (hstop : s.Took j 0 .stop) : ∃ a < j, s.Took a i e := by
  rcases Rules.exists_of_notes hstart hknown with ⟨a, learns, hlearnt, herrand, hbefore, hafter⟩
  rcases getElem?_take_eq_some hlearnt with ⟨_, hlearnt, _⟩
  rcases hlearns _ learns hbefore hafter with ⟨heffect, hgoing⟩
  rw [h.host_eq hlearnt] at hgoing
  rcases hstop with ⟨stop, hstop, _, hstopped⟩
  exact ⟨a, h.lt_stop hstop hstopped hlearnt hgoing (heffect ▸ hne), learns, hlearnt, herrand,
    heffect⟩

/-- A heartbeat that writes the record has looked before the instance stopped. -/
theorem Beating.looked (h : Beating s p host) {text : String} (hm : s.past[k]? = some m)
    (heffect : m.effect = .store (.set (Key.liveness p.id.text) text p.recordTtl)) {j : Nat}
    (hstop : s.Took j 0 .stop) :
    0 < m.errand ∧ ∃ a < j, s.Took a m.errand .lifecycle := by
  have hpos : 0 < m.errand := by
    rcases h.writes hm (by rw [heffect]; rfl) with ⟨_, hdelete⟩ | ⟨hpos, _⟩
    · rw [heffect] at hdelete
      cases hdelete
    · exact hpos
  have hallows := ((h.beats m.errand hpos (h.numbered k m hm)).allowed k m hm rfl).2
  rw [heffect] at hallows
  exact ⟨hpos, h.learnt (P := fun b => b.looked = true) (by simp [Beat.none])
    (fun _ _ => Beat.looked_after) (by simp) (hallows rfl).1 hstop⟩

/-- A heartbeat that calls the instance ready has made it a live one before it stopped. -/
theorem Beating.came (h : Beating s p host) (hm : s.past[k]? = some m)
    (heffect : m.effect = .setReady true) {j : Nat} (hstop : s.Took j 0 .stop) :
    0 < m.errand ∧ ∃ a < j, s.Took a m.errand .comeAlive := by
  have hpos : 0 < m.errand := by
    refine Nat.pos_of_ne_zero fun hzero => ?_
    have hstep : m.effect ∈ p.farewell :=
      List.mem_of_getElem? (h.leave.allowed k m hm hzero).2
    rw [heffect] at hstep
    simp [Monitor.farewell] at hstep
  have hallows := ((h.beats m.errand hpos (h.numbered k m hm)).allowed k m hm rfl).2
  rw [heffect] at hallows
  exact ⟨hpos, h.learnt (P := fun b => b.came = true) (by simp [Beat.none])
    (fun _ _ => Beat.came_after) (by simp) hallows.2 hstop⟩

end Turns

open Cluster in
/-- An instance takes its leave while any number of its heartbeats are under way, on a store that
    answers, and the steps of all of them are taken in any order. When the leave has been taken, the
    instance has stopped. If it is ready all the same, a heartbeat made it a live instance before it
    stopped, and called it ready after the leave had called it unready. If there is a record of it,
    and there is one if anybody finds it alive, a heartbeat looked before it stopped and wrote after
    the leave had deleted the record; and then the record expires in its time. -/
theorem withdraw_among_heartbeats {self : Monitor} {host : Nat} {c : Cluster}
    (hhealthy : c.store.fault = none) (beats : Nat) {events : List Turn}
    (hspares : ∀ o, .outside o ∈ events → o.SparesSign self host) :
    let s := (Interplay.begin c (⟨host, self.withdraw⟩ ::
      List.replicate beats ⟨host, self.heartbeat⟩)).run events
    s.result? 0 ≠ none →
      s.cluster.lifecycle host = .stopped ∧
      (s.cluster.isReady host = true →
        ∃ came stopped cleared raised i, came < stopped ∧ stopped < cleared ∧ cleared < raised ∧
          0 < i ∧ s.Took came i .comeAlive ∧ s.Took stopped 0 .stop ∧
          s.Took cleared 0 (.setReady false) ∧ s.Took raised i (.setReady true)) ∧
      (∀ slot, s.cluster.seen (Key.liveness self.id.text) = some slot →
        ∃ looked stopped deleted written m text, looked < stopped ∧ stopped < deleted ∧
          deleted < written ∧ s.past[written]? = some m ∧ 0 < m.errand ∧
          s.Took looked m.errand .lifecycle ∧ s.Took stopped 0 .stop ∧
          s.Took deleted 0 (.store (.delete (Key.liveness self.id.text))) ∧
          m.effect = .store (.set (Key.liveness self.id.text) text self.recordTtl) ∧
          slot.GoneBy (m.before.now + self.recordTtl)) ∧
      ∀ peer live, (s.cluster.runAlone peer Monitor.liveInstances).1 = .ok live →
        self.id ∈ live → ∃ slot, s.cluster.seen (Key.liveness self.id.text) = some slot := by
  intro s hover
  have h : Beating s self host := (beating_begin hhealthy beats).run hspares
  rcases h.left hover with ⟨stopped, cleared, deleted, hsc, hcd, hstopped, hcleared, hdeleted⟩
  have hstop := hstopped
  rcases hstop with ⟨stop, hstop, _, hstopEffect⟩
  refine ⟨(h.stopped stopped stop hstop hstopEffect).1, fun hready => ?_, fun slot hslot => ?_,
    fun peer live hlive hmem => seen_of_mem_liveInstances peer hlive hmem⟩
  · rcases hcleared with ⟨clear, hclear, hzero, hclearEffect⟩
    rcases h.ready cleared clear hclear hclearEffect hready with ⟨raised, raise, hlt, hraise, hwhat⟩
    rcases h.came hraise hwhat hstopped with ⟨hpos, came, hcs, hcame⟩
    exact ⟨came, stopped, cleared, raised, raise.errand, hcs, hsc, hlt, hpos, hcame, hstopped,
      ⟨clear, hclear, hzero, hclearEffect⟩, ⟨raise, hraise, rfl, hwhat⟩⟩
  · rcases hdeleted with ⟨gone, hgone, hzero, hgoneEffect⟩
    rcases h.record deleted gone hgone hgoneEffect slot hslot with
      ⟨written, m, text, hlt, hm, hwhat, hexpires⟩
    rcases h.looked hm hwhat hstopped with ⟨hpos, looked, hls, hlooked⟩
    exact ⟨looked, stopped, deleted, written, m, text, hls, hsc.trans hcd, hlt, hm, hpos, hlooked,
      hstopped, ⟨gone, hgone, hzero, hgoneEffect⟩, hwhat, hexpires⟩

/-- A heartbeat has looked, then the leave is taken, and then the heartbeat goes on. -/
def overtaken : List Turn :=
  [.step 1, .step 1, .step 0, .step 0, .step 0] ++ List.replicate 3 (.step 1)

open Cluster in
/-- The instance has stopped, everything has ended, and the other instance still finds it alive. -/
theorem withdraw_overtaken :
    let self : Monitor := (Profile.standard ⟨"a"⟩).monitor
    let s := (Interplay.begin twoInstances
      (⟨0, self.withdraw⟩ :: List.replicate 1 ⟨0, self.heartbeat⟩)).run overtaken
    s.result? 0 = some (.ok ()) ∧ s.result? 1 = some (.ok ()) ∧
      s.cluster.lifecycle 0 = .stopped ∧
      (s.cluster.runAlone 1 Monitor.liveInstances).1 = .ok [⟨"a"⟩] ∧
      ∃ looked deleted i, looked < deleted ∧ 0 < i ∧ s.Took looked i .lifecycle ∧
        s.Took deleted 0 (.store (.delete (Key.liveness "a"))) := by
  intro self s
  have hended : s.result? 0 = some (.ok ()) ∧ s.result? 1 = some (.ok ()) := by
    decide +kernel
  have hfound : (s.cluster.runAlone 1 Monitor.liveInstances).1 = .ok [⟨"a"⟩] := by
    decide +kernel
  have hover : s.result? 0 ≠ none := by
    rw [hended.1]
    exact Option.some_ne_none _
  have hspares : ∀ o, .outside o ∈ overtaken → o.SparesSign self 0 := by simp [overtaken]
  rcases withdraw_among_heartbeats (c := twoInstances) rfl 1 hspares hover with
    ⟨hstopped, _, hrecord, halive⟩
  rcases halive 1 _ hfound List.mem_cons_self with ⟨slot, hslot⟩
  rcases hrecord slot hslot with
    ⟨looked, stopped, deleted, _, m, _, hls, hsd, _, _, hpos, hlooked, _, hdeleted, _⟩
  exact ⟨hended.1, hended.2, hstopped, hfound, looked, deleted, m.errand, hls.trans hsd, hpos,
    hlooked, hdeleted⟩

end ChatCluster
