import ChatCluster.Proofs.Registry.Entries
import ChatCluster.Proofs.Instance.Footprint

/-!
# Who Renews an Entry

The rules that the registry of one instance keeps about the entry of one user, whatever goes on
around it. Nothing is written there but entries that name the instance, and nothing is given another
time to live than that of its entries. Deleting is always allowed, but renewing is not: an entry is
written or extended only by an operation that has taken a session of the user in, or has looked the
session up and found it open.

Between finding the session open and renewing the entry others may act, and the session may close or
be let go. So it cannot be said that a session is open when its entry is renewed. What can be said
is that an operation that finds none open renews nothing.

## Main definitions

* `Notes`: What is remembered.
* `StoreCall.Tends`, `tending`: What may be done to the entry, and the rules.

## Theorems

* `tending_of_within`: What writes to other keys only.
* `tending_register`, `tending_unregisterIf`, `tending_refresh`, `tending_timedHeartbeat`: The
  operations that write to entries.
* `seen_perform_of_tending`: What a step that is allowed does to the entry.
-/

namespace ChatCluster

open Operation

/-- What an operation remembers about the user whose entry it may renew. -/
structure Notes where
  /-- The session of the user, as it was last looked up. -/
  found : Option SessionHandle
  /-- It may renew the entry. -/
  renews : Bool

/-- What is remembered after a step and its reply. Looking the session up again begins anew. -/
def Notes.after (user : UserId) (n : Notes) : (e : Effect) → e.Reply → Notes
  | .findSession other, reply => if other = user then { found := reply, renews := false } else n
  | .isOpen session, true => if n.found = some session then { n with renews := true } else n
  | _, _ => n

/-- What may be done to the entry of a user. -/
def StoreCall.Tends (self : Registrar) (renews : Bool) : StoreCall → Prop
  | .set _ text ttl =>
    renews = true ∧ ttl = self.entryTtl ∧ ∃ e : RegistryEntry, text = e.toJson ∧ e.owner = self.id
  | .expire _ ttl => renews = true ∧ ttl = self.entryTtl
  | .delete _ => True
  | .get _ | .keys _ | .members _ | .addMember _ _ | .removeMember _ _ => False

/-- The rules of tending the entry of a user. -/
def tending (self : Registrar) (user : UserId) : Rules Notes where
  allows
    | n, .store call =>
      call.writes? = some (Key.registry user.text) → call.Tends self n.renews
    | n, .insertSession session => session.user = user → n.renews = true
    | _, _ => True
  possible _ _ := True
  after := Notes.after user

section Operations

variable {self : Registrar} {user : UserId} {n : Notes}

/-- What writes to other keys only has nothing to do with the entry. -/
theorem tending_of_within {α : Type} {keys : String → Prop} {op : Operation α}
    (h : Within keys op) (hkey : ¬keys (Key.registry user.text)) :
    (tending self user).Obeys n op fun _ _ => True := by
  induction op generalizing n with
  | done a => exact trivial
  | ask e next ih =>
    refine ⟨?_, fun reply _ => ih reply (h.2 reply trivial)⟩
    cases e with
    | store call => exact fun hwrites => absurd (h.1 _ hwrites) hkey
    | insertSession session => exact absurd h.1 id
    | publish | clock | postmark | spareId | findSession | removeSession | removeSessionIf
    | listSessions | countSessions | isOpen | offer | lifecycle | comeAlive | stop | setReady | warn
    | count | gaugeSessions => exact trivial

/-- What writes to no key at all. -/
theorem tending_idle {α : Type} {op : Operation α} (h : Within (fun _ => False) op) :
    (tending self user).Obeys n op fun _ _ => True :=
  tending_of_within h id

/-- Counting the sessions looks none up. -/
theorem tending_gauge : (tending self user).Obeys n Registrar.gauge fun n' _ => n' = n :=
  ⟨trivial, fun _ _ => ⟨trivial, fun _ _ => rfl⟩⟩

theorem tending_writeEntry (h : n.renews = true) :
    (tending self user).Obeys n (self.writeEntry user) fun _ _ => True :=
  ⟨trivial, fun _ _ => ⟨fun _ => ⟨h, rfl, _, rfl, rfl⟩, fun _ _ => trivial⟩⟩

/-- Whoever attaches is put into the directory and named in an entry. -/
theorem tending_register {session : SessionHandle} (huser : session.user = user)
    (h : n.renews = true) :
    (tending self user).Obeys n (self.register session) fun _ _ => True := by
  have hinsert : (tending self user).Obeys n (perform (.insertSession session))
      fun n' _ => n' = n := ⟨fun _ => h, fun _ _ => rfl⟩
  refine Rules.obeys_bind hinsert ?_
  rintro _ superseded rfl
  refine Rules.obeys_bind tending_gauge ?_
  rintro _ _ rfl
  rw [huser]
  refine Rules.obeys_bind (tending_writeEntry h) fun _ reply _ => ?_
  rcases reply with e | _
  · exact tending_idle
      (within_bind (within_warn _) fun _ => within_bind (within_count _) fun _ => within_pure _)
  · exact trivial

/-- An entry that is given up is deleted, if anything is done to it. -/
theorem tending_release : (tending self user).Obeys n (self.release user) fun _ _ => True := by
  have hdelete : ∀ n : Notes, (tending self user).Obeys n
      (store (.delete (Key.registry user.text))) fun _ _ => True :=
    fun n => ⟨fun _ => trivial, fun _ _ => trivial⟩
  have hown : (tending self user).Obeys n (self.deleteOwnEntry user) fun _ _ => True := by
    refine Rules.obeys_bind (tending_idle (within_readEntry user)) fun n' reply _ => ?_
    rcases reply with e | _ | entry
    · cases e with
      | codec => exact hdelete n'
      | unavailable | timeout => exact trivial
    · exact trivial
    · simp only
      split
      · exact trivial
      · exact hdelete n'
  refine Rules.obeys_bind hown fun _ reply _ => ?_
  rcases reply with e | done
  · exact tending_idle (within_bind (within_warn _) fun _ => within_count _)
  · exact trivial

theorem tending_unregisterIf (id : SessionId) :
    (tending self user).Obeys n (self.unregisterIf user id) fun _ _ => True := by
  have hremove : Within (fun _ => False) (perform (.removeSessionIf user id)) :=
    within_perform trivial
  refine Rules.obeys_bind (tending_idle hremove) fun _ reply _ => ?_
  cases reply with
  | none => exact trivial
  | some session =>
    refine Rules.obeys_bind tending_gauge fun _ _ _ => ?_
    exact Rules.obeys_bind tending_release fun _ _ _ => trivial

/-- The entry of a user is extended or written only if the session was found open, and the entries
    of others are others. -/
theorem tending_refresh (other : UserId) :
    (tending self user).Obeys n (self.refresh other) fun _ _ => True := by
  by_cases hother : other = user
  · subst hother
    have hfind : (tending self other).Obeys n (perform (.findSession other))
        fun n' found => n' = { found, renews := false } := ⟨trivial, fun _ _ => if_pos rfl⟩
    refine Rules.obeys_bind hfind ?_
    rintro _ found rfl
    cases found with
    | none => exact trivial
    | some session =>
      have hisOpen : (tending self other).Obeys { found := some session, renews := false }
          (perform (.isOpen session)) fun n' isOpen => isOpen = true → n'.renews = true := by
        refine ⟨trivial, ?_⟩
        rintro isOpen _ rfl
        -- This is the session that was found.
        simp only [tending, Notes.after, if_true]
      refine Rules.obeys_bind hisOpen fun n' isOpen hopen => ?_
      cases isOpen with
      | false => exact trivial
      | true =>
        have hextend : (tending self other).Obeys n'
            (store (.expire (Key.registry other.text) self.entryTtl)) fun n'' _ => n'' = n' :=
          ⟨fun _ => ⟨hopen rfl, rfl⟩, fun _ _ => rfl⟩
        refine Rules.obeys_bind hextend ?_
        rintro _ reply rfl
        rcases reply with e | _ | _
        · exact trivial
        · refine Rules.obeys_bind (tending_writeEntry (hopen rfl)) fun _ reply _ => ?_
          rcases reply with e | _ <;> exact trivial
        · exact trivial
  · have hwithin : Within (fun key => key = Key.registry other.text) (self.refresh other) :=
      within_refresh self rfl
    exact tending_of_within hwithin fun hkey => hother (Key.registry_inj.1 hkey).symm

/-- Users are refreshed one after another, and the user may be among them or not. -/
theorem tending_refreshEach (sessions : List SessionHandle) (refreshed : Nat) :
    (tending self user).Obeys n (self.refreshEach sessions refreshed) fun _ _ => True := by
  induction sessions generalizing n refreshed with
  | nil => exact trivial
  | cons session rest ih =>
    refine Rules.obeys_bind (tending_refresh session.user) fun _ reply _ => ?_
    rcases reply with e | _ | _
    · refine Rules.obeys_bind (tending_idle (within_warn _)) fun _ _ _ => ?_
      exact Rules.obeys_bind (tending_idle (within_count _)) fun _ _ _ => ih _
    · exact ih _
    · exact ih _

theorem tending_refreshAll : (tending self user).Obeys n self.refreshAll fun _ _ => True := by
  have hlist : Within (fun _ => False) (perform .listSessions) := within_perform trivial
  exact Rules.obeys_bind (tending_idle hlist) fun _ sessions _ => tending_refreshEach sessions 0

/-- A heartbeat renews entries in refreshing them only. -/
theorem tending_timedHeartbeat (node : Profile) :
    (tending node.registrar user).Obeys n node.timedHeartbeat fun _ _ => True := by
  have hsign : Key.liveness node.id.text ≠ Key.registry user.text :=
    (Key.registry_ne_liveness user.text node.id.text).symm
  have hrefresh : ∀ n : Notes, (tending node.registrar user).Obeys n
      (node.registrar.refreshAll >>= fun _ => (pure (.ok ()) : Operation (Except StoreError Unit)))
      fun _ _ => True :=
    fun n => Rules.obeys_bind tending_refreshAll fun _ _ _ => trivial
  have hheartbeat : (tending node.registrar user).Obeys n node.monitor.heartbeat
      fun _ _ => True := by
    refine Rules.obeys_bind (tending_idle (within_perform trivial)) fun _ lifecycle _ => ?_
    split
    · exact trivial
    · refine Rules.obeys_bind (tending_idle (within_perform trivial)) fun _ now _ => ?_
      refine Rules.obeys_bind (tending_of_within (within_write rfl rfl) hsign) fun _ reply _ => ?_
      rcases reply with e | _
      · exact trivial
      · refine Rules.obeys_bind (tending_idle (within_perform trivial)) fun n' came _ => ?_
        cases came with
        | false => exact hrefresh n'
        | true =>
          exact Rules.obeys_bind (tending_idle (within_perform trivial)) fun n' _ _ => hrefresh n'
  refine Rules.obeys_bind hheartbeat fun _ reply _ => ?_
  rcases reply with e | _
  · exact tending_idle (within_bind (within_warn _) fun _ => within_count _)
  · exact trivial

end Operations

/-- A step that is allowed deletes the entry, or renews the one that is seen or another that names
    the instance. -/
theorem Cluster.seen_perform_of_tending {c : Cluster} {self : Registrar} {user : UserId} {n : Notes}
    {e : Effect} (host : Nat) (hhealthy : c.store.fault = none)
    (hallows : (tending self user).allows n e)
    (hwrites : e.writes? = some (Key.registry user.text)) :
    (c.perform host e).2.seen (Key.registry user.text) = none ∨
      n.renews = true ∧ ∃ slot : Slot,
        (c.seen (Key.registry user.text) = some slot ∨ ownerIn (some slot) = .ok (some self.id)) ∧
        (c.perform host e).2.seen (Key.registry user.text) =
          slot.renewed c.now self.entryTtl := by
  cases e with
  | store call =>
    have htends := hallows hwrites
    cases call with
    | set key text ttl =>
      rcases htends with ⟨hrenews, rfl, e, rfl, howner⟩
      have hkey : key = Key.registry user.text := Option.some.inj hwrites
      subst hkey
      refine Or.inr ⟨hrenews, e.slot, Or.inr (by rw [ownerIn_entry, howner]), ?_⟩
      have hset := seen_set host (Key.registry user.text) e.toJson self.entryTtl hhealthy
      exact (congrFun hset _).trans (Function.update_self _ _ _)
    | expire key ttl =>
      rcases htends with ⟨hrenews, rfl⟩
      have hkey : key = Key.registry user.text := Option.some.inj hwrites
      subst hkey
      have hexpire := (congrFun (seen_expire host (Key.registry user.text) self.entryTtl hhealthy)
        (Key.registry user.text)).trans (Function.update_self _ _ _)
      cases hslot : c.seen (Key.registry user.text) with
      | none =>
        rw [hslot, Option.bind_none] at hexpire
        exact Or.inl hexpire
      | some slot =>
        rw [hslot, Option.bind_some] at hexpire
        exact Or.inr ⟨hrenews, slot, Or.inl rfl, hexpire⟩
    | delete key =>
      have hkey : key = Key.registry user.text := Option.some.inj hwrites
      subst hkey
      have hdelete := seen_delete host (Key.registry user.text) hhealthy
      exact Or.inl ((congrFun hdelete _).trans (Function.update_self _ _ _))
    | get | keys | members | addMember | removeMember => exact absurd htends id
  | publish | clock | postmark | spareId | insertSession | findSession | removeSession
  | removeSessionIf | listSessions | countSessions | isOpen | offer | lifecycle | comeAlive | stop
  | setReady | warn | count | gaugeSessions =>
    simp only [Effect.writes?, reduceCtorEq] at hwrites

end ChatCluster
