import ChatCluster.Proofs.Cluster.Interleaving
import ChatCluster.Proofs.Instance.Serving

/-!
# What Is Still to Be Done for a Session That Goes

The rules that an instance keeps when it lets sessions go, whatever goes on around it. Whoever takes
a session out of the directory owes the user's entry from then on, until it has been found not to
name the instance or has been deleted. Nobody who still owes an entry takes out another session, and
nobody ends before everything is done that was to be done.

What is to be done is remembered as dues. A session that is not broken off is due to be let go from
its beginning, and all sessions are that are there when an instance that takes its leave looks. That
is the one thing that is not in the rules: whether a session is there in time to be seen.

## Main definitions

* `entryOwner?`, `Effect.Claims`: Whom a text names, and who writes it.
* `Profile.attend`: A session from its beginning to its end.
* `Dues`, `minding`: What is still to be done, and the rules.

## Theorems

* `Cluster.names_perform`: How an entry comes to name an instance.
* `minding_of_settled`: Who lets nobody in or go has nothing to do with dues.
* `minding_attend`, `minding_leave`, `minding_timedHeartbeat`: Nothing is left undone.
-/

namespace ChatCluster

open Operation

/-! ## Entries -/

/-- The instance that a text names, if it is an entry. -/
def entryOwner? (text : Option String) : Option InstanceId :=
  (text.bind RegistryEntry.ofJson?).map RegistryEntry.owner

theorem entryOwner?_eq_some_iff {slot : Option Slot} {id : InstanceId} :
    entryOwner? (slot.bind Slot.text?) = some id ↔ ownerIn slot = .ok (some id) := by
  rw [entryOwner?, ownerIn]
  cases slot.bind Slot.text? with
  | none => simp only [Option.bind_none, Option.map_none, reduceCtorEq, Except.ok.injEq]
  | some text =>
    cases hentry : RegistryEntry.ofJson? text with
    | none => simp only [hentry, Option.bind_some, Option.map_none, reduceCtorEq]
    | some entry =>
      simp only [hentry, Option.bind_some, Option.map_some, Option.some.injEq, Except.ok.injEq]

/-- The step writes an entry of the user that names the instance. -/
def Effect.Claims (user : UserId) (id : InstanceId) (e : Effect) : Prop :=
  ∃ text ttl, e = .store (.set (Key.registry user.text) text ttl) ∧
    entryOwner? (some text) = some id

namespace Cluster

variable {c : Cluster} {user : UserId} {id : InstanceId}

theorem reply_get (host : Nat) (key : String) (h : c.store.fault = none) :
    (c.perform host (.store (.get key))).1 = .ok ((c.seen key).bind Slot.text?) :=
  (runAlone_get_seen host key h).1

/-- An entry that names an instance has done so before, or has just been written. -/
theorem names_perform {host : Nat} {e : Effect} (hhealthy : c.store.fault = none)
    (h : (c.perform host e).2.Names user id) :
    c.Names user id ∧ e ≠ .store (.delete (Key.registry user.text)) ∨ e.Claims user id := by
  have hnamed := entryOwner?_eq_some_iff.2 h
  rw [seen, now_perform, store_perform] at hnamed
  cases e with
  | store call =>
    simp only [MemoryStore.call, hhealthy] at hnamed
    cases htext : ((c.store.slots.call c.now call).2.visible c.now
        (Key.registry user.text)).bind Slot.text? with
    | none =>
      rw [htext] at hnamed
      cases hnamed
    | some text =>
      rw [htext] at hnamed
      rcases c.store.slots.text_call c.now htext with ⟨hbefore, hkept⟩ | ⟨ttl, hset⟩
      · refine Or.inl ⟨entryOwner?_eq_some_iff.1 ?_, fun heq => hkept (Effect.store.inj heq)⟩
        rw [seen, hbefore, hnamed]
      · exact Or.inr ⟨text, ttl, by rw [hset], hnamed⟩
  | publish | clock | postmark | spareId | insertSession | findSession | removeSession
  | removeSessionIf | listSessions | countSessions | isOpen | offer | lifecycle | comeAlive | stop
  | setReady | warn | count | gaugeSessions =>
    exact Or.inl ⟨entryOwner?_eq_some_iff.1 hnamed, by simp⟩

end Cluster

/-! ## Sessions, and what is due -/

/-- A session from its beginning to its end. If it is broken off, which happens when the instance is
    about to take its leave while the client is still there, it is not let go. -/
def Profile.attend (self : Profile) (session : SessionHandle) (brokenOff : Bool) :
    Operation Unit := do
  self.greet session
  if brokenOff then return
  else self.part session

/-- What an operation has still to do about sessions. -/
structure Dues where
  /-- The session that is to come. -/
  comes : Option SessionHandle
  /-- The sessions that are there have still to be looked up. -/
  lists : Bool
  /-- The sessions to be let go. -/
  due : List SessionHandle
  /-- The user whose entry is to be given up. -/
  owing : Option UserId

namespace Dues

/-- There is nothing left to do. -/
def clear : Dues :=
  { comes := none, lists := false, due := [], owing := none }

/-- The key is that of the entry to be given up. -/
def owes (d : Dues) (key : String) : Prop :=
  d.owing.map (fun user => Key.registry user.text) = some key

instance (d : Dues) (key : String) : Decidable (d.owes key) :=
  inferInstanceAs (Decidable (_ = _))

/-- What is left to do after a step and its reply. -/
def after (self : InstanceId) (d : Dues) : (e : Effect) → e.Reply → Dues
  | .insertSession _, _ => { d with comes := none }
  | .listSessions, sessions => if d.lists then { d with lists := false, due := sessions } else d
  | .removeSessionIf user id, removed =>
    { d with
      due := d.due.filter fun x => ¬(x.user = user ∧ x.id = id)
      owing := if removed.isSome then some user else d.owing }
  | .store (.get key), .ok text =>
    if d.owes key ∧ entryOwner? text ≠ some self then { d with owing := none } else d
  | .store (.delete key), _ => if d.owes key then { d with owing := none } else d
  | _, _ => d

end Dues

/-- The rules of minding what is left to do. -/
def minding (self : InstanceId) : Rules Dues where
  allows
    | d, .insertSession session => d.comes = some session
    | d, .removeSessionIf _ _ => d.comes = none ∧ d.owing = none
    | _, .removeSession _ => False
    | _, _ => True
  possible
    | .store call, reply =>
      (∃ result, reply = .ok result) ∧ (keepingTo .settled).possible (.store call) reply
    | _, _ => True
  after := Dues.after self

theorem possible_minding (self : InstanceId) {c : Cluster} (h : c.store.fault = none) (host : Nat)
    (e : Effect) : (minding self).possible e (c.perform host e).1 := by
  cases e with
  | store call =>
    refine ⟨⟨(c.store.slots.call c.now call).1, ?_⟩, possible_perform .settled c host _⟩
    simp only [Cluster.perform, MemoryStore.call, h]
  | publish | clock | postmark | spareId | insertSession | findSession | removeSession
  | removeSessionIf | listSessions | countSessions | isOpen | offer | lifecycle | comeAlive | stop
  | setReady | warn | count | gaugeSessions => exact trivial

section Rules

variable {self : InstanceId} {d : Dues}

/-- Where nobody comes or goes, and no entry is owed, there is nothing to be minded. -/
theorem minding_of_settled {α : Type} {op : Operation α} (h : Confined .settled op)
    (hlists : d.lists = false) (howing : d.owing = none) :
    (minding self).Obeys d op fun d' _ => d' = d := by
  have howes : ∀ key, ¬d.owes key := by
    intro key hkey
    rw [Dues.owes, howing] at hkey
    cases hkey
  induction op with
  | done a => rfl
  | ask e next ih =>
    cases e with
    | store call =>
      refine ⟨trivial, fun reply hreply => ?_⟩
      have hsame : (minding self).after d (.store call) reply = d := by
        cases call with
        | get key =>
          obtain ⟨⟨text, rfl⟩, -⟩ := hreply
          exact if_neg fun hkey => howes key hkey.1
        | delete key => exact if_neg (howes key)
        | set | expire | keys | addMember | removeMember | members => rfl
      rw [hsame]
      exact ih reply (h.2 reply hreply.2)
    | listSessions =>
      refine ⟨trivial, fun sessions _ => ?_⟩
      have hsame : (minding self).after d .listSessions sessions = d :=
        if_neg (hlists ▸ Bool.false_ne_true)
      rw [hsame]
      exact ih sessions (h.2 sessions trivial)
    | insertSession | removeSession | removeSessionIf => exact absurd h.1.2 id
    | clock | findSession | countSessions | isOpen | lifecycle | comeAlive | stop | setReady | warn
    | count | gaugeSessions => exact ⟨trivial, fun reply _ => ih reply (h.2 reply trivial)⟩
    | publish | postmark | spareId | offer => exact absurd h.1 id

/-- Telling everybody something does not change what is left to do. -/
theorem minding_notify (router : Router) (notice : Postmark → Message)
    (hkind : ∀ mark, (notice mark).kind.isBroadcast = true) :
    (minding self).Obeys d
      (do
        let mark ← perform .postmark
        let _ ← router.route (notice mark)
        return : Operation Unit)
      fun d' _ => d' = d := by
  have hmark : (minding self).Obeys d (perform .postmark) fun d' _ => d' = d :=
    ⟨trivial, fun _ _ => rfl⟩
  refine Rules.obeys_bind hmark ?_
  rintro _ mark rfl
  have hroute : ∀ d : Dues,
      (minding self).Obeys d (router.route (notice mark)) fun d' _ => d' = d := by
    intro d
    rw [Router.route, Router.dispatch, if_pos (hkind mark), Router.routeBroadcast, Router.publish]
    cases BusFrame.encode { origin := router.id, message := notice mark } with
    | error e => exact ⟨trivial, fun _ _ => ⟨trivial, fun _ _ => rfl⟩⟩
    | ok frame =>
      refine ⟨trivial, fun reply _ => ?_⟩
      rcases reply with e | _
      · exact ⟨trivial, fun _ _ => ⟨trivial, fun _ _ => rfl⟩⟩
      · exact ⟨trivial, fun _ _ => rfl⟩
  exact Rules.obeys_bind (hroute _) fun _ _ hsame => hsame

/-- An entry that is owed is given up, unless it is found not to name the instance. -/
theorem minding_release (registrar : Registrar) (hself : registrar.id = self) {user : UserId}
    (howing : d.owing = some user) :
    (minding self).Obeys d (registrar.release user) fun d' _ => d' = { d with owing := none } := by
  have howes : d.owes (Key.registry user.text) := by
    rw [Dues.owes, howing]
    rfl
  have hget : (minding self).Obeys d (store (.get (Key.registry user.text))) fun d' reply =>
      ∃ text, reply = .ok text ∧ (entryOwner? text = some self ∧ d' = d ∨
        entryOwner? text ≠ some self ∧ d' = { d with owing := none }) := by
    refine ⟨trivial, fun reply hreply => ?_⟩
    obtain ⟨⟨text, rfl⟩, -⟩ := hreply
    refine ⟨text, rfl, ?_⟩
    by_cases hnamed : entryOwner? text = some self
    · exact Or.inl ⟨hnamed, if_neg fun hnot => hnot.2 hnamed⟩
    · exact Or.inr ⟨hnamed, if_pos ⟨howes, hnamed⟩⟩
  have hread : (minding self).Obeys d (Registrar.readEntry user) fun d' reply =>
      d' = d ∧ (∃ entry, reply = .ok (some entry) ∧ entry.owner = self) ∨
        d' = { d with owing := none } ∧ (reply = .error .codec ∨ reply = .ok none ∨
          ∃ entry, reply = .ok (some entry) ∧ entry.owner ≠ self) := by
    refine Rules.obeys_bind hget ?_
    rintro d' reply ⟨_ | text, rfl, ⟨hnamed, hd'⟩ | ⟨hnot, hd'⟩⟩
    · cases hnamed
    · exact Or.inr ⟨hd', Or.inr (Or.inl rfl)⟩
    · rcases Option.map_eq_some_iff.1 hnamed with ⟨entry, hentry, howner⟩
      rw [Option.bind_some] at hentry
      simp only [hentry]
      exact Or.inl ⟨hd', entry, rfl, howner⟩
    · simp only
      cases hentry : RegistryEntry.ofJson? text with
      | none => exact Or.inr ⟨hd', Or.inl rfl⟩
      | some entry =>
        refine Or.inr ⟨hd', Or.inr (Or.inr ⟨entry, rfl, fun howner => hnot ?_⟩)⟩
        rw [entryOwner?, Option.bind_some, hentry, Option.map_some, howner]
  have hdelete : (minding self).Obeys d (registrar.deleteOwnEntry user) fun d' reply =>
      d' = { d with owing := none } ∧ ∃ done, reply = .ok done := by
    have hcall : ∀ d' : Dues, d' = d ∨ d' = { d with owing := none } →
        (minding self).Obeys d' (store (.delete (Key.registry user.text))) fun d'' reply =>
          d'' = { d with owing := none } ∧ ∃ done, reply = .ok done := by
      rintro d' (rfl | rfl)
      · exact ⟨trivial, fun reply hreply => ⟨if_pos howes, hreply.1⟩⟩
      · have hfree : ¬Dues.owes { d with owing := none } (Key.registry user.text) :=
          fun hkey => by cases hkey
        refine ⟨trivial, fun reply hreply => ⟨?_, hreply.1⟩⟩
        simp only [minding, Dues.after, if_neg hfree]
    refine Rules.obeys_bind hread ?_
    rintro d' reply (⟨hsame, entry, rfl, howner⟩ | ⟨hfree, rfl | rfl | ⟨entry, rfl, howner⟩⟩)
    · simp only [howner, hself, ne_eq, not_true_eq_false, if_false]
      exact hcall d' (Or.inl hsame)
    · exact hcall d' (Or.inr hfree)
    · exact ⟨hfree, false, rfl⟩
    · simp only [hself, ne_eq, howner, not_false_eq_true, if_true]
      exact ⟨hfree, false, rfl⟩
  refine Rules.obeys_bind hdelete ?_
  rintro d' reply ⟨hfree, done, rfl⟩
  exact hfree

end Rules

/-! ## Sessions that go -/

section Sessions

variable (self : Profile) {d : Dues}

theorem minding_part (session : SessionHandle) (hcomes : d.comes = none) (howing : d.owing = none) :
    (minding self.id).Obeys d (self.part session) fun d' _ =>
      d' = { d with
        due := d.due.filter fun x => ¬(x.user = session.user ∧ x.id = session.id) } := by
  have hunregister : (minding self.id).Obeys d
      (self.registrar.unregisterIf session.user session.id) fun d' _ =>
        d' = { d with
          due := d.due.filter fun x => ¬(x.user = session.user ∧ x.id = session.id) } := by
    have hremove : (minding self.id).Obeys d
        (perform (.removeSessionIf session.user session.id)) fun d' removed =>
          d' = d.after self.id (.removeSessionIf session.user session.id) removed :=
      ⟨⟨hcomes, howing⟩, fun _ _ => rfl⟩
    refine Rules.obeys_bind hremove ?_
    rintro _ removed rfl
    cases removed with
    | none => rfl
    | some found =>
      -- The session has been taken out, so its entry is owed, and that is seen to next.
      have hgauge : ∀ d : Dues,
          (minding self.id).Obeys d Registrar.gauge fun d' _ => d' = d :=
        fun _ => ⟨trivial, fun _ _ => ⟨trivial, fun _ _ => rfl⟩⟩
      refine Rules.obeys_bind (hgauge _) ?_
      rintro _ _ rfl
      refine Rules.obeys_bind (minding_release self.registrar rfl rfl) ?_
      rintro _ _ rfl
      simp only [Dues.after, ← howing]
      rfl
  refine Rules.obeys_bind hunregister ?_
  rintro _ removed rfl
  cases removed with
  | false => rfl
  | true => exact minding_notify self.router (fun mark => .leave mark session.user) fun _ => rfl

/-- Sessions are let go until none is due. -/
theorem minding_partEach (sessions : List SessionHandle) (hcomes : d.comes = none)
    (hlists : d.lists = false) (howing : d.owing = none) (hdue : d.due ⊆ sessions) :
    (minding self.id).Obeys d (self.partEach sessions) fun d' _ => d' = .clear := by
  induction sessions generalizing d with
  | nil =>
    rcases d with ⟨comes, lists, due, owing⟩
    obtain rfl := List.subset_nil.1 hdue
    subst hcomes hlists howing
    rfl
  | cons session rest ih =>
    refine Rules.obeys_bind (minding_part self session hcomes howing) ?_
    rintro _ _ rfl
    refine ih hcomes hlists howing fun x hx => ?_
    rw [List.mem_filter, decide_eq_true_eq] at hx
    refine (List.mem_cons.1 (hdue hx.1)).resolve_left ?_
    rintro rfl
    exact hx.2 ⟨rfl, rfl⟩

/-- Whoever takes leave of everybody lets all go that are there when it looks. -/
theorem minding_leave :
    (minding self.id).Obeys { Dues.clear with lists := true } self.leave fun d' _ =>
      d' = .clear := by
  have hlist : (minding self.id).Obeys { Dues.clear with lists := true } (perform .listSessions)
      fun d' sessions => d' = { Dues.clear with due := sessions } := ⟨trivial, fun _ _ => rfl⟩
  refine Rules.obeys_bind hlist ?_
  rintro _ sessions rfl
  refine Rules.obeys_bind (minding_partEach self sessions rfl rfl rfl (List.Subset.refl _)) ?_
  rintro _ _ rfl
  have hwithdraw := confined_withdraw self.monitor Scope.watches_settled
  refine Rules.obeys_bind (minding_of_settled hwithdraw rfl rfl) ?_
  rintro _ reply rfl
  rcases reply with e | _
  · exact minding_of_settled (confined_warn _) rfl rfl
  · rfl

theorem minding_greet (session : SessionHandle) (hcomes : d.comes = some session)
    (hlists : d.lists = false) (howing : d.owing = none) :
    (minding self.id).Obeys d (self.greet session) fun d' _ => d' = { d with comes := none } := by
  have hregisters := Scope.watches_settled.toRegisters
  have hregister : (minding self.id).Obeys d (self.registrar.register session) fun d' _ =>
      d' = { d with comes := none } := by
    have hinsert : (minding self.id).Obeys d (perform (.insertSession session))
        fun d' _ => d' = { d with comes := none } := ⟨hcomes, fun _ _ => rfl⟩
    refine Rules.obeys_bind hinsert ?_
    rintro _ superseded rfl
    refine minding_of_settled (confined_bind (confined_gauge hregisters) fun _ => ?_) hlists howing
    refine confined_bind (confined_writeEntry self.registrar hregisters session.user)
      fun reply => ?_
    rcases reply with e | _
    · exact confined_bind (confined_warn _) fun _ =>
        confined_bind (confined_count _) fun _ => confined_pure _
    · exact confined_pure _
  refine Rules.obeys_bind hregister ?_
  rintro _ _ rfl
  exact minding_notify self.router (fun mark => .join mark session.user) fun _ => rfl

/-- A session that is not broken off is let go before its end. -/
theorem minding_attend (session : SessionHandle) (brokenOff : Bool) :
    (minding self.id).Obeys
      { Dues.clear with comes := some session, due := if brokenOff then [] else [session] }
      (self.attend session brokenOff) fun d' _ => d' = .clear := by
  refine Rules.obeys_bind (minding_greet self session rfl rfl rfl) ?_
  rintro _ _ rfl
  cases brokenOff with
  | true => rfl
  | false =>
    refine (minding_part self session rfl rfl).mono ?_
    rintro _ _ rfl
    simp [Dues.clear]

theorem minding_timedHeartbeat :
    (minding self.id).Obeys .clear self.timedHeartbeat fun d' _ => d' = .clear := by
  refine minding_of_settled ?_ rfl rfl
  refine confined_bind (confined_heartbeat self.monitor Scope.watches_settled) fun reply => ?_
  rcases reply with e | _
  · exact confined_bind (confined_warn _) fun _ => confined_count _
  · exact confined_pure _

end Sessions

end ChatCluster
