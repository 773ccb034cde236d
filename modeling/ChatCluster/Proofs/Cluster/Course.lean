import ChatCluster.Proofs.Instance.Footprint
import ChatCluster.Proofs.Registry.Entries

/-!
# The Course of Events

What may happen in a cluster whose instances act one after another: an instance does one thing
from beginning to end, a client leaves, time passes, or a clock shows another time. Sessions are
taken in and let go, entries are refreshed, signs of life are given and taken back, the dead are
cleared away, and senders are limited.

Every outbound queue is there from the beginning, and that of a client who has not come yet is
unused. So a session never opens: it is open when it is registered, and at some time it closes.

## Main definitions

* `Deed`, `Happening`: What an instance does, and what happens.
* `Cluster.happen`, `Cluster.course`: What comes of it.
* `Cluster.SessionsFiled`: Sessions stand under their users.

## Theorems

* `Cluster.profile?_course`, `Cluster.fault_course`: What does not change.
* `Cluster.holdsOpen_of_perform`: Only putting it into the directory brings an open session.
* `Cluster.holdsOpen_happen`: Only a registration does.
* `Cluster.sessionsFiled_course`: Sessions go on standing under their users.
-/

namespace ChatCluster

/-- What an instance does from beginning to end. -/
inductive Deed where
  /-- Takes a session in. -/
  | register (session : SessionHandle)
  /-- Lets a user go. -/
  | unregister (user : UserId)
  /-- Lets a user go if the session is the one with the given number. -/
  | unregisterIf (user : UserId) (id : SessionId)
  /-- Extends the entry of a user. -/
  | refresh (user : UserId)
  /-- Extends the entries of all its users. -/
  | refreshAll
  /-- Shows itself. -/
  | heartbeat
  /-- Clears away the entries of dead instances. -/
  | reap
  /-- Takes its leave. -/
  | withdraw
  /-- Lets a user try to send a message. -/
  | check (user : UserId)
  /-- Looks at the bucket of a user. -/
  | status (user : UserId)
  /-- Forgets the bucket of a user. -/
  | forget (user : UserId)
  deriving DecidableEq, Repr

/-- What happens. -/
inductive Happening where
  /-- An instance, given by its number, does something. -/
  | does (host : Nat) (deed : Deed)
  /-- The client at an outbound queue leaves. -/
  | hangUp (queue : Nat)
  /-- Time passes for the store. -/
  | wait (ms : Nat)
  /-- The clock of an instance shows another time. -/
  | setClock (host : Nat) (time : Int64)
  deriving DecidableEq, Repr

namespace Cluster

/-- What comes of what an instance does. -/
def carryOut (c : Cluster) (host : Nat) (self : Profile) : Deed → Cluster
  | .register session => (c.runAlone host (self.registrar.register session)).2
  | .unregister user => (c.runAlone host (self.registrar.unregister user)).2
  | .unregisterIf user id => (c.runAlone host (self.registrar.unregisterIf user id)).2
  | .refresh user => (c.runAlone host (self.registrar.refresh user)).2
  | .refreshAll => (c.runAlone host self.registrar.refreshAll).2
  | .heartbeat => (c.runAlone host self.monitor.heartbeat).2
  | .reap => (c.runAlone host self.monitor.reap).2
  | .withdraw => (c.runAlone host self.monitor.withdraw).2
  | .check user => (c.runAlone host (RateLimiter.check self.limits user)).2
  | .status user => (c.runAlone host (RateLimiter.status self.limits user)).2
  | .forget user => (c.runAlone host (RateLimiter.reset user)).2

/-- What comes of what happens. An instance that is not there does nothing. -/
def happen (c : Cluster) : Happening → Cluster
  | .does host deed =>
    match c.profile? host with
    | none => c
    | some self => c.carryOut host self deed
  | .hangUp queue => c.updateQueue queue Mailbox.closeReceiver
  | .wait ms => { c with now := c.now + ms }
  | .setClock host time => c.updateHost host fun h => { h with clock := time }

/-- What comes of some happenings, one after another. -/
def course (c : Cluster) (run : List Happening) : Cluster :=
  run.foldl happen c

theorem course_append (c : Cluster) (run rest : List Happening) :
    c.course (run ++ rest) = (c.course run).course rest :=
  List.foldl_append

theorem course_concat (c : Cluster) (run : List Happening) (m : Happening) :
    c.course (run ++ [m]) = (c.course run).happen m :=
  course_append c run [m]

/-! ## What does not change -/

variable (c : Cluster)

theorem carryOut_eq (host : Nat) (self : Profile) (deed : Deed) :
    ∃ (α : Type) (op : Operation α), c.carryOut host self deed = (c.runAlone host op).2 := by
  cases deed <;> exact ⟨_, _, rfl⟩

theorem profile?_happen (m : Happening) : (c.happen m).profile? = c.profile? := by
  cases m with
  | does host deed =>
    rw [happen]
    cases c.profile? host with
    | none => rfl
    | some self =>
      rcases c.carryOut_eq host self deed with ⟨_, op, hop⟩
      simp only [hop]
      exact funext fun other => profile?_runAlone host op c other
  | hangUp queue => rfl
  | wait ms => rfl
  | setClock host time => exact funext fun other => profile?_updateHost c host other fun _ => rfl

theorem fault_happen (m : Happening) : (c.happen m).store.fault = c.store.fault := by
  cases m with
  | does host deed =>
    rw [happen]
    cases c.profile? host with
    | none => rfl
    | some self =>
      rcases c.carryOut_eq host self deed with ⟨_, op, hop⟩
      simp only [hop]
      exact fault_runAlone host op c
  | hangUp queue => rfl
  | wait ms => rfl
  | setClock host time => rfl

theorem now_happen (m : Happening) :
    (c.happen m).now = match m with
      | .wait ms => c.now + ms
      | _ => c.now := by
  cases m with
  | does host deed =>
    rw [happen]
    cases c.profile? host with
    | none => rfl
    | some self =>
      rcases c.carryOut_eq host self deed with ⟨_, op, hop⟩
      simp only [hop]
      exact now_runAlone host op c
  | hangUp queue => rfl
  | wait ms => rfl
  | setClock host time => rfl

theorem now_le_happen (m : Happening) : c.now ≤ (c.happen m).now := by
  rw [now_happen]
  cases m with
  | wait ms => exact Nat.le_add_right _ _
  | does | hangUp | setClock => exact Nat.le_refl _

theorem profile?_course (run : List Happening) : (c.course run).profile? = c.profile? := by
  induction run generalizing c with
  | nil => rfl
  | cons m run ih => exact (ih (c.happen m)).trans (c.profile?_happen m)

theorem fault_course (run : List Happening) : (c.course run).store.fault = c.store.fault := by
  induction run generalizing c with
  | nil => rfl
  | cons m run ih => exact (ih (c.happen m)).trans (c.fault_happen m)

/-! ## Sessions -/

/-- Every session stands in its directory under its own user. -/
def SessionsFiled (c : Cluster) : Prop :=
  ∀ host user session, (c.directory host).find? user = some session → session.user = user

variable {c}

section Directory

variable {host : Nat}

/-- The users of the sessions in a directory are its keys. -/
theorem nodup_users
    (hfiled : ∀ user session, (c.directory host).find? user = some session → session.user = user) :
    ((c.directory host).values.map SessionHandle.user).Nodup := by
  have hkeys : (c.directory host).values.map SessionHandle.user = (c.directory host).keys := by
    rw [Table.values, Table.keys, List.map_map]
    refine List.map_congr_left fun entry hentry => ?_
    exact hfiled entry.1 entry.2 (((c.directory host).mem_iff_find? _ _).1 hentry)
  rw [hkeys]
  exact (c.directory host).nodup_keys

/-- The sessions in a directory are the ones that are found under their users, in whatever order
    they are listed. -/
theorem mem_iff_of_perm
    (hfiled : ∀ user session, (c.directory host).find? user = some session → session.user = user)
    {sessions : List SessionHandle} (hsessions : sessions.Perm (c.directory host).values)
    (session : SessionHandle) :
    session ∈ sessions ↔ (c.directory host).find? session.user = some session := by
  rw [hsessions.mem_iff]
  constructor
  · intro hvalue
    rcases List.mem_map.1 hvalue with ⟨⟨user, found⟩, hentry, rfl⟩
    have hfound := ((c.directory host).mem_iff_find? user found).1 hentry
    rwa [hfiled user found hfound]
  · exact Table.mem_values_of_find?

end Directory

theorem sessionsFiled_runAlone {α : Type} (host : Nat) (op : Operation α) (h : c.SessionsFiled) :
    (c.runAlone host op).2.SessionsFiled := by
  induction op generalizing c with
  | done a => exact h
  | ask e next ih =>
    refine ih _ fun other user session hfind => ?_
    rcases find?_directory_perform hfind with hbefore | ⟨_, _, huser⟩
    · exact h other user session hbefore
    · exact huser.symm

theorem sessionsFiled_happen (m : Happening) (h : c.SessionsFiled) :
    (c.happen m).SessionsFiled := by
  cases m with
  | does host deed =>
    rw [happen]
    cases c.profile? host with
    | none => exact h
    | some self =>
      rcases c.carryOut_eq host self deed with ⟨_, op, hop⟩
      simp only [hop]
      exact sessionsFiled_runAlone host op h
  | hangUp queue => exact h
  | wait ms => exact h
  | setClock host time =>
    intro other user session hfind
    rw [happen, directory_updateHost c host other
      (f := fun h => { h with clock := time }) fun _ => rfl] at hfind
    exact h other user session hfind

theorem sessionsFiled_course (run : List Happening) (h : c.SessionsFiled) :
    (c.course run).SessionsFiled := by
  induction run generalizing c with
  | nil => exact h
  | cons m run ih => exact ih (sessionsFiled_happen m h)

theorem holdsOpen_eq_true_iff {host : Nat} {user : UserId} :
    c.holdsOpen host user = true ↔
      ∃ session, (c.directory host).find? user = some session ∧ c.isOpen session = true :=
  Option.any_eq_true _ _

/-- A step brings an open session only by putting it into the directory. -/
theorem holdsOpen_of_perform {host other : Nat} {user : UserId} {e : Effect}
    (hnone : host = other → ∀ session, e = .insertSession session → session.user ≠ user)
    (hopen : (c.perform host e).2.holdsOpen other user = true) :
    c.holdsOpen other user = true := by
  rcases holdsOpen_eq_true_iff.1 hopen with ⟨session, hfind, hsession⟩
  rw [isOpen_perform] at hsession
  rcases find?_directory_perform hfind with hbefore | ⟨hhost, he, huser⟩
  · exact holdsOpen_eq_true_iff.2 ⟨session, hbefore, hsession⟩
  · exact absurd huser.symm (hnone hhost.symm session he)

/-- A client who has left does not come back. -/
theorem holdsOpen_of_hangUp {host queue : Nat} {user : UserId}
    (hopen : (c.updateQueue queue Mailbox.closeReceiver).holdsOpen host user = true) :
    c.holdsOpen host user = true := by
  rcases holdsOpen_eq_true_iff.1 hopen with ⟨session, hfind, hsession⟩
  exact holdsOpen_eq_true_iff.2 ⟨session, hfind, isOpen_of_hangUp hsession⟩

theorem holdsOpen_setClock (host other : Nat) (user : UserId) (time : Int64) :
    (c.updateHost other fun h => { h with clock := time }).holdsOpen host user =
      c.holdsOpen host user := by
  rw [holdsOpen, directory_updateHost c other host (f := fun h => { h with clock := time })
    fun _ => rfl]
  rfl

/-- What keeps to itself brings no open session. -/
theorem holdsOpen_of_within {α : Type} {keys : String → Prop} {op : Operation α}
    (h : Within keys op) {host other : Nat} {user : UserId}
    (hopen : (c.runAlone host op).2.holdsOpen other user = true) :
    c.holdsOpen other user = true := by
  rcases holdsOpen_eq_true_iff.1 hopen with ⟨session, hfind, hsession⟩
  refine holdsOpen_eq_true_iff.2 ⟨session, h.find?_directory_runAlone host c hfind, ?_⟩
  rw [isOpen, h.queues_runAlone host c] at hsession
  exact hsession

theorem within_carryOut (host : Nat) (self : Profile) {deed : Deed}
    (h : ∀ session, deed ≠ .register session) :
    ∃ (α : Type) (op : Operation α), Within (fun _ => True) op ∧
      c.carryOut host self deed = (c.runAlone host op).2 := by
  cases deed with
  | register session => exact absurd rfl (h session)
  | unregister user => exact ⟨_, _, within_unregister _ trivial, rfl⟩
  | unregisterIf user id => exact ⟨_, _, within_unregisterIf _ id trivial, rfl⟩
  | refresh user => exact ⟨_, _, within_refresh _ trivial, rfl⟩
  | refreshAll => exact ⟨_, _, within_refreshAll _ fun _ => trivial, rfl⟩
  | heartbeat => exact ⟨_, _, within_heartbeat _ (fun _ => trivial) trivial, rfl⟩
  | reap => exact ⟨_, _, within_reap _ fun _ => trivial, rfl⟩
  | withdraw => exact ⟨_, _, within_withdraw _ trivial, rfl⟩
  | check user => exact ⟨_, _, within_check _ trivial, rfl⟩
  | status user => exact ⟨_, _, within_status _ user, rfl⟩
  | forget user => exact ⟨_, _, within_reset trivial, rfl⟩

theorem holdsOpen_register {host other : Nat} {self : Registrar} {session : SessionHandle}
    {user : UserId} (hhealthy : c.store.fault = none)
    (hopen : (c.runAlone host (self.register session)).2.holdsOpen other user = true) :
    c.holdsOpen other user = true ∨ other = host ∧ session.user = user := by
  rcases runAlone_register self host session hhealthy with ⟨e, reports, _, hafter⟩
  rw [hafter] at hopen
  rcases holdsOpen_eq_true_iff.1 hopen with ⟨found, hfind, hfound⟩
  -- Writing the entry and reporting change neither directories nor queues.
  have hfind' : ((c.updateDirectory host fun d => d.insert session.user session).directory
      other).find? user = some found := hfind
  rcases find?_directory_updateDirectory hfind' with hbefore | ⟨rfl, hinserted⟩
  · exact Or.inl (holdsOpen_eq_true_iff.2 ⟨found, hbefore, hfound⟩)
  · rw [Table.find?_insert] at hinserted
    split at hinserted
    · next huser => exact Or.inr ⟨rfl, huser.symm⟩
    · exact Or.inl (holdsOpen_eq_true_iff.2 ⟨found, hinserted, hfound⟩)

/-- Whoever holds an open session for a user has held it before, or has just taken it in. -/
theorem holdsOpen_happen {m : Happening} {host : Nat} {user : UserId}
    (hhealthy : c.store.fault = none) (hopen : (c.happen m).holdsOpen host user = true) :
    c.holdsOpen host user = true ∨
      ∃ self session, c.profile? host = some self ∧ m = .does host (.register session) ∧
        session.user = user := by
  cases m with
  | does other deed =>
    rw [happen] at hopen
    cases hself : c.profile? other with
    | none =>
      rw [hself] at hopen
      exact Or.inl hopen
    | some self =>
      simp only [hself] at hopen
      by_cases hdeed : ∃ session, deed = .register session
      · rcases hdeed with ⟨session, rfl⟩
        rcases holdsOpen_register hhealthy hopen with hbefore | ⟨rfl, huser⟩
        · exact Or.inl hbefore
        · exact Or.inr ⟨self, session, hself, rfl, huser⟩
      · rcases c.within_carryOut other self fun session h => hdeed ⟨session, h⟩ with
          ⟨_, op, hwithin, hop⟩
        rw [hop] at hopen
        exact Or.inl (holdsOpen_of_within hwithin hopen)
  | hangUp queue => exact Or.inl (holdsOpen_of_hangUp hopen)
  | wait ms => exact Or.inl hopen
  | setClock other time => exact Or.inl ((holdsOpen_setClock host other user time).symm.trans hopen)

end Cluster

end ChatCluster
