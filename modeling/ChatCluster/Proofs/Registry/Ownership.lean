import ChatCluster.Proofs.Registry.Operations
import Mathlib.Data.List.Infix

/-!
# Shared Ownership

Instances that share one store agree about who owns a user, and they do so without talking to each
other: the entry in the store says it. What the entry says is told here by a machine that knows
neither texts nor keys. It keeps one owner for each user and what each instance holds, and it moves
as a caller of the registry would expect. A registration takes the user, whoever had it; letting
go takes effect only for the owner; a refresh takes the user only if nobody has it.

The two are tied by `Ownership.Shows`: the slot of every user is filed under the owner's name, the
directories hold the current sessions, and names tell the instances apart. Taking a user, giving
one up and changing a directory keep it, one lemma each, and every move is made of these.

Instances act one after another. Between two of their operations time may pass, their clocks may
show anything, and clients come and go. The one thing that must not happen is that an entry
expires (`Cluster.Lasting`).

## Main definitions

* `RegistryMove`, `Cluster.move`: What happens to users and their sessions.
* `Ownership`, `Ownership.move`: The machine.
* `Ownership.Shows`: The machine shows the state of the cluster.

## Theorems

* `Ownership.shows_move`, `Ownership.shows_moves`: The machine keeps showing it.
* `owner?_eq_ownership`: Every instance looks up the owner that the machine has computed.
-/

namespace ChatCluster

/-- What can happen to users and their sessions: an operation of an instance, given by its number,
    or something around it. -/
inductive RegistryMove where
  /-- A session has come to an instance. -/
  | register (host : Nat) (session : SessionHandle)
  /-- An instance lets a user go. -/
  | unregister (host : Nat) (user : UserId)
  /-- An instance lets a user go if the session is the one with the given number. -/
  | unregisterIf (host : Nat) (user : UserId) (id : SessionId)
  /-- An instance extends the entry of a user. -/
  | refresh (host : Nat) (user : UserId)
  /-- A client opens an outbound queue. -/
  | connect (queue capacity : Nat)
  /-- The client at an outbound queue leaves. -/
  | hangUp (queue : Nat)
  /-- Time passes for the store. -/
  | wait (ms : Nat)
  /-- The clock of an instance shows another time. -/
  | setClock (host : Nat) (time : Int64)
  deriving DecidableEq, Repr

/-- The instance that acts, if one does. -/
def RegistryMove.host? : RegistryMove → Option Nat
  | .register host _ | .unregister host _ | .unregisterIf host _ _ | .refresh host _ => some host
  | .connect _ _ | .hangUp _ | .wait _ | .setClock _ _ => none

/-- The move lets somebody go on the instance. -/
def RegistryMove.Closes (host : Nat) : RegistryMove → Prop
  | .unregister other _ | .unregisterIf other _ _ => other = host
  | .register _ _ | .refresh _ _ | .connect _ _ | .hangUp _ | .wait _ | .setClock _ _ => False

theorem RegistryMove.host?_eq_of_closes {d : RegistryMove} {host : Nat} (h : d.Closes host) :
    d.host? = some host := by
  cases d with
  | unregister | unregisterIf => exact congrArg some h
  | register | refresh | connect | hangUp | wait | setClock => exact absurd h id

namespace Cluster

/-- An instance does something to the registry, with nothing in between. -/
def registrarDoes {α : Type} (c : Cluster) (host : Nat) (op : Registrar → Operation α) : Cluster :=
  match c.hosts.find? host with
  | none => c
  | some h => (c.runAlone host (op h.profile.registrar)).2

/-- The cluster after one move. -/
def move (c : Cluster) : RegistryMove → Cluster
  | .register host session => c.registrarDoes host fun self => self.register session
  | .unregister host user => c.registrarDoes host fun self => self.unregister user
  | .unregisterIf host user id => c.registrarDoes host fun self => self.unregisterIf user id
  | .refresh host user => c.registrarDoes host fun self => self.refresh user
  | .connect queue capacity => { c with queues := c.queues.insert queue (.new capacity) }
  | .hangUp queue => c.updateQueue queue Mailbox.closeReceiver
  | .wait ms => { c with now := c.now + ms }
  | .setClock host time => c.updateHost host fun h => { h with clock := time }

/-- The cluster after some moves, one after another. -/
def moves (c : Cluster) (ms : List RegistryMove) : Cluster :=
  ms.foldl move c

/-- No session has been registered yet. -/
def Unregistered (c : Cluster) : Prop :=
  (∀ user, c.entrySlot user = none) ∧ ∀ host user, (c.directory host).find? user = none

/-- The name of an instance. -/
def nameOf (c : Cluster) (host : Nat) : Option InstanceId :=
  (c.profile? host).map Profile.id

/-- Instances of the same name are the same. -/
def DistinctNames (c : Cluster) : Prop :=
  ∀ i j name, c.nameOf i = some name → c.nameOf j = some name → i = j

end Cluster

/-! ## The machine -/

/-- Who owns each user, and what there is to own it with. -/
structure Ownership where
  /-- The instance that owns a user, by its number. -/
  owner : UserId → Option Nat
  /-- The session that an instance holds for a user. -/
  current : Nat → UserId → Option SessionHandle
  /-- The client at an outbound queue is there. -/
  listening : Nat → Bool

namespace Ownership

/-- A user has another owner, or none. -/
def setOwner (m : Ownership) (user : UserId) (owner : Option Nat) : Ownership :=
  { m with owner := fun other => if other = user then owner else m.owner other }

/-- An instance holds another session for a user, or none. -/
def setCurrent (m : Ownership) (host : Nat) (user : UserId) (session : Option SessionHandle) :
    Ownership :=
  { m with
    current := fun i other =>
      if i = host then if other = user then session else m.current i other else m.current i other }

/-- The client at an outbound queue comes or leaves. -/
def setListening (m : Ownership) (queue : Nat) (there : Bool) : Ownership :=
  { m with listening := fun other => if other = queue then there else m.listening other }

/-- An instance gives up a user, which has an effect if it is the owner. -/
def giveUp (m : Ownership) (host : Nat) (user : UserId) : Ownership :=
  if m.owner user = some host then m.setOwner user none else m

/-- An instance holds an open session for a user. -/
def holdsOpen (m : Ownership) (host : Nat) (user : UserId) : Bool :=
  (m.current host user).any fun session => m.listening session.queue

/-- The machine after one move. -/
def move (m : Ownership) : RegistryMove → Ownership
  | .register host session =>
    (m.setCurrent host session.user (some session)).setOwner session.user (some host)
  | .unregister host user => (m.setCurrent host user none).giveUp host user
  | .unregisterIf host user id =>
    if (m.current host user).map SessionHandle.id = some id then
      (m.setCurrent host user none).giveUp host user
    else m
  | .refresh host user =>
    if m.owner user = none ∧ m.holdsOpen host user = true then m.setOwner user (some host) else m
  | .connect queue _ => m.setListening queue true
  | .hangUp queue => m.setListening queue false
  | .wait _ | .setClock _ _ => m

/-- The machine after some moves, one after another. -/
def moves (m : Ownership) (ms : List RegistryMove) : Ownership :=
  ms.foldl move m

/-- Nobody owns anybody yet; the clients are those of a cluster. -/
def start (c : Cluster) : Ownership where
  owner _ := none
  current _ _ := none
  listening queue := ((c.queues.find? queue).map Mailbox.receiving).getD false

end Ownership

/-! ## Simulation -/

namespace Ownership

/-- The machine shows the state of the cluster. -/
structure Shows (m : Ownership) (c : Cluster) : Prop where
  /-- The store answers. -/
  healthy : c.store.fault = none
  /-- Names tell the instances apart. -/
  distinct : c.DistinctNames
  /-- Owners are there. -/
  present : ∀ user host, m.owner user = some host → (c.nameOf host).isSome
  /-- The entries name the owners. -/
  filed : ∀ user, Filed (c.entrySlot user) ((m.owner user).bind c.nameOf)
  /-- The directories hold the current sessions. -/
  current : ∀ host user, (c.directory host).find? user = m.current host user
  /-- Queues are open while somebody listens. -/
  listening : ∀ session, c.isOpen session = m.listening session.queue

theorem shows_start {c : Cluster} (h : c.store.fault = none) (hdistinct : c.DistinctNames)
    (hstart : c.Unregistered) : (start c).Shows c where
  healthy := h
  distinct := hdistinct
  present _ _ howner := absurd howner (by simp only [start, reduceCtorEq, not_false_eq_true])
  filed user := by
    rw [hstart.1 user]
    exact .vacant
  current := hstart.2
  listening _ := rfl

variable {m : Ownership} {c : Cluster} {host : Nat} {h : Host}

/-- The name of an instance as the one that registers. -/
theorem nameOf_eq (hhost : c.hosts.find? host = some h) :
    c.nameOf host = some h.profile.registrar.id := by
  rw [Cluster.nameOf, Cluster.profile?, hhost]
  rfl

/-- The owner's name is that of an instance only if the owner is that instance. -/
theorem Shows.bind_nameOf_eq_iff (hs : m.Shows c) (hhost : c.hosts.find? host = some h)
    (user : UserId) :
    (m.owner user).bind c.nameOf = some h.profile.registrar.id ↔ m.owner user = some host := by
  -- That the names differ is used here and nowhere else.
  constructor
  · intro hbind
    rcases Option.bind_eq_some_iff.1 hbind with ⟨other, howner, hname⟩
    rw [howner, hs.distinct other host _ hname (nameOf_eq hhost)]
  · intro howner
    rw [howner, Option.bind_some, nameOf_eq hhost]

theorem nameOf_updateHost (c : Cluster) (host : Nat) {f : Host → Host}
    (hf : ∀ h, (f h).profile = h.profile) : (c.updateHost host f).nameOf = c.nameOf :=
  funext fun other => congrArg (Option.map Profile.id) (Cluster.profile?_updateHost c host other hf)

theorem nameOf_keeping (c : Cluster) (host : Nat)
    (f : Table UserId SessionHandle → Table UserId SessionHandle) (reports : Reports) :
    (c.keeping host f reports).nameOf = c.nameOf :=
  nameOf_updateHost c host fun _ => rfl

theorem find?_keeping (hhost : c.hosts.find? host = some h)
    (f : Table UserId SessionHandle → Table UserId SessionHandle) (reports : Reports) :
    (c.keeping host f reports).hosts.find? host = some { h with directory := f h.directory } := by
  simp only [Cluster.keeping, Cluster.updateDirectory, Cluster.updateHost, Table.find?_update,
    if_true, hhost, Option.map_some]

/-- A change of a directory is shown by the current sessions of that instance. -/
theorem Shows.keeping (hs : m.Shows c) (hhost : c.hosts.find? host = some h)
    {f : Table UserId SessionHandle → Table UserId SessionHandle} {user : UserId}
    {session : Option SessionHandle}
    (hf : ∀ d other, (f d).find? other = if other = user then session else d.find? other)
    (reports : Reports) : (m.setCurrent host user session).Shows (c.keeping host f reports) := by
  have hname := nameOf_keeping c host f reports
  refine ⟨hs.healthy, ?_, ?_, ?_, ?_, hs.listening⟩
  · rw [Cluster.DistinctNames, hname]
    exact hs.distinct
  · rw [hname]
    exact hs.present
  · rw [hname]
    exact hs.filed
  · intro other other_user
    change ((c.updateDirectory host f).directory other).find? other_user = _
    rw [Cluster.directory_updateDirectory c host other f (by rw [hhost]; rfl)]
    simp only [setCurrent, ← hs.current]
    by_cases ho : other = host
    · rw [if_pos ho, if_pos ho, hf, ho]
    · rw [if_neg ho, if_neg ho]

/-- Whoever writes the entry of a user becomes its owner. -/
theorem Shows.write (hs : m.Shows c) (hhost : c.hosts.find? host = some h) (user : UserId)
    {e : RegistryEntry} (howner : e.owner = h.profile.registrar.id) (expiresAt : Option Nat) :
    (m.setOwner user (some host)).Shows
      (c.withSlots (c.store.slots.insert (Key.registry user.text)
        { held := .text e.toJson, expiresAt })) := by
  refine ⟨hs.healthy, hs.distinct, ?_, ?_, hs.current, hs.listening⟩
  · intro other owner hother
    simp only [setOwner] at hother
    by_cases hu : other = user
    · rw [if_pos hu, Option.some.injEq] at hother
      subst hother
      change (c.nameOf host).isSome
      rw [nameOf_eq hhost]
      rfl
    · rw [if_neg hu] at hother
      exact hs.present other owner hother
  · intro other
    rw [Cluster.entrySlot_insert]
    change Filed _ (Option.bind (if other = user then some host else m.owner other) c.nameOf)
    by_cases hu : other = user
    · rw [if_pos hu, if_pos hu, Option.bind_some, nameOf_eq hhost, ← howner]
      exact .entry e expiresAt
    · rw [if_neg hu, if_neg hu]
      exact hs.filed other

/-- Whoever gives up a user ceases to be its owner. -/
theorem Shows.release (hs : m.Shows c) (hlast : c.Lasting)
    (hhost : c.hosts.find? host = some h) (user : UserId) :
    (m.giveUp host user).Shows (c.runAlone host (h.profile.registrar.release user)).2 := by
  -- The registry compares names, and the machine numbers.
  rw [Cluster.runAlone_release _ user host hs.healthy hlast (hs.filed user)]
  by_cases hown : m.owner user = some host
  · rw [giveUp, if_pos hown, if_pos ((hs.bind_nameOf_eq_iff hhost user).2 hown)]
    refine ⟨hs.healthy, hs.distinct, ?_, ?_, hs.current, hs.listening⟩
    · intro other owner hother
      simp only [setOwner] at hother
      by_cases hu : other = user
      · rw [if_pos hu] at hother
        exact absurd hother (by simp only [reduceCtorEq, not_false_eq_true])
      · rw [if_neg hu] at hother
        exact hs.present other owner hother
    · intro other
      rw [Cluster.entrySlot_erase]
      change Filed _ (Option.bind (if other = user then none else m.owner other) c.nameOf)
      by_cases hu : other = user
      · rw [if_pos hu, if_pos hu]
        exact .vacant
      · rw [if_neg hu, if_neg hu]
        exact hs.filed other
  -- What is owned by another or by nobody stays as it is.
  · have hbind := mt (hs.bind_nameOf_eq_iff hhost user).1 hown
    rw [giveUp, if_neg hown, if_neg hbind]
    exact hs

/-- Entries may be extended at will. -/
theorem Shows.extend (hs : m.Shows c) (user : UserId) (deadline : Nat) :
    m.Shows (c.withSlots (c.store.slots.update (Key.registry user.text)
      fun slot => { slot with expiresAt := some deadline })) := by
  refine ⟨hs.healthy, hs.distinct, hs.present, ?_, hs.current, hs.listening⟩
  intro other
  rw [Cluster.entrySlot_update]
  change Filed _ ((m.owner other).bind c.nameOf)
  by_cases hu : other = user
  · rw [if_pos hu]
    exact (hs.filed other).extend deadline
  · rw [if_neg hu]
    exact hs.filed other

/-! ## Moves -/

theorem registrarDoes_eq {α : Type} (hhost : c.hosts.find? host = some h)
    (op : Registrar → Operation α) :
    c.registrarDoes host op = (c.runAlone host (op h.profile.registrar)).2 := by
  rw [Cluster.registrarDoes, hhost]

-- A registration is two changes one after another: of the directory and of the entry.
theorem Shows.register (hs : m.Shows c) (hhost : c.hosts.find? host = some h)
    (session : SessionHandle) :
    (m.move (.register host session)).Shows (c.move (.register host session)) := by
  rcases Cluster.runAlone_register h.profile.registrar host session hs.healthy with
    ⟨e, reports, howner, hafter⟩
  -- First the directory is changed, and then the entry is written.
  have hkept := hs.keeping hhost (fun d other => Table.find?_insert d session.user other session)
    reports
  rw [Cluster.move, registrarDoes_eq hhost, hafter]
  exact hkept.write (find?_keeping hhost _ reports) session.user howner _

theorem Shows.letGo (hs : m.Shows c) (hlast : c.Lasting) (hhost : c.hosts.find? host = some h)
    (user : UserId) (reports : Reports) :
    ((m.setCurrent host user none).giveUp host user).Shows
      ((c.keeping host (fun d => d.erase user) reports).runAlone host
        (h.profile.registrar.release user)).2 := by
  have hkept := hs.keeping hhost (fun d other => Table.find?_erase d user other) reports
  exact hkept.release hlast (find?_keeping hhost _ reports) user

theorem Shows.unregister (hs : m.Shows c) (hlast : c.Lasting)
    (hhost : c.hosts.find? host = some h) (user : UserId) :
    (m.move (.unregister host user)).Shows (c.move (.unregister host user)) := by
  rcases Cluster.runAlone_unregister h.profile.registrar user host c with ⟨reports, hafter⟩
  rw [Cluster.move, registrarDoes_eq hhost, hafter]
  exact hs.letGo hlast hhost user reports

theorem Shows.unregisterIf (hs : m.Shows c) (hlast : c.Lasting)
    (hhost : c.hosts.find? host = some h) (user : UserId) (id : SessionId) :
    (m.move (.unregisterIf host user id)).Shows (c.move (.unregisterIf host user id)) := by
  rw [Cluster.move, registrarDoes_eq hhost]
  rcases Cluster.runAlone_unregisterIf h.profile.registrar user host id c with
    ⟨hid, hafter⟩ | ⟨hid, reports, hafter⟩
  · rw [hs.current] at hid
    rw [move, if_neg hid, hafter]
    exact hs
  · rw [hs.current] at hid
    rw [move, if_pos hid, hafter]
    exact hs.letGo hlast hhost user reports

/-- Nothing is filed exactly for the users that nobody owns. -/
theorem Shows.entrySlot_eq_none_iff (hs : m.Shows c) (user : UserId) :
    c.entrySlot user = none ↔ m.owner user = none := by
  rw [(hs.filed user).eq_none_iff]
  constructor
  · intro hnone
    cases howner : m.owner user with
    | none => rfl
    | some owner =>
      rcases Option.isSome_iff_exists.1 (hs.present user owner howner) with ⟨name, hname⟩
      rw [howner, Option.bind_some, hname] at hnone
      exact absurd hnone (by simp only [reduceCtorEq, not_false_eq_true])
  · intro hnone
    rw [hnone]
    rfl

theorem Shows.holdsOpen_eq (hs : m.Shows c) (host : Nat) (user : UserId) :
    m.holdsOpen host user = ((c.directory host).find? user).any c.isOpen := by
  rw [holdsOpen, hs.current]
  exact congrArg (fun f => (m.current host user).any f) (funext fun s => (hs.listening s).symm)

-- Three cases: there is nothing open to refresh, there is an entry to extend, or one is written.
theorem Shows.refresh (hs : m.Shows c) (hlast : c.Lasting)
    (hhost : c.hosts.find? host = some h) (user : UserId) :
    (m.move (.refresh host user)).Shows (c.move (.refresh host user)) := by
  rw [Cluster.move, registrarDoes_eq hhost, move, hs.holdsOpen_eq]
  cases hopen : ((c.directory host).find? user).any c.isOpen with
  | false =>
    rw [if_neg (fun hboth => absurd hboth.2 (by decide)),
      Cluster.runAlone_refresh_of_closed _ user host hopen]
    exact hs
  | true =>
    rcases Cluster.runAlone_refresh_of_open h.profile.registrar user host hs.healthy hlast hopen
      with ⟨hslot, hafter⟩ | ⟨hslot, e, howner, hafter⟩
    -- There is an entry already, and whoever wrote it keeps the user.
    · have hne : m.owner user ≠ none := by
        rw [Ne, ← hs.entrySlot_eq_none_iff]
        exact Option.isSome_iff_ne_none.1 hslot
      rw [if_neg (fun hboth => hne hboth.1), hafter]
      exact hs.extend user _
    · rw [if_pos ⟨(hs.entrySlot_eq_none_iff user).1 hslot, rfl⟩, hafter]
      exact hs.write hhost user howner _

/-- What the clients do is shown by who listens. -/
theorem Shows.setListening (hs : m.Shows c) (queue : Nat) (there : Bool)
    {queues : Table Nat (Mailbox Outbound)}
    (hqueues : ∀ other, ((queues.find? other).map Mailbox.receiving).getD false =
      if other = queue then there
      else ((c.queues.find? other).map Mailbox.receiving).getD false) :
    (m.setListening queue there).Shows { c with queues } := by
  refine ⟨hs.healthy, hs.distinct, hs.present, hs.filed, hs.current, ?_⟩
  intro session
  rw [Cluster.isOpen, hqueues]
  simp only [Ownership.setListening, ← hs.listening]
  rfl

theorem Shows.setClock (hs : m.Shows c) (host : Nat) (time : Int64) :
    m.Shows (c.updateHost host fun h => { h with clock := time }) := by
  have hname := nameOf_updateHost c host (f := fun h => { h with clock := time }) fun _ => rfl
  refine ⟨hs.healthy, ?_, ?_, ?_, ?_, hs.listening⟩
  · rw [Cluster.DistinctNames, hname]
    exact hs.distinct
  · rw [hname]
    exact hs.present
  · rw [hname]
    exact hs.filed
  · intro other user
    rw [Cluster.directory_updateHost c host other (f := fun h => { h with clock := time })
      fun _ => rfl]
    exact hs.current other user

/-- Every move of the cluster is answered by the machine. -/
theorem shows_move (hs : m.Shows c) (hlast : c.Lasting) (d : RegistryMove)
    (hhost : ∀ host, d.host? = some host → (c.nameOf host).isSome) :
    (m.move d).Shows (c.move d) := by
  have hthere : ∀ host, d.host? = some host → ∃ h, c.hosts.find? host = some h := by
    intro host hd
    have hname := hhost host hd
    rw [Cluster.nameOf, Option.isSome_map, Cluster.profile?, Option.isSome_map] at hname
    exact Option.isSome_iff_exists.1 hname
  cases d with
  | register host session =>
    rcases hthere host rfl with ⟨h, hh⟩
    exact hs.register hh session
  | unregister host user =>
    rcases hthere host rfl with ⟨h, hh⟩
    exact hs.unregister hlast hh user
  | unregisterIf host user id =>
    rcases hthere host rfl with ⟨h, hh⟩
    exact hs.unregisterIf hlast hh user id
  | refresh host user =>
    rcases hthere host rfl with ⟨h, hh⟩
    exact hs.refresh hlast hh user
  | connect queue capacity =>
    refine hs.setListening queue true fun other => ?_
    rw [Table.find?_insert]
    by_cases ho : other = queue
    · rw [if_pos ho, if_pos ho]
      rfl
    · rw [if_neg ho, if_neg ho]
  | hangUp queue =>
    refine hs.setListening queue false fun other => ?_
    rw [Table.find?_update]
    by_cases ho : other = queue
    · rw [if_pos ho, if_pos ho, Option.map_map]
      cases c.queues.find? other with
      | none => rfl
      | some box => rfl
    · rw [if_neg ho, if_neg ho]
  | wait ms => exact ⟨hs.healthy, hs.distinct, hs.present, hs.filed, hs.current, hs.listening⟩
  | setClock host time => exact hs.setClock host time

/-- An operation of the registry leaves all names as they are. -/
theorem nameOf_registrarDoes {α : Type} (c : Cluster) (host : Nat)
    (op : Registrar → Operation α) : (c.registrarDoes host op).nameOf = c.nameOf := by
  rw [Cluster.registrarDoes]
  cases c.hosts.find? host with
  | none => rfl
  | some h =>
    exact funext fun other => congrArg (Option.map Profile.id)
      (Cluster.profile?_runAlone host (op h.profile.registrar) c other)

theorem nameOf_move (c : Cluster) (d : RegistryMove) : (c.move d).nameOf = c.nameOf := by
  cases d with
  | register | unregister | unregisterIf | refresh => exact nameOf_registrarDoes c _ _
  | connect | hangUp | wait => rfl
  | setClock host time => exact nameOf_updateHost c host fun _ => rfl

/-- The machine keeps up with any number of moves. -/
theorem shows_moves (hs : m.Shows c) (ds : List RegistryMove)
    (hlast : ∀ past, past <+: ds → (c.moves past).Lasting)
    (hhost : ∀ d ∈ ds, ∀ host, d.host? = some host → (c.nameOf host).isSome) :
    (m.moves ds).Shows (c.moves ds) := by
  -- The first move is made, and the machine shows the cluster that the others start from.
  induction ds generalizing m c with
  | nil => exact hs
  | cons d ds ih =>
    have hnow : c.Lasting := hlast [] List.nil_prefix
    have hnext := shows_move hs hnow d (hhost d List.mem_cons_self)
    refine ih hnext (fun past hpast => ?_) (fun d' hd' host hd => ?_)
    · exact hlast (d :: past) ((List.prefix_cons_inj d).2 hpast)
    · rw [nameOf_move]
      exact hhost d' (List.mem_cons_of_mem d hd') host hd

/-- Letting a user go leaves the entries of other instances as they are. -/
theorem Shows.entrySlot_letGo (hs : m.Shows c) (hlast : c.Lasting)
    (hhost : c.hosts.find? host = some h) (user other : UserId) (reports : Reports)
    {e : RegistryEntry} (he : c.entryOf other = some e) (hne : c.nameOf host ≠ some e.owner) :
    ((c.keeping host (fun d => d.erase user) reports).runAlone host
      (h.profile.registrar.release user)).2.entrySlot other = c.entrySlot other := by
  have howner := (hs.filed other).owner_eq
  rw [Cluster.runAlone_release (c := c.keeping host (fun d => d.erase user) reports) _ user host
    hs.healthy hlast (hs.filed user)]
  -- Only one's own entry is erased, and this one names somebody else.
  split
  · next howns =>
    rw [Cluster.entrySlot_erase, if_neg]
    · rfl
    · rintro rfl
      rw [Cluster.entryOf] at he
      rw [he, Option.map_some, howns] at howner
      exact hne ((nameOf_eq hhost).trans howner.symm)
  · rfl

-- Both ways of letting go come down to giving up, which leaves other instances' entries alone.
theorem Shows.entrySlot_close (hs : m.Shows c) (hlast : c.Lasting) {d : RegistryMove}
    (hhost : c.hosts.find? host = some h) (hcloses : d.Closes host) (other : UserId)
    {e : RegistryEntry} (he : c.entryOf other = some e) (hne : c.nameOf host ≠ some e.owner) :
    (c.move d).entrySlot other = c.entrySlot other := by
  cases d with
  | unregister i user =>
    rw [show i = host from hcloses, Cluster.move, registrarDoes_eq hhost]
    rcases Cluster.runAlone_unregister h.profile.registrar user host c with ⟨reports, hafter⟩
    rw [hafter]
    exact hs.entrySlot_letGo hlast hhost user other reports he hne
  | unregisterIf i user id =>
    rw [show i = host from hcloses, Cluster.move, registrarDoes_eq hhost]
    rcases Cluster.runAlone_unregisterIf h.profile.registrar user host id c with
      ⟨_, hafter⟩ | ⟨_, reports, hafter⟩
    · rw [hafter]
    · rw [hafter]
      exact hs.entrySlot_letGo hlast hhost user other reports he hne
  | register | refresh | connect | hangUp | wait | setClock => exact absurd hcloses id

end Ownership

theorem Cluster.nameOf_moves (c : Cluster) (ds : List RegistryMove) :
    (c.moves ds).nameOf = c.nameOf := by
  induction ds generalizing c with
  | nil => rfl
  | cons d ds ih => exact (ih (c.move d)).trans (Ownership.nameOf_move c d)

/-- Whatever the instances do one after another, as long as the store answers and no entry expires,
    each of them looks up the owner that the machine has computed. No instance takes away what
    another has written by letting its own sessions go. -/
theorem owner?_eq_ownership {c : Cluster} (hhealthy : c.store.fault = none)
    (hdistinct : c.DistinctNames) (hstart : c.Unregistered) (ds : List RegistryMove)
    (hhost : ∀ d ∈ ds, ∀ host, d.host? = some host → (c.nameOf host).isSome)
    (hlast : ∀ past, past <+: ds → (c.moves past).Lasting) :
    (∀ host user, (c.moves ds).runAlone host (Registrar.owner? user) =
      (.ok ((((Ownership.start c).moves ds).owner user).bind c.nameOf), c.moves ds)) ∧
    ∀ past d host user e, past ++ [d] <+: ds → d.Closes host →
      (c.moves past).entryOf user = some e → c.nameOf host ≠ some e.owner →
        (c.moves (past ++ [d])).entrySlot user = (c.moves past).entrySlot user := by
  have hshows : ∀ past, past <+: ds → ((Ownership.start c).moves past).Shows (c.moves past) := by
    intro past hpast
    refine Ownership.shows_moves (Ownership.shows_start hhealthy hdistinct hstart) past
      (fun _ h => hlast _ (h.trans hpast)) (fun d hd => hhost d (hpast.subset hd))
  -- The machine shows the cluster after every part of the run, and so at its end, too.
  constructor
  · intro host user
    have hs := hshows ds List.prefix_rfl
    have hfiled := hs.filed user
    rw [Cluster.nameOf_moves] at hfiled
    exact Cluster.runAlone_owner? user host hs.healthy (hlast ds List.prefix_rfl) hfiled
  · intro past d host user e hpast hcloses he hne
    have hpast' := (List.prefix_append past [d]).trans hpast
    have hd : d ∈ ds := hpast.subset (List.mem_append_right past List.mem_cons_self)
    have hname := hhost d hd host (RegistryMove.host?_eq_of_closes hcloses)
    rw [← Cluster.nameOf_moves c past, Cluster.nameOf, Option.isSome_map, Cluster.profile?,
      Option.isSome_map] at hname
    rcases Option.isSome_iff_exists.1 hname with ⟨h, hh⟩
    rw [← Cluster.nameOf_moves c past] at hne
    rw [Cluster.moves, List.foldl_append]
    exact (hshows past hpast').entrySlot_close (hlast past hpast') hh hcloses user he hne

/-- Two instances of which the second takes over the first one's user. -/
def twoInstances : Cluster :=
  { Cluster.new 1000 16 0 with
    hosts := (Table.empty.insert 0 (.new (.standard ⟨"a"⟩) 0)).insert 1
      (.new (.standard ⟨"b"⟩) 0) }

/-- A user moves from the first instance to the second, and then the first lets the user go. -/
def takeover : List RegistryMove :=
  [.connect 0 1, .register 0 ⟨0, ⟨1⟩, ⟨"u"⟩⟩, .wait 1, .connect 1 1,
   .register 1 ⟨1, ⟨1⟩, ⟨"u"⟩⟩, .unregisterIf 0 ⟨"u"⟩ ⟨1⟩]

theorem nameOf_twoInstances {i : Nat} {name : InstanceId}
    (h : twoInstances.nameOf i = some name) : i = 0 ∧ name = ⟨"a"⟩ ∨ i = 1 ∧ name = ⟨"b"⟩ := by
  by_cases h0 : i = 0
  · subst h0
    exact Or.inl ⟨rfl, (Option.some.inj h).symm⟩
  · by_cases h1 : i = 1
    · subst h1
      exact Or.inr ⟨rfl, (Option.some.inj h).symm⟩
    · simp only [twoInstances, Cluster.nameOf, Cluster.profile?, Table.find?_insert, h0, h1,
        if_false, Table.find?_empty, Option.map_none, reduceCtorEq] at h

/-- The entries are as good as told apart by the deadlines in the store. -/
theorem Cluster.lasting_of_all {c : Cluster}
    (h : (c.store.slots.entries.all fun e => e.2.isLive c.now) = true) : c.Lasting :=
  fun _ slot hslot => List.all_eq_true.1 h (_, slot) ((Table.mem_iff_find? _ _ slot).2 hslot)

/-- The second instance owns the user, although the first has let the user go after that. -/
theorem owner?_takeover :
    twoInstances.DistinctNames ∧ twoInstances.Unregistered ∧
      (∀ past, past <+: takeover → (twoInstances.moves past).Lasting) ∧
      (twoInstances.moves takeover).runAlone 0 (Registrar.owner? ⟨"u"⟩) =
        (.ok (some ⟨"b"⟩), twoInstances.moves takeover) := by
  have hdistinct : twoInstances.DistinctNames := by
    intro i j name hi hj
    rcases nameOf_twoInstances hi with ⟨rfl, rfl⟩ | ⟨rfl, rfl⟩ <;>
      rcases nameOf_twoInstances hj with ⟨rfl, hname⟩ | ⟨rfl, hname⟩
    · rfl
    · exact absurd hname (by decide)
    · exact absurd hname (by decide)
    · rfl
  have hstart : twoInstances.Unregistered := by
    refine ⟨fun user => rfl, fun host user => ?_⟩
    simp only [Cluster.directory, twoInstances, Table.find?_insert]
    split
    · rfl
    · split <;> rfl
  have hhost : ∀ d ∈ takeover, ∀ host, d.host? = some host →
      (twoInstances.nameOf host).isSome := by
    have hall : ∀ d ∈ takeover, d.host?.all (fun host => (twoInstances.nameOf host).isSome) := by
      decide
    intro d hd host hdo
    have := hall d hd
    rwa [hdo] at this
  have hlast : ∀ past, past <+: takeover → (twoInstances.moves past).Lasting := by
    have hall : ∀ past ∈ takeover.inits, ((twoInstances.moves past).store.slots.entries.all
        fun e => e.2.isLive (twoInstances.moves past).now) = true := by
      decide +kernel
    exact fun past hpast => Cluster.lasting_of_all (hall past ((List.mem_inits past _).2 hpast))
  refine ⟨hdistinct, hstart, hlast, ?_⟩
  exact (owner?_eq_ownership rfl hdistinct hstart takeover hhost hlast).1 0 ⟨"u"⟩

end ChatCluster
