import ChatCluster.Instance.Pipeline
import ChatCluster.Proofs.Cluster.Silence
import ChatCluster.Proofs.Instance.Outcomes
import ChatCluster.Proofs.Limiter.Isolation

/-!
# What Clients Hand In

Every item that a client hands in goes one of four ways. It cannot be read, or it is of the
broadcast class, and then nothing at all is done. Or its sender is weighed, and then nothing changes
but the bucket of the sender; after that the session is told to wait, or the message goes its way as
if it had not come from a client. This holds whatever is in the store, on the bus and in the queues,
and whichever calls fail.

So items of the first two kinds leave no trace. In a course of things where sessions work off items,
instances take frames in, clients read their queues, and anything else happens besides, they may all
be left out: everything is as before, but for what has been reported.

## Main definitions

* `Disposal`, `Pipeline.disposal`: The four ways, and which of them an item goes.
* `Pipeline.Disposed`: What is done in each.
* `Incident`, `Scene`, `Scene.course`: A course of things.
* `Incident.isVain`: An item of the first two kinds is handed in.

## Theorems

* `Pipeline.disposed_handle`, `Pipeline.Disposed.eq_disposal`: What is done with an item, and that
  it goes one way only.
* `Scene.after_silenced`, `Scene.after_vain`: One incident.
* `Scene.course_filter`: Vain incidents may be left out.
* `Pipeline.intake_isolated`: Each item goes one of the ways, and vain ones leave no trace.
-/

namespace ChatCluster

open Cluster Operation

/-! ## One item -/

/-- What becomes of an item. -/
inductive Disposal where
  /-- It cannot be read. -/
  | unreadable
  /-- It is of the broadcast class. -/
  | broadcast
  /-- The session is told to wait. -/
  | throttled
  /-- The message goes its way. -/
  | admitted
  deriving DecidableEq, Repr

namespace Pipeline

variable {Q : Type} [Amount Q] [BucketText Q] (self : Pipeline Q) (host : Nat)
  (session : SessionHandle) (item : Inbound) (o : Outages) (c : Cluster)

/-- How the sender of an item is weighed, after a name has been set aside for the message. -/
def weighing : Upshot Admission :=
  ({ c with serial := c.serial + 1 } : Cluster).runAmid host
    (RateLimiter.check self.limits session.user) o

/-- Which way an item goes. -/
def disposal : Disposal :=
  match item.draft? with
  | none => .unreadable
  | some d =>
    if d.isBroadcast then .broadcast
    else
      match (self.weighing host session o c).result with
      | .throttled _ => .throttled
      | .allowed => .admitted

/-- To weigh a sender changes nothing but the bucket, and the bus is not called. -/
structure Weighed (w : Upshot Admission) : Prop where
  bucket : ChangedAt (· = Key.rateLimit session.user.text) { c with serial := c.serial + 1 }
    w.cluster
  published : w.published = []
  outages : w.outages.bus = o.bus

/-- What has been done with an item, one case for each way it can go. -/
inductive Disposed (u : Upshot Unit) : Disposal → Prop where
  /-- It cannot be read, and nothing has been done. -/
  | unreadable (draft : item.draft? = none) (cluster : u.cluster.silenced = c.silenced)
      (published : u.published = []) (outages : u.outages = o) : Disposed u .unreadable
  /-- Clients may not send it, and nothing has been done. -/
  | broadcast {d : Draft} (draft : item.draft? = some d) (kind : d.isBroadcast = true)
      (cluster : u.cluster.silenced = c.silenced) (published : u.published = [])
      (outages : u.outages = o) : Disposed u .broadcast
  /-- The sender has been weighed, and a rejection stands at the end of the session's queue if that
      has taken it. -/
  | throttled {d : Draft} {w : Upshot Admission} {secs : UInt64} (draft : item.draft? = some d)
      (kind : d.isBroadcast = false) (weighing : w = self.weighing host session o c)
      (weighed : Weighed session o c w) (refused : w.result = .throttled secs)
      (told : u.cluster = w.cluster ∨ ∃ box, w.cluster.queues.find? session.queue = some box ∧
        u.cluster =
          { w.cluster with
            queues := w.cluster.queues.insert session.queue
              (box.followedBy (.rejection (.rateLimited secs))) })
      (published : u.published = []) (outages : u.outages = w.outages) : Disposed u .throttled
  /-- The sender has been weighed, and the message has been routed. -/
  | admitted {d : Draft} {w : Upshot Admission} {r : Upshot RouteOutcome}
      (draft : item.draft? = some d) (kind : d.isBroadcast = false)
      (weighing : w = self.weighing host session o c) (weighed : Weighed session o c w)
      (allowed : w.result = .allowed)
      (routing : r = w.cluster.runAmid host (self.router.route
        (d.stamp (.spare c.serial) session.user (c.clockOf host))) w.outages)
      (cluster : u.cluster = r.cluster) (published : u.published = r.published)
      (outages : u.outages = r.outages) : Disposed u .admitted

theorem weighed_weighing : Weighed session o c (self.weighing host session o c) := by
  have hconfined : Confined (.only (· = Key.rateLimit session.user.text))
      (RateLimiter.check self.limits session.user) := confined_check self.limits rfl
  rcases changedAt_runAmid hconfined id { c with serial := c.serial + 1 } host o with
    ⟨hbucket, hpublished, houtages⟩
  exact ⟨hbucket, hpublished, houtages⟩

variable {item} {d : Draft}

/-- An item that clients may not send, or that cannot be read, is reported and nothing else. -/
theorem runAmid_handle_refused {refusal : Refusal} (h : item.admissible = .error refusal) :
    ∃ reports, c.runAmid host (self.handle session item) o =
      { result := (), cluster := { c with reports }, published := [], outages := o } := by
  rw [handle, h]
  cases refusal <;> exact ⟨_, rfl⟩

/-- An item that clients may send is weighed before anything else is done. -/
theorem runAmid_handle_admissible (h : item.draft? = some d) (hkind : d.isBroadcast = false) :
    c.runAmid host (self.handle session item) o =
      runAmid host (self.submit session (d.stamp (.spare c.serial) session.user (c.clockOf host))) o
        { c with serial := c.serial + 1 } := by
  rw [handle, Inbound.admissible, h]
  simp only [hkind, Bool.false_eq_true, if_false]
  rw [runAmid_own_bind host (e := .spareId) trivial, runAmid_own_bind host (e := .clock) trivial]
  rfl

/-- The sender of the message is the user of the session, whatever the draft says. -/
theorem runAmid_check_stamp (d : Draft) (spare : MessageId) (time : Int64) :
    runAmid host (RateLimiter.check self.limits (d.stamp spare session.user time).sender) o
      { c with serial := c.serial + 1 } = self.weighing host session o c := rfl

theorem runAmid_handle_throttled (h : item.draft? = some d) (hkind : d.isBroadcast = false)
    {secs : UInt64} (hrefused : (self.weighing host session o c).result = .throttled secs) :
    c.runAmid host (self.handle session item) o =
      Upshot.after (self.weighing host session o c).published
        { result := ()
          cluster := ((self.weighing host session o c).cluster.offer session
            (.rejection (.rateLimited secs))).2
          published := []
          outages := (self.weighing host session o c).outages } := by
  rw [runAmid_handle_admissible self host session o c h hkind, submit, runAmid_bind,
    runAmid_check_stamp, hrefused]
  exact congrArg _ (runAmid_own_bind host (e := .offer session _) trivial _ _ _)

theorem runAmid_handle_admitted (h : item.draft? = some d) (hkind : d.isBroadcast = false)
    (hallowed : (self.weighing host session o c).result = .allowed) :
    c.runAmid host (self.handle session item) o =
      Upshot.after (self.weighing host session o c).published
        (runAmid host (self.router.route
          (d.stamp (.spare c.serial) session.user (c.clockOf host)) >>= fun _ => pure ())
          (self.weighing host session o c).outages (self.weighing host session o c).cluster) := by
  rw [runAmid_handle_admissible self host session o c h hkind, submit, runAmid_bind,
    runAmid_check_stamp, hallowed]

/-- What is done with an item. -/
theorem disposed_handle (item : Inbound) :
    ∃ way, self.Disposed host session item o c
      (c.runAmid host (self.handle session item) o) way := by
  cases hdraft : item.draft? with
  | none =>
    have hrefused : item.admissible = .error .malformed := by
      rw [Inbound.admissible, hdraft]
    rcases runAmid_handle_refused self host session o c hrefused with ⟨reports, hhandle⟩
    rw [hhandle]
    exact ⟨_, .unreadable hdraft rfl rfl rfl⟩
  | some d =>
    cases hkind : d.isBroadcast with
    | true =>
      have hrefused : item.admissible = .error .broadcastKind := by
        rw [Inbound.admissible, hdraft]
        exact if_pos hkind
      rcases runAmid_handle_refused self host session o c hrefused with ⟨reports, hhandle⟩
      rw [hhandle]
      exact ⟨_, .broadcast hdraft hkind rfl rfl rfl⟩
    | false =>
      have hweighed := self.weighed_weighing host session o c
      cases hresult : (self.weighing host session o c).result with
      | throttled secs =>
        rw [runAmid_handle_throttled self host session o c hdraft hkind hresult, hweighed.published]
        refine ⟨_, .throttled hdraft hkind rfl hweighed hresult ?_ rfl rfl⟩
        rcases offer_cases (self.weighing host session o c).cluster session
          (.rejection (.rateLimited secs)) with ⟨_, hoffer⟩ | ⟨box, hbox, hoffer⟩
        · exact Or.inl (congrArg Prod.snd hoffer)
        · exact Or.inr ⟨box, hbox, congrArg Prod.snd hoffer⟩
      | allowed =>
        rw [runAmid_handle_admitted self host session o c hdraft hkind hresult, hweighed.published,
          runAmid_bind]
        exact ⟨_, .admitted hdraft hkind rfl hweighed hresult rfl rfl (List.append_nil _) rfl⟩

/-- An item goes one way only. -/
theorem Disposed.eq_disposal {item : Inbound} {u : Upshot Unit} {way : Disposal}
    (h : self.Disposed host session item o c u way) :
    way = self.disposal host session item o c := by
  cases h with
  | unreadable hdraft => rw [disposal, hdraft]
  | broadcast hdraft hkind =>
    rw [disposal, hdraft]
    exact (if_pos hkind).symm
  | throttled hdraft hkind hw _ hresult =>
    rw [disposal, hdraft, ← hw, hresult]
    exact (if_neg (Bool.eq_false_iff.1 hkind)).symm
  | admitted hdraft hkind hw _ hresult =>
    rw [disposal, hdraft, ← hw, hresult]
    exact (if_neg (Bool.eq_false_iff.1 hkind)).symm

end Pipeline

/-! ## A course of things -/

/-- What happens in a cluster. -/
inductive Incident (Q : Type) where
  /-- A session works off an item of its client. -/
  | handIn (host : Nat) (self : Pipeline Q) (session : SessionHandle) (item : Inbound)
  /-- An instance takes in the frame that has waited longest on one of its subscriptions. -/
  | takeIn (host : Nat) (subscription : Nat)
  /-- A client reads what has waited longest in its queue. -/
  | read (queue : Nat)
  /-- An instance does something else. -/
  | work (host : Nat) (op : Operation Unit)
  /-- Anything else. -/
  | outside (o : Outside)

/-- An item is handed in that cannot be read, or is of the broadcast class. -/
def Incident.isVain {Q : Type} : Incident Q → Bool
  | .handIn _ _ _ item => item.draft?.all Draft.isBroadcast
  | .takeIn _ _ | .read _ | .work _ _ | .outside _ => false

/-- What can be seen of a cluster in the course of things. -/
structure Scene where
  /-- The cluster. -/
  cluster : Cluster
  /-- The outages to come. -/
  outages : Outages
  /-- What the bus has accepted, topic and frame, first one first. -/
  published : List (String × Bytes)
  /-- What clients have read, each from its queue, first one first. -/
  received : List (Nat × Outbound)

namespace Scene

variable {Q : Type} [Amount Q] [BucketText Q] {α : Type}

/-- After an operation. -/
def ended (s : Scene) (u : Upshot α) : Scene :=
  { s with cluster := u.cluster, outages := u.outages, published := s.published ++ u.published }

/-- After an incident. -/
def after (s : Scene) : Incident Q → Scene
  | .handIn host self session item =>
    s.ended (s.cluster.runAmid host (self.handle session item) s.outages)
  | .takeIn host subscription =>
    match s.cluster.bus.take? subscription with
    | none => s
    | some (frame, bus) =>
      s.ended ({ s.cluster with bus }.runAmid host (Router.receive frame) s.outages)
  | .read queue =>
    match (s.cluster.queues.find? queue).bind Mailbox.take? with
    | none => s
    | some (item, box) =>
      { s with
        cluster := { s.cluster with queues := s.cluster.queues.insert queue box }
        received := s.received ++ [(queue, item)] }
  | .work host op => s.ended (s.cluster.runAmid host op s.outages)
  | .outside o => { s with cluster := s.cluster.befall o }

/-- After a course of things. -/
def course (s : Scene) (incidents : List (Incident Q)) : Scene :=
  incidents.foldl after s

/-- With nothing reported. -/
def silenced (s : Scene) : Scene :=
  { s with cluster := s.cluster.silenced }

variable {s other : Scene} {incident : Incident Q}

theorem ended_silenced {u u' : Upshot α} (h : s.silenced = other.silenced)
    (hu : u.silenced = u'.silenced) : (s.ended u).silenced = (other.ended u').silenced := by
  rw [silenced, silenced, Scene.mk.injEq] at h
  rw [Upshot.silenced, Upshot.silenced, Upshot.mk.injEq] at hu
  simp only [silenced, ended, h.2.2.1, h.2.2.2, hu.2.1, hu.2.2.1, hu.2.2.2]

/-- What has been reported has no bearing on an incident. -/
theorem after_silenced (incident : Incident Q) (h : s.silenced = other.silenced) :
    (s.after incident).silenced = (other.after incident).silenced := by
  rcases s with ⟨c, o, published, received⟩
  rcases other with ⟨d, o', published', received'⟩
  have hparts := h
  rw [silenced, silenced, Scene.mk.injEq] at hparts
  rcases hparts with ⟨hcluster, rfl, rfl, rfl⟩
  change c.silenced = d.silenced at hcluster
  cases incident with
  | handIn host self session item => exact ended_silenced h (runAmid_silenced host _ o hcluster)
  | takeIn host subscription =>
    rw [eq_of_silenced hcluster]
    simp only [after]
    cases c.bus.take? subscription with
    | none => rfl
    | some taken => exact ended_silenced rfl (runAmid_silenced host _ o rfl)
  | read queue =>
    rw [eq_of_silenced hcluster]
    simp only [after]
    cases (c.queues.find? queue).bind Mailbox.take? with
    | none => rfl
    | some taken => rfl
  | work host op => exact ended_silenced h (runAmid_silenced host op o hcluster)
  | outside happening =>
    simp only [after, silenced, befall_silenced happening hcluster]

/-- A vain incident leaves no trace but in the reports. -/
theorem after_vain (s : Scene) (h : incident.isVain = true) :
    (s.after incident).silenced = s.silenced := by
  cases incident with
  | handIn host self session item =>
    have hrefused : ∃ refusal, item.admissible = .error refusal := by
      rw [Incident.isVain] at h
      rw [Inbound.admissible]
      cases hdraft : item.draft? with
      | none => exact ⟨_, rfl⟩
      | some d =>
        rw [hdraft] at h
        exact ⟨_, if_pos h⟩
    rcases hrefused with ⟨refusal, hrefused⟩
    rcases self.runAmid_handle_refused host session s.outages s.cluster hrefused with
      ⟨reports, hhandle⟩
    rw [after, hhandle, ended, List.append_nil]
    rfl
  | takeIn | read | work | outside => exact absurd h Bool.false_ne_true

/-- Vain incidents may be left out. -/
theorem course_filter (incidents : List (Incident Q)) (h : s.silenced = other.silenced) :
    (s.course incidents).silenced =
      (other.course (incidents.filter fun i => !i.isVain)).silenced := by
  induction incidents generalizing s other with
  | nil => exact h
  | cons incident rest ih =>
    cases hvain : incident.isVain with
    | true =>
      rw [List.filter_cons_of_neg (by rw [hvain]; exact Bool.false_ne_true)]
      exact ih ((after_vain s hvain).trans h)
    | false =>
      rw [List.filter_cons_of_pos (by rw [hvain]; rfl)]
      exact ih (after_silenced incident h)

end Scene

/-- Every item that is handed in goes exactly one of four ways, whatever the state of the cluster
    and whichever calls fail. In any course of things, those that cannot be read and those of the
    broadcast class may be left out: the cluster ends up the same but for its reports, the bus
    accepts the same frames, and clients read the same things. -/
theorem Pipeline.intake_isolated {Q : Type} [Amount Q] [BucketText Q] :
    (∀ (self : Pipeline Q) (host : Nat) (session : SessionHandle) (item : Inbound) (o : Outages)
      (c : Cluster), ∃! way, self.Disposed host session item o c
        (c.runAmid host (self.handle session item) o) way) ∧
      ∀ (s : Scene) (incidents : List (Incident Q)),
        let others := incidents.filter fun i => !i.isVain
        (s.course incidents).cluster.silenced = (s.course others).cluster.silenced ∧
          (s.course incidents).outages = (s.course others).outages ∧
          (s.course incidents).published = (s.course others).published ∧
          (s.course incidents).received = (s.course others).received := by
  refine ⟨fun self host session item o c => ?_, fun s incidents => ?_⟩
  · rcases self.disposed_handle host session o c item with ⟨way, hway⟩
    have hunique := hway.eq_disposal self host session o c
    exact ⟨way, hway, fun _ hother =>
      (hother.eq_disposal self host session o c).trans hunique.symm⟩
  · have hsame : (s.course incidents).silenced =
        (s.course (incidents.filter fun i => !i.isVain)).silenced :=
      Scene.course_filter incidents rfl
    rw [Scene.silenced, Scene.silenced, Scene.mk.injEq] at hsame
    exact hsame

end ChatCluster
