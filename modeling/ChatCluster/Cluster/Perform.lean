import ChatCluster.Cluster.State

/-!
# Steps of a Cluster

What each step of an instance does to the cluster, and what running a whole operation does. A step
is total: it has a reply in every state, and a store that cannot answer replies with the failure.

`Cluster.runAlone` takes the steps of an operation one after another with nothing in between,
which is what an instance sees when it is left alone. Where steps of several instances alternate,
the operations are run step by step by whoever chooses among them.

## Main definitions

* `Cluster.perform`: One step of one instance.
* `Cluster.runAlone`: A whole operation with nothing in between.
-/

namespace ChatCluster.Cluster

/-- Offers something to a session. -/
def offer (c : Cluster) (session : SessionHandle) (item : Outbound) :
    Except OfferError Unit × Cluster :=
  match c.queues.find? session.queue with
  | none => (.error .closed, c)
  | some box =>
    match box.offer item with
    | .error e => (.error e, c)
    | .ok box => (.ok (), { c with queues := c.queues.insert session.queue box })

/-- Puts a frame on the bus, and counts what is lost to full queues. -/
def publish (c : Cluster) (topic : String) (frame : Bytes) : Except BusError Unit × Cluster :=
  match c.bus.publish topic frame with
  | (.error e, _) => (.error e, c)
  | (.ok (), bus) =>
    let lost := c.bus.losses topic
    (.ok (),
      { c with
        bus
        reports := if lost = 0 then c.reports else c.reports.count .busDropped lost })

/-- One step of one instance. An instance that is not there has no sessions, a clock that shows
    zero, and has stopped. -/
def perform (c : Cluster) (host : Nat) : (e : Effect) → e.Reply × Cluster
  | .store call =>
    let (reply, store) := c.store.call c.now call
    (reply, { c with store })
  | .publish topic frame => c.publish topic frame
  | .clock => (((c.hosts.find? host).map Host.clock).getD 0, c)
  | .postmark =>
    ({ id := .spare c.serial, time := c.wallClock }, { c with serial := c.serial + 1 })
  | .spareId => (.spare c.serial, { c with serial := c.serial + 1 })
  | .insertSession session =>
    ((c.directory host).find? session.user,
      c.updateDirectory host fun d => d.insert session.user session)
  | .findSession user => ((c.directory host).find? user, c)
  | .removeSession user =>
    ((c.directory host).find? user, c.updateDirectory host fun d => d.erase user)
  | .removeSessionIf user id =>
    match (c.directory host).find? user with
    | none => (none, c)
    | some session =>
      if session.id = id then (some session, c.updateDirectory host fun d => d.erase user)
      else (none, c)
  | .listSessions => ((c.directory host).values, c)
  | .countSessions => ((c.directory host).size, c)
  | .isOpen session => (c.isOpen session, c)
  | .offer session item => c.offer session item
  | .lifecycle => (((c.hosts.find? host).map Host.lifecycle).getD .stopped, c)
  | .comeAlive =>
    if (c.hosts.find? host).map Host.lifecycle = some .starting then
      (true, c.updateHost host fun h => { h with lifecycle := .alive })
    else (false, c)
  | .stop => ((), c.updateHost host fun h => { h with lifecycle := .stopped })
  | .setReady ready => ((), c.updateHost host fun h => { h with ready })
  | .warn w => ((), { c with reports := c.reports.warn w })
  | .count m amount => ((), { c with reports := c.reports.count m amount })
  | .gaugeSessions n => ((), { c with reports := { c.reports with sessions := n } })

/-- A whole operation with nothing in between. -/
def runAlone {α : Type} (host : Nat) : Operation α → Cluster → α × Cluster
  | .done a, c => (a, c)
  | .ask e next, c =>
    let (reply, c) := c.perform host e
    runAlone host (next reply) c

end ChatCluster.Cluster
