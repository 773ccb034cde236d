import ChatCluster.Simulation.State

/-!
# Time and Tasks

How the tasks of a simulated cluster run and how time passes for them. At any instant the tasks
that have been woken run one after another, each until it waits. Then time leaps to the next
instant for which an alarm is set.

Whoever stands in the foreground, a test or a caller that waits for a store, takes precedence over
the tasks that are woken at the same instant.

## Main definitions

* `Simulation.run`, `Simulation.resume`: An operation, or what is left of one, up to its end or to
  where it has to wait.
* `Simulation.runTask`: A task up to where it has to wait.
* `Simulation.settle`: Everything that can run at the present instant.
* `Simulation.passUntil`, `Simulation.passWhile`: Time passes.
* `Simulation.complete`: An operation in the foreground, time passing while it waits.
-/

namespace ChatCluster

/-- How far an operation has come. -/
inductive Progress (α : Type) where
  /-- It has ended. -/
  | finished (result : α)
  /-- It goes on at a given instant. -/
  | waiting (due : Nat) (rest : Remainder α)

/-- How far a step has come. -/
inductive StepProgress (e : Effect) where
  /-- Its reply is there. -/
  | answered (reply : e.Reply)
  /-- Its reply arrives at a given instant. -/
  | answering (due : Nat) (reply : e.Reply)
  /-- It waits until a given instant for changes to the store, more of which are to come. -/
  | heldUp (due : Nat) (edits : List StoreEdit)

namespace Simulation

/-- What a step of an instance does at once. Who is listening is woken by a frame. -/
def perform (host : Nat) (e : Effect) (s : Simulation) : e.Reply × Simulation :=
  let (reply, cluster) := s.cluster.perform host e
  let s := { s with cluster }
  match e with
  | .publish topic _ => (reply, s.wakeReaders topic)
  | _ => (reply, s)

/-- Makes changes to the store up to the first that takes time. The result is when it is over, and
    the changes behind it. -/
def makeEdits : List StoreEdit → Simulation → Option (Nat × List StoreEdit) × Simulation
  | [], s => (none, s)
  | e :: rest, s =>
    if s.editDelay e = 0 then makeEdits rest (s.edit e)
    else (some (s.now + s.editDelay e, rest), s.edit e)

/-- Takes a step of an instance behind changes to the store. The failure of a call that nobody
    will answer is known at once but arrives only later. -/
def step (host : Nat) (edits : List StoreEdit) (e : Effect) (s : Simulation) :
    StepProgress e × Simulation :=
  match makeEdits edits s with
  | (some (due, edits), s) => (.heldUp due edits, s)
  | (none, s) =>
    let (reply, s') := s.perform host e
    -- Only calls to a stalled store take time, and they fail without an effect.
    if s.delay e = 0 then (.answered reply, s') else (.answering (s.now + s.delay e) reply, s')

/-- Runs an operation of an instance up to its end or to where it has to wait. -/
def run {α : Type} (host : Nat) : Operation α → Simulation → Progress α × Simulation
  | .done a, s => (.finished a, s)
  | .ask e next, s =>
    let (edits, s) := s.disturb e
    match step host edits e s with
    | (.answered reply, s) => run host (next reply) s
    | (.answering due reply, s) => (.waiting due (.steps (next reply)), s)
    | (.heldUp due edits, s) => (.waiting due (.struck edits e next), s)

/-- Runs what is left of an operation up to its end or to where it has to wait again. -/
def resume {α : Type} (host : Nat) : Remainder α → Simulation → Progress α × Simulation
  | .steps op, s => run host op s
  | .struck edits e next, s =>
    match step host edits e s with
    | (.answered reply, s) => run host (next reply) s
    | (.answering due reply, s) => (.waiting due (.steps (next reply)), s)
    | (.heldUp due edits, s) => (.waiting due (.struck edits e next), s)

/-! ## Timed loops -/

/-- One round of a loop. -/
def LoopTask.round (loop : LoopTask) (profile : Profile) : Operation Unit :=
  match loop.kind with
  | .heartbeat => profile.timedHeartbeat
  | .reap => profile.timedReap

/-- When a round is late by more than this, the rounds after it are counted from its late
    beginning. -/
def lateness : Nat := 5

/-- When the round after one that begins now will begin. -/
def LoopTask.tickAfter (loop : LoopTask) (now : Nat) : Nat :=
  if loop.tick + lateness < now then now + loop.period else loop.tick + loop.period

/-- Begins the rounds whose time has come, one after another, up to one that has to wait. Fuel
    bounds how many there are. -/
def beginRounds (profile : Profile) : (fuel : Nat) → LoopTask → Simulation → LoopTask × Simulation
  | 0, loop, s => (loop, s)
  | fuel + 1, loop, s =>
    if loop.tick ≤ s.now then
      let next := { loop with tick := LoopTask.tickAfter loop s.now }
      match s.run loop.host (LoopTask.round loop profile) with
      | (.finished (), s) => beginRounds profile fuel next s
      | (.waiting due rest, s) => ({ next with pending := some ⟨due, rest⟩ }, s)
    else (loop, s)

/-- Begins all rounds whose time has come, unless the loop has to end. -/
def goOn (loop : LoopTask) (s : Simulation) : LoopTask × Simulation :=
  if s.isStopping loop.host then ({ loop with ended := true }, s)
  else
    match s.profile? loop.host with
    | none => ({ loop with ended := true }, s)
    -- Each round moves the time of the next by a millisecond at least.
    | some profile => beginRounds profile (s.now + 1 - loop.tick) loop s

/-- Runs a loop as far as it goes now. -/
def runLoop (loop : LoopTask) (s : Simulation) : LoopTask × Simulation :=
  if loop.ended then (loop, s)
  else
    match loop.pending with
    | none => goOn loop s
    | some work =>
      if work.due ≤ s.now then
        match s.resume loop.host work.rest with
        | (.finished (), s) => goOn { loop with pending := none } s
        | (.waiting due rest, s) => ({ loop with pending := some ⟨due, rest⟩ }, s)
      else (loop, s)

/-! ## Sessions -/

/-- Lets a session go whose client will hand in nothing more. -/
def partSession (task : SessionTask) (profile : Profile) (s : Simulation) :
    SessionTask × Simulation :=
  match s.run task.host (profile.part task.session) with
  | (.finished (), s) => ({ task with work := .ended, inbox := task.inbox.closeReceiver }, s)
  | (.waiting due rest, s) => ({ task with work := .leaving ⟨due, rest⟩ }, s)

/-- Handles what a client has handed in, one item after another. -/
def serve (profile : Profile) (task : SessionTask) :
    List Inbound → Simulation → SessionTask × Simulation
  | [], s =>
    let task := { task with work := .idle, inbox := task.inbox.emptied }
    if task.inbox.sending then (task, s) else partSession task profile s
  | item :: rest, s =>
    match s.run task.host (profile.pipeline.handle task.session item) with
    | (.finished (), s) => serve profile task rest s
    | (.waiting due left, s) =>
      ({ task with work := .busy ⟨due, left⟩, inbox := { task.inbox with items := rest } }, s)

/-- The task of a session that has ended. -/
def SessionTask.end (task : SessionTask) : SessionTask :=
  { task with work := .ended, inbox := task.inbox.closeReceiver }

/-- Runs the task of a session as far as it goes now. What a session is doing is broken off when
    its node shuts down, but one that is on its way out goes on. -/
def runSession (task : SessionTask) (s : Simulation) : SessionTask × Simulation :=
  match s.profile? task.host with
  | none => (SessionTask.end task, s)
  | some profile =>
    match task.work with
    | .ended => (task, s)
    | .leaving work =>
      if work.due ≤ s.now then
        match s.resume task.host work.rest with
        | (.finished (), s) => (SessionTask.end task, s)
        | (.waiting due rest, s) => ({ task with work := .leaving ⟨due, rest⟩ }, s)
      else (task, s)
    | .busy work =>
      if s.isStopping task.host then (SessionTask.end task, s)
      else if work.due ≤ s.now then
        match s.resume task.host work.rest with
        | (.finished (), s) => serve profile task task.inbox.items s
        | (.waiting due rest, s) => ({ task with work := .busy ⟨due, rest⟩ }, s)
      else (task, s)
    | .idle =>
      if s.isStopping task.host then (SessionTask.end task, s)
      else serve profile task task.inbox.items s

/-! ## Consumers -/

/-- The frames that wait at a source, and whether more may come. -/
def waitingFrames (s : Simulation) : Source → List Bytes × Bool
  | .subscription id => (s.cluster.bus.waiting id, true)
  | .pipe id =>
    match s.pipes.find? id with
    | none => ([], false)
    | some box => (box.items, box.sending)

/-- Changes the mailbox of a source. -/
def updateSource (s : Simulation) (source : Source) (f : Mailbox Bytes → Mailbox Bytes) :
    Simulation :=
  match source with
  | .subscription id =>
    { s with cluster := { s.cluster with bus := s.cluster.bus.updateBox id f } }
  | .pipe id => { s with pipes := s.pipes.update id f }

/-- An instance takes in frames, one after another. Nothing in that waits. -/
def receiveEach (host : Nat) (frames : List Bytes) (c : Cluster) : Cluster :=
  frames.foldl (fun c frame => (c.runAlone host (Router.receive frame)).2) c

/-- Runs a consumer as far as it goes now. -/
def runConsumer (task : ConsumerTask) (s : Simulation) : ConsumerTask × Simulation :=
  if task.ended then (task, s)
  else if task.cancelled then
    ({ task with ended := true }, s.updateSource task.source Mailbox.closeReceiver)
  else
    let (frames, more) := s.waitingFrames task.source
    if frames.isEmpty && more then (task, s)
    else
      let s := s.updateSource task.source Mailbox.emptied
      let s := { s with cluster := receiveEach task.host frames s.cluster }
      if more then (task, s)
      else
        let reports := s.cluster.reports.warn .subscriptionClosed
        let s := { s with cluster := { s.cluster with reports } }
        ({ task with ended := true }, s.updateSource task.source Mailbox.closeReceiver)

/-! ## Taking turns -/

/-- A task that goes on at some instant has itself woken then. -/
def sleep (s : Simulation) (task : TaskId) : (due : Option Nat) → Simulation
  | none => s
  | some due => s.setAlarm { due, task }

/-- Runs a task as far as it goes now. -/
def runTask (s : Simulation) : TaskId → Simulation
  | .loop place =>
    match s.loops[place]? with
    | none => s
    | some loop =>
      let (loop, s) := runLoop loop s
      sleep { s with loops := s.loops.set place loop } (.loop place) loop.due?
  | .session queue =>
    match s.session? queue with
    | none => s
    | some task =>
      let (task, s) := runSession task s
      (s.updateSession queue fun _ => task).sleep (.session queue) task.due?
  | .consumer place =>
    match s.consumers[place]? with
    | none => s
    | some task =>
      let (task, s) := runConsumer task s
      { s with consumers := s.consumers.set place task }

/-- Runs the tasks that have been woken, in the order in which they were. -/
def runReady (s : Simulation) : Simulation :=
  s.ready.foldl runTask { s with ready := [] }

/-- Everything that can run at the present instant. Tasks wake only those who take in frames, and
    these wake nobody, so after the second turn nobody is left. -/
def settle (s : Simulation) : Simulation :=
  s.runReady.runReady

/-! ## Time -/

/-- Time passes from one instant to another, stopping wherever an alarm goes off in between. -/
def passFrom (now target : Nat) (s : Simulation) : Simulation :=
  match s.nextAlarm with
  | none => s.atTime target
  | some due =>
    if now < due ∧ due < target then passFrom due target (s.atTime due).settle
    else s.atTime target
termination_by target - now

/-- Time passes up to an instant. Who is woken at that very instant has not run yet. -/
def passUntil (s : Simulation) (target : Nat) : Simulation :=
  passFrom s.now target s.settle

/-- Time passes while somebody waits for a task, from alarm to alarm. Fuel bounds how many. -/
def passWhile (waiting : Simulation → Bool) : (fuel : Nat) → Simulation → Simulation
  | 0, s => s
  | fuel + 1, s =>
    let s := s.settle
    if waiting s then
      match s.nextAlarm with
      | none => s
      | some due => passWhile waiting fuel (s.atTime due)
    else s

/-- Time passes in the foreground. -/
def await (s : Simulation) (wait : Nat) : Simulation :=
  if wait = 0 then s else s.passUntil (s.now + wait)

/-- Takes a step in the foreground, behind changes to the store. -/
def answer (host : Nat) (edits : List StoreEdit) (e : Effect) (s : Simulation) :
    e.Reply × Simulation :=
  let s := edits.foldl (fun s e => (s.edit e).await (s.editDelay e)) s
  let (reply, s') := s.perform host e
  (reply, s'.await (s.delay e))

/-- Runs an operation in the foreground. -/
def complete {α : Type} (host : Nat) : Operation α → Simulation → α × Simulation
  | .done a, s => (a, s)
  | .ask e next, s =>
    let (edits, s) := s.disturb e
    let (reply, s) := answer host edits e s
    complete host (next reply) s

end Simulation

end ChatCluster
