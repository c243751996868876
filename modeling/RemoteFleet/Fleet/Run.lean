import RemoteFleet.Cancel.Token
import RemoteFleet.Execution.Stage
import RemoteFleet.Fleet.Plan

/-!
# A run of a fleet

The state of a run, and every move that it can make.  A coordinator starts worker tasks, at most
`concurrency` of them at once, joins those that ended, sends each result on its way, and then takes
the leader's errand itself.  Tasks advance on their own, one stage at a time, and may die; somebody
may receive the results as they come, and may stop doing so; tokens may be cancelled.  `step` says
when an event is possible and what it does, and `follow` does one after the other: a list of events
is one order in which things happen, and what holds after every list holds whatever the order.
-/

namespace RemoteFleet

/-- What a run is asked to do. -/
structure FleetOrders where
  plan : FleetPlan
  targets : ResolvedPlan
  /-- Whether output is copied to the console. -/
  echo : Bool
  /-- The token that keeps further targets from starting. -/
  token : CancelToken
  deriving DecidableEq

/-- A worker that was started. -/
structure Task (Session File : Type) where
  slot : Nat
  errand : Errand
  stage : Stage Session File

/-- The way of results to a receiver. -/
structure ResultStream where
  /-- The results that were sent and not yet received. -/
  queue : List RunResult := []
  received : List RunResult := []
  /-- Whether the receiver is there. -/
  isOpen : Bool := true
  deriving DecidableEq

/-- How many results may be on their way. -/
def ResultStream.capacity : Nat := 64

/-- What the coordinator does next. -/
inductive Duty (Session File : Type) where
  | announce
  /-- Start and join workers. -/
  | manage
  /-- Send the result of a worker, then go on with the workers. -/
  | sendWorker (result : RunResult)
  /-- Take the leader's errand. -/
  | lead (errand : Errand) (stage : Stage Session File)
  | sendLeader (result : RunResult)
  | report
  | finished (report : FleetReport)
  /-- The leader's errand ended without a result. -/
  | crashed

/-- The state of a run. -/
structure FleetRun (Net Session Desk File : Type) where
  world : World Net Desk
  flags : CancelFlags
  duty : Duty Session File := .announce
  /-- The workers that were not started, with their slots. -/
  waiting : List (Nat × RemoteTarget)
  /-- The tasks that go on, oldest first. -/
  tasks : List (Task Session File) := []
  /-- The tasks that ended and were not joined.  A task that died has no result. -/
  ended : List (Nat × Option RunResult) := []
  /-- The results of the workers, each in its slot. -/
  slots : List (Option RunResult)
  /-- The results of all workers, when there is one for each. -/
  workers : List RunResult := []
  leader : Option RunResult := none
  startedAt : Timestamp := .epoch
  stream : Option ResultStream := none

/-- A move of a run. -/
inductive FleetMove where
  /-- The coordinator does what comes next. -/
  | coordinate
  /-- The task of a slot takes a step. -/
  | advance (slot : Nat)
  /-- The task of a slot ends without a result. -/
  | die (slot : Nat)
  | receive
  | dropReceiver
  deriving DecidableEq

/-- What happens in a run: a move of its own, or the cancelling of some token. -/
inductive FleetEvent where
  | move (move : FleetMove)
  | cancel (token : CancelToken)
  deriving DecidableEq

/-- The result of a worker whose task died. -/
def RunResult.aborted (target : RemoteTarget) (job : String) (now : Timestamp) : RunResult where
  phase := .worker
  index := target.index
  address := target.address
  job
  status := .failed
  error := some (.connection target.address "worker task aborted")
  startedAt := now
  durationMs := 0

namespace Task

variable {Session File : Type}

/-- Cuts a list of tasks at the task of a slot. -/
def cutAt? (slot : Nat) : List (Task Session File) →
    Option (List (Task Session File) × Task Session File × List (Task Session File))
  | [] => none
  | t :: tasks =>
    if t.slot = slot then some ([], t, tasks)
    else (cutAt? slot tasks).map fun (before, found, after) => (t :: before, found, after)

theorem eq_of_cutAt? {slot : Nat} {tasks before after : List (Task Session File)}
    {t : Task Session File} (h : cutAt? slot tasks = some (before, t, after)) :
    tasks = before ++ t :: after ∧ t.slot = slot := by
  induction tasks generalizing before with
  | nil => simp [cutAt?] at h
  | cons u tasks ih =>
    simp only [cutAt?] at h
    split at h
    · next hu => cases h; exact ⟨rfl, hu⟩
    · obtain ⟨⟨b, f, a⟩, hb, he⟩ := Option.map_eq_some_iff.1 h
      cases he
      obtain ⟨htasks, hslot⟩ := ih hb
      exact ⟨by rw [htasks]; rfl, hslot⟩

end Task

namespace FleetRun

variable {Net Session Desk File : Type}

/-- The state before the first move. -/
def initial (o : FleetOrders) (flags : CancelFlags) (world : World Net Desk)
    (stream : Option ResultStream) : FleetRun Net Session Desk File where
  world
  flags
  waiting := o.targets.workers.zipIdx.map fun (target, slot) => (slot, target)
  slots := List.replicate o.targets.workers.length none
  stream

section Moves

variable (c : Connector Net Session) (ws : Workstation Desk File) (o : FleetOrders)
  (s : FleetRun Net Session Desk File)

/-! ## Starting and joining workers -/

def isCancelled : Bool := s.flags.isCancelled o.token

def note (event : LogEvent) : FleetRun Net Session Desk File :=
  { s with world := { s.world with desk := ws.note event s.world.desk } }

/-- How many tasks were started and not joined. -/
def inFlight : Nat := s.tasks.length + s.ended.length

/-- Whether a task must be joined before anything else is done. -/
def mustJoin : Bool :=
  match s.waiting with
  | [] => 0 < s.inFlight
  | _ :: _ => max o.plan.concurrency 1 ≤ s.inFlight

/-- Joins the task that ended first. -/
def join : Option (FleetRun Net Session Desk File) :=
  match s.ended with
  | [] => none
  | (_, none) :: ended => some ({ s with ended }.note ws .taskAborted)
  | (slot, some result) :: ended =>
    some { s with ended, slots := s.slots.set slot (some result), duty := .sendWorker result }

/-- Starts a worker, or reports it as cancelled. -/
def start (slot : Nat) (target : RemoteTarget) (waiting : List (Nat × RemoteTarget)) :
    FleetRun Net Session Desk File :=
  if s.isCancelled o then
    let now := (ws.now s.world.desk).time
    let result := RunResult.cancelled .worker target o.plan.job.name now
    { s with waiting, slots := s.slots.set slot (some result), duty := .sendWorker result }
  else
    let errand : Errand := ⟨.worker, target, o.plan.job, o.echo⟩
    { s with waiting, tasks := s.tasks ++ [⟨slot, errand, .waiting⟩] }

/-! ## The leader -/

/-- One result for each worker: that of its slot, unless its task died. -/
def collect : List RunResult :=
  let now := (ws.now s.world.desk).time
  List.zipWith (fun target slot => slot.getD (.aborted target o.plan.job.name now))
    o.targets.workers s.slots

/-- Keeps the leader's result. -/
def settleLeader (result : RunResult) : FleetRun Net Session Desk File :=
  { s with leader := some result, duty := .sendLeader result }

/-- Whether the leader is skipped because of a worker. -/
def skipsLeader : Bool := o.plan.strictWorkers && s.workers.any (!·.succeeded)

/-- Begins the leader's errand, unless it is cancelled or skipped. -/
def startLeader (target : RemoteTarget) (job : CommandJob) : FleetRun Net Session Desk File :=
  let result := RunResult.cancelled .leader target job.name (ws.now s.world.desk).time
  if s.isCancelled o then s.settleLeader result
  else if s.skipsLeader o then
    (s.note ws (.leaderSkipped target.index target.address)).settleLeader result
  else { s with duty := .lead ⟨.leader, target, job, o.echo⟩ .waiting }

/-- Ends the workers' part. -/
def endWorkers : FleetRun Net Session Desk File :=
  let s := { s with workers := s.collect ws o }
  match o.targets.leader with
  | none => { s with duty := .report }
  | some (target, job) => s.startLeader ws o target job

/-- Takes a step of the leader's errand. -/
def advanceLeader (errand : Errand) (stage : Stage Session File) :
    FleetRun Net Session Desk File :=
  let (stage, world) := stage.advance c ws errand s.world
  let s := { s with world }
  match stage with
  | .done result => s.settleLeader result
  | .dead => { s with duty := .crashed }
  | stage => { s with duty := .lead errand stage }

/-! ## Sending and reporting -/

/-- Sends a result to the receiver.  A full stream has to wait; without a receiver the run is
cancelled. -/
def send (result : RunResult) : Option (FleetRun Net Session Desk File) :=
  match s.stream with
  | none => some s
  | some stream =>
    if stream.isOpen then
      if stream.queue.length < ResultStream.capacity then
        some { s with stream := some { stream with queue := stream.queue ++ [result] } }
      else none
    else if s.isCancelled o then some s
    else some ({ s with flags := s.flags.cancel o.token }.note ws (.receiverDropped result.index))

/-- Whether a report says that the leader failed, where that makes the run fail as a whole. -/
def failsAsAWhole (report : FleetReport) : Bool :=
  o.plan.leaderFatal && report.leader.any (·.status = .failed)

/-- Writes the report. -/
def finish : FleetRun Net Session Desk File :=
  let (runId, desk) := ws.newRunId s.world.desk
  let report : FleetReport :=
    { runId, startedAt := s.startedAt, workers := s.workers, leader := s.leader }
  let s := { s with world := { s.world with desk }, duty := .finished report }
  s.note ws (if failsAsAWhole o report then .leaderFailed report.exitCode
    else .fleetFinished report.failedCount report.exitCode)

/-- What the log says when a run begins. -/
def startNote : LogEvent :=
  .fleetStarting o.plan.selection o.targets.workers.length (o.targets.leader.map (·.1.index))
    o.plan.concurrency

/-! ## Moves -/

/-- The coordinator's move. -/
def coordinate : Option (FleetRun Net Session Desk File) :=
  match s.duty with
  | .announce =>
    some ({ s with startedAt := (ws.now s.world.desk).time, duty := .manage }.note ws (startNote o))
  | .manage =>
    if s.mustJoin o then s.join ws
    else match s.waiting with
      | [] => some (s.endWorkers ws o)
      | (slot, target) :: waiting => some (s.start ws o slot target waiting)
  | .sendWorker result => (s.send ws o result).map fun s => { s with duty := .manage }
  | .lead errand stage => some (s.advanceLeader c ws errand stage)
  | .sendLeader result => (s.send ws o result).map fun s => { s with duty := .report }
  | .report => some (s.finish ws o)
  | .finished _ => none
  | .crashed => none

/-- A step of a task. -/
def advance (slot : Nat) : Option (FleetRun Net Session Desk File) :=
  match Task.cutAt? slot s.tasks with
  | none => none
  | some (before, task, after) =>
    let (stage, world) := task.stage.advance c ws task.errand s.world
    if stage.isOver then
      some { s with world, tasks := before ++ after, ended := s.ended ++ [(slot, stage.result?)] }
    else some { s with world, tasks := before ++ { task with stage } :: after }

/-- The end of a task without a result.  Its session is let go. -/
def die (slot : Nat) : Option (FleetRun Net Session Desk File) :=
  match Task.cutAt? slot s.tasks with
  | none => none
  | some (before, task, after) =>
    let net := match task.stage.session? with
      | none => s.world.net
      | some session => c.drop session s.world.net
    some { s with world := { s.world with net }, tasks := before ++ after,
                  ended := s.ended ++ [(slot, none)] }

/-- The receiver takes a result. -/
def receive : Option (FleetRun Net Session Desk File) :=
  match s.stream with
  | some ⟨result :: queue, received, true⟩ =>
    some { s with stream := some ⟨queue, received ++ [result], true⟩ }
  | _ => none

/-- The receiver goes away, and what is on its way is lost. -/
def dropReceiver : Option (FleetRun Net Session Desk File) :=
  match s.stream with
  | some ⟨_, received, true⟩ => some { s with stream := some ⟨[], received, false⟩ }
  | _ => none

/-- What a move does, or `none` when it is not possible. -/
def move : FleetMove → Option (FleetRun Net Session Desk File)
  | .coordinate => s.coordinate c ws o
  | .advance slot => s.advance c ws slot
  | .die slot => s.die c slot
  | .receive => s.receive
  | .dropReceiver => s.dropReceiver

end Moves

/-- Cancels a token. -/
def cancel (s : FleetRun Net Session Desk File) (token : CancelToken) :
    FleetRun Net Session Desk File :=
  { s with flags := s.flags.cancel token }

/-- What an event does. -/
def step (c : Connector Net Session) (ws : Workstation Desk File) (o : FleetOrders)
    (s : FleetRun Net Session Desk File) : FleetEvent → Option (FleetRun Net Session Desk File)
  | .move m => s.move c ws o m
  | .cancel token => some (s.cancel token)

/-- Where events lead one after the other, or `none` when one of them is not possible. -/
def follow (c : Connector Net Session) (ws : Workstation Desk File) (o : FleetOrders)
    (s : FleetRun Net Session Desk File) : List FleetEvent → Option (FleetRun Net Session Desk File)
  | [] => some s
  | event :: events => (s.step c ws o event).bind fun t => t.follow c ws o events

theorem follow_append {c : Connector Net Session} {ws : Workstation Desk File} {o : FleetOrders}
    {s : FleetRun Net Session Desk File} {before after : List FleetEvent} :
    s.follow c ws o (before ++ after)
      = (s.follow c ws o before).bind fun t => t.follow c ws o after := by
  induction before generalizing s with
  | nil => rfl
  | cons event before ih => simp only [List.cons_append, follow, Option.bind_assoc, ih]

/-- The report, when it is written. -/
def report? (s : FleetRun Net Session Desk File) : Option FleetReport :=
  match s.duty with
  | .finished report => some report
  | _ => none

/-- What was received so far. -/
def received (s : FleetRun Net Session Desk File) : List RunResult :=
  match s.stream with
  | none => []
  | some stream => stream.received

end FleetRun

end RemoteFleet
