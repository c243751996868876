import RemoteFleet.Config.Error
import RemoteFleet.Report.Basic

/-!
# Plans

A plan says what to run on which hosts: a worker job on the selected ones, several at once, and then
perhaps a leader job on one host.  `resolve` checks a plan against a roster and names the targets;
`preview` lists the commands that a run would send, without sending any.
-/

namespace RemoteFleet

/-- The run on the one host whose output counts. -/
structure LeaderPhase where
  index : UInt32
  job : CommandJob
  deriving DecidableEq

/-- What to run, where, and how failures are treated. -/
structure FleetPlan where
  selection : Selection := .all
  job : CommandJob
  leader : Option LeaderPhase := none
  /-- How many workers may be in flight at once. -/
  concurrency : Nat := 1
  /-- Whether a failed leader makes the run fail as a whole. -/
  leaderFatal : Bool := true
  /-- Whether the leader is skipped after a failed worker. -/
  strictWorkers : Bool := false
  deriving DecidableEq

namespace FleetPlan

/-- Checks the template of a job. -/
def checkTemplate (job : CommandJob) : Except ConfigError Unit :=
  job.template.validate.mapError .template

/-- Checks the leader, if there is one. -/
def checkLeader (plan : FleetPlan) (roster : HostRoster) : Except ConfigError Unit :=
  match plan.leader with
  | none => .ok ()
  | some leader =>
    if roster.contains leader.index then checkTemplate leader.job
    else .error (.leaderNotInRoster leader.index)

/-- Whether a plan can be run on a roster. -/
def validate (plan : FleetPlan) (roster : HostRoster) : Except ConfigError Unit :=
  if plan.concurrency = 0 then .error .zeroConcurrency
  else
    match checkTemplate plan.job with
    | .error e => .error e
    | .ok () =>
      match plan.job.capture with
      | .file path => .error (.captureWithoutLeader path)
      | .off => plan.checkLeader roster

end FleetPlan

/-- The targets of a plan. -/
structure ResolvedPlan where
  /-- The workers in roster order. -/
  workers : List RemoteTarget
  leader : Option (RemoteTarget × CommandJob)
  deriving DecidableEq

/-- A command that a plan sends. -/
structure PlannedRun where
  phase : Phase
  target : RemoteTarget
  job : String
  command : String
  capture : Option String
  deriving DecidableEq

namespace FleetPlan

/-- The leader's target. -/
def leaderTarget? (plan : FleetPlan) (roster : HostRoster) (credentials : Credentials) :
    Except ConfigError (Option (RemoteTarget × CommandJob)) :=
  match plan.leader with
  | none => .ok none
  | some leader =>
    match roster.target? credentials leader.index with
    | some target => .ok (some (target, leader.job))
    | none => .error (.leaderNotInRoster leader.index)

/-- The targets of a plan that can be run. -/
def resolve (plan : FleetPlan) (roster : HostRoster) (credentials : Credentials) :
    Except ConfigError ResolvedPlan := do
  plan.validate roster
  let leader ← plan.leaderTarget? roster credentials
  return ⟨roster.select plan.selection credentials, leader⟩

/-- What a worker runs. -/
def workerRun (plan : FleetPlan) (target : RemoteTarget) : PlannedRun :=
  ⟨.worker, target, plan.job.name, plan.job.template.render target, none⟩

/-- What the leader runs. -/
def leaderRun (target : RemoteTarget) (job : CommandJob) : PlannedRun :=
  ⟨.leader, target, job.name, job.template.render target, job.capture.path?⟩

/-- The commands that a plan sends, workers in roster order and then the leader. -/
def preview (plan : FleetPlan) (roster : HostRoster) (credentials : Credentials) :
    Except ConfigError (List PlannedRun) := do
  let targets ← plan.resolve roster credentials
  return targets.workers.map plan.workerRun
    ++ targets.leader.toList.map fun (target, job) => leaderRun target job

end FleetPlan

/-- One line about a planned run. -/
def PlannedRun.line (r : PlannedRun) : String :=
  r.phase.name ++ " " ++ r.target.display ++ " [" ++ r.job ++ "]: " ++ r.command
    ++ (match r.capture with
      | some path => "  > " ++ path
      | none => "")
    ++ "\n"

/-- Planned runs as text. -/
def previewText (runs : List PlannedRun) : String :=
  (if runs.isEmpty then "no targets selected\n" else "") ++ String.join (runs.map (·.line))

end RemoteFleet
