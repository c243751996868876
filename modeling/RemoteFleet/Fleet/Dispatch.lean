import RemoteFleet.Fleet.Schedule

/-!
# Dispatching

A dispatcher runs plans: it resolves a plan for a roster, plays the run, and gives the report; or it
gives the results one by one to a receiver.
-/

namespace RemoteFleet

/-- Why there is no report to go on with. -/
inductive FleetFailure where
  /-- Nothing was begun. -/
  | config (error : ConfigError)
  /-- The leader failed, and its failure counts for the whole run. -/
  | leaderFailed (report : FleetReport)
  /-- The leader's errand ended without a result. -/
  | crashed
  deriving DecidableEq

namespace FleetFailure

def message : FleetFailure → String
  | .config e => e.message
  | .leaderFailed report => report.leaderFailure
  | .crashed => "leader aborted"

/-- The code of a failure. -/
def exitCode : FleetFailure → Int32
  | .config _ => 2
  | .leaderFailed report => report.exitCode
  | .crashed => 101

end FleetFailure

/-- What comes of a run that is over. -/
def FleetRun.outcome {Net Session Desk File : Type} (o : FleetOrders)
    (s : FleetRun Net Session Desk File) : Except FleetFailure FleetReport :=
  match s.report? with
  | none => .error .crashed
  | some report =>
    if FleetRun.failsAsAWhole o report then .error (.leaderFailed report) else .ok report

/-- Runs plans on a workstation through a connector. -/
structure Dispatcher (Net Session Desk File : Type) where
  connector : Connector Net Session
  workstation : Workstation Desk File
  credentials : Credentials
  token : CancelToken
  echo : Bool := false

namespace Dispatcher

variable {Net Session Desk File : Type}

/-- The orders for a plan, given the token of the run. -/
def orders (d : Dispatcher Net Session Desk File) (roster : HostRoster) (plan : FleetPlan)
    (token : CancelToken) : Except ConfigError FleetOrders :=
  (plan.resolve roster d.credentials).map fun targets => ⟨plan, targets, d.echo, token⟩

/-- Runs a plan to its end. -/
def run (d : Dispatcher Net Session Desk File) (env : Surroundings) (roster : HostRoster)
    (plan : FleetPlan) (flags : CancelFlags) (world : World Net Desk) :
    Except FleetFailure FleetReport × CancelFlags × World Net Desk :=
  match d.orders roster plan d.token with
  | .error e => (.error (.config e), flags, world)
  | .ok o =>
    let first : FleetRun Net Session Desk File := .initial o flags world none
    let last := first.play d.connector d.workstation o env {}
    (last.outcome o, last.flags, last.world)

/-- Runs a plan, and gives the state at its end, with all that the receiver took.  The run has a
token of its own, a child of the dispatcher's. -/
def stream (d : Dispatcher Net Session Desk File) (env : Surroundings) (roster : HostRoster)
    (plan : FleetPlan) (flags : CancelFlags) (world : World Net Desk) :
    Except ConfigError (FleetRun Net Session Desk File) :=
  let (token, flags) := flags.childOf d.token
  (d.orders roster plan token).map fun o =>
    (FleetRun.initial o flags world (some {})).play d.connector d.workstation o env {}

/-- Takes one errand on its own. -/
def execute (d : Dispatcher Net Session Desk File) (env : Surroundings) (phase : Phase)
    (target : RemoteTarget) (job : CommandJob) (flags : CancelFlags) (world : World Net Desk) :
    Option RunResult × CancelFlags × World Net Desk :=
  let errand : Errand := ⟨phase, target, job, d.echo⟩
  let (result, world) := errand.execute d.connector d.workstation world
  (result, env.meet target flags, world)

end Dispatcher

end RemoteFleet
