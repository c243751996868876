import RemoteFleet.CommandLine.Parser
import RemoteFleet.Encoding.Report
import RemoteFleet.Fleet.Dispatch
import RemoteFleet.Text.Utf8

/-!
# The program

What a command line does.  `plan` lists the commands that a run would send; `run` sends them and
reports.  The exit status is 0 for success alone, 2 for a configuration that cannot be run, and
otherwise tells the first failure.
-/

namespace RemoteFleet

/-- What the program runs on. -/
structure Program (Net Session Desk File : Type) where
  connector : SshOptions → Connector Net Session
  workstation : Workstation Desk File
  /-- What can be read. -/
  read : Desk → TextReader

namespace Program

variable {Net Session Desk File : Type} (p : Program Net Session Desk File)

/-- The token that an interrupt would cancel. -/
def token : CancelToken := ⟨0, []⟩

/-- The flags when the program starts. -/
def flags : CancelFlags := ⟨1, []⟩

def note (event : LogEvent) (world : World Net Desk) : World Net Desk :=
  { world with desk := p.workstation.note event world.desk }

/-- Ends with an error that is not a configuration error. -/
def fail (code : Int32) (message : String) (world : World Net Desk) : Int32 × World Net Desk :=
  (code, p.note (.programFailed message) world)

/-- Writes text to the console, and goes on if that is possible. -/
def print (stream : OutputStream) (text : String) (world : World Net Desk)
    (next : World Net Desk → Int32 × World Net Desk) : Int32 × World Net Desk :=
  match p.workstation.print ⟨stream, Text.encode text⟩ world.desk with
  | (none, desk) => next { world with desk }
  | (some e, desk) => p.fail 1 e.message { world with desk }

def dispatcher (inv : Invocation) (echo : Bool) : Dispatcher Net Session Desk File where
  connector := p.connector inv.ssh
  workstation := p.workstation
  credentials := inv.credentials
  token
  echo

/-- Lists the commands of a plan. -/
def plan (options : RunOptions) (world : World Net Desk) : Int32 × World Net Desk :=
  match options.load (p.read world.desk) with
  | .error e => p.fail 2 e.message world
  | .ok inv =>
    match inv.plan.preview inv.roster inv.credentials with
    | .error e => p.fail 2 e.message world
    | .ok runs => p.print .stdout (previewText runs) world fun world => (0, world)

/-- The report as it is written to the console. -/
def reportText (options : RunOptions) (report : FleetReport) : String :=
  if options.json then report.document else report.summary

/-- Writes a report, and says so when it was the leader that failed. -/
def conclude (options : RunOptions) (report : FleetReport) (leaderFailed : Bool)
    (world : World Net Desk) : Int32 × World Net Desk :=
  p.print .stdout (reportText options report) world fun world =>
    match leaderFailed, report.leader with
    | true, some leader =>
      p.print .stderr (leader.describe ++ "\n") world fun world => (report.exitCode, world)
    | _, _ => (report.exitCode, world)

/-- Tells what came of a run. -/
def answer (options : RunOptions) (outcome : Except FleetFailure FleetReport)
    (world : World Net Desk) : Int32 × World Net Desk :=
  match outcome with
  | .ok report => p.conclude options report false world
  | .error (.leaderFailed report) => p.conclude options report true world
  | .error (.config e) => p.fail (FleetFailure.config e).exitCode e.message world
  -- The program went down with the leader's errand, and says nothing more.
  | .error .crashed => (FleetFailure.crashed.exitCode, world)

/-- Runs the fleet of an invocation. -/
def launch (options : RunOptions) (env : Surroundings) (inv : Invocation) (world : World Net Desk) :
    Except FleetFailure FleetReport × CancelFlags × World Net Desk :=
  let loaded : LogEvent := .rosterLoaded inv.roster.size inv.credentials.user inv.plan.selection
  let d := p.dispatcher inv (!options.quiet && !options.json)
  d.run env inv.roster inv.plan flags (p.note loaded world)

/-- Runs a plan, and tells what came of it. -/
def run (options : RunOptions) (env : Surroundings) (world : World Net Desk) :
    Int32 × World Net Desk :=
  match options.load (p.read world.desk) with
  | .error e => p.fail 2 e.message world
  | .ok inv =>
    let (outcome, _, world) := p.launch options env inv world
    p.answer options outcome world

/-- Does what was asked for, and gives the exit status. -/
def perform (request : Request) (env : Surroundings) (world : World Net Desk) :
    UInt8 × World Net Desk :=
  let (code, world) := match request.subcommand with
    | .plan => p.plan request.options world
    | .run => p.run request.options env world
  (processExitCode code, world)

end Program

end RemoteFleet
