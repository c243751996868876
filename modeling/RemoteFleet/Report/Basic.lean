import RemoteFleet.Report.Output
import RemoteFleet.Report.Uuid
import RemoteFleet.Roster.Target
import RemoteFleet.Time.Timestamp

/-!
# Results and reports

A run of a job on one host ends in a `RunResult`; a `FleetReport` holds the results of the workers
in roster order and that of the leader.  Failures carry a code for the process that ran the fleet: 0
stands for success alone.
-/

namespace RemoteFleet

/-- Which half of a fleet run a result belongs to. -/
inductive Phase where
  | worker
  | leader
  deriving DecidableEq

def Phase.name : Phase → String
  | .worker => "worker"
  | .leader => "leader"

inductive RunStatus where
  | succeeded
  | failed
  | cancelled
  deriving DecidableEq

def RunStatus.name : RunStatus → String
  | .succeeded => "succeeded"
  | .failed => "failed"
  | .cancelled => "cancelled"

/-- Why a host did not succeed. -/
inductive RunError where
  /-- The session could not be opened, or was lost. -/
  | connection (address reason : String)
  /-- The session held, and the command ended with a code other than 0. -/
  | remoteExecution (address : String) (exitCode : Int32) (outputTail : String)
  /-- The command ran, and its output could not be kept. -/
  | capture (path reason : String)
  /-- The run was cancelled before the host was started. -/
  | cancelled (address : String)
  deriving DecidableEq

namespace RunError

def message : RunError → String
  | .connection address reason => "connection to " ++ address ++ " failed: " ++ reason
  | .remoteExecution address code _ =>
    "remote command on " ++ address ++ " exited with status " ++ Text.integerString code.toInt
  | .capture path reason => "cannot write capture file " ++ path ++ ": " ++ reason
  | .cancelled address => "cancelled before " ++ address ++ " started"

/-- The code of a failure.  It is never 0. -/
def exitCode : RunError → Int32
  | .connection _ _ => 255
  | .remoteExecution _ code _ => if code = 0 then 1 else code
  | .capture _ _ => 1
  | .cancelled _ => 130

theorem exitCode_ne_zero (e : RunError) : e.exitCode ≠ 0 := by
  cases e with
  | remoteExecution address code tail =>
    simp only [exitCode]
    split
    · decide
    · assumption
  | _ => simp only [exitCode]; decide

end RunError

/-- How a job ended on one host. -/
structure RunResult where
  phase : Phase
  index : UInt32
  address : String
  job : String
  status : RunStatus
  exitCode : Option Int32 := none
  error : Option RunError := none
  capturePath : Option String := none
  startedAt : Timestamp
  durationMs : UInt64
  output : Option RemoteOutput := none
  deriving DecidableEq

namespace RunResult

/-- The result of a host that was never started. -/
def cancelled (phase : Phase) (target : RemoteTarget) (job : String) (now : Timestamp) :
    RunResult where
  phase
  index := target.index
  address := target.address
  job
  status := .cancelled
  error := some (.cancelled target.address)
  startedAt := now
  durationMs := 0

def succeeded (r : RunResult) : Bool := r.status = .succeeded

/-- The code of a result. -/
def processCode (r : RunResult) : Int32 :=
  match r.error with
  | some e => e.exitCode
  | none => if r.succeeded then 0 else 1

/-- One line about a result. -/
def describe (r : RunResult) : String :=
  let head := r.phase.name ++ " #" ++ Text.decimalString r.index.toNat ++ " " ++ r.address ++ " ["
    ++ r.job ++ "]"
  match r.status with
  | .succeeded =>
    head ++ " succeeded in " ++ Text.decimalString r.durationMs.toNat ++ " ms"
      ++ (match r.capturePath with
        | some path => ", output in " ++ path
        | none => "")
  | .cancelled => head ++ " cancelled"
  | .failed =>
    match r.error with
    | some e => head ++ " failed: " ++ e.message
    | none => head ++ " failed"

end RunResult

/-- Everything that a fleet run produced. -/
structure FleetReport where
  runId : Uuid
  startedAt : Timestamp
  /-- The results of the workers, in roster order. -/
  workers : List RunResult
  leader : Option RunResult := none
  deriving DecidableEq

namespace FleetReport

/-- The workers first, then the leader. -/
def results (r : FleetReport) : List RunResult := r.workers ++ r.leader.toList

def allSucceeded (r : FleetReport) : Bool := r.results.all (·.succeeded)

def firstFailure? (r : FleetReport) : Option RunResult := r.results.find? (!·.succeeded)

def failedCount (r : FleetReport) : Nat := r.results.countP (!·.succeeded)

/-- The code of the first failure, or 0 if everything succeeded. -/
def exitCode (r : FleetReport) : Int32 :=
  match r.firstFailure? with
  | some result => result.processCode
  | none => 0

/-- A report in words: a count, and a line for each result. -/
def summary (r : FleetReport) : String :=
  "run " ++ String.ofList r.runId.write ++ ": "
    ++ Text.decimalString (r.results.length - r.failedCount) ++ " of "
    ++ Text.decimalString r.results.length ++ " succeeded\n"
    ++ String.join (r.results.map fun result => "  " ++ result.describe ++ "\n")

/-- What is said when the leader's failure ends the run. -/
def leaderFailure (r : FleetReport) : String :=
  match r.leader with
  | none => "leader failed"
  | some leader =>
    let head := "leader #" ++ Text.decimalString leader.index.toNat ++ " failed"
    match leader.error with
    | some e => head ++ ": " ++ e.message
    | none => head

end FleetReport

/-- The exit status of a process for a code: only 0 becomes 0, and a code out of range becomes 1. -/
def processExitCode (code : Int32) : UInt8 :=
  if code = 0 then 0
  else if 1 ≤ code ∧ code ≤ 255 then code.toInt.toNat.toUInt8
  else 1

end RemoteFleet
