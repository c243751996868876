import RemoteFleet.Json.Printer
import RemoteFleet.Report.Basic
import RemoteFleet.Selection.Printer
import RemoteFleet.Session.Error

/-!
# Log events

What a run says about itself while it goes on.  An event has a level, a message and fields, and is
written as a JSON document of one line, or in words.
-/

namespace RemoteFleet

inductive LogLevel where
  | info
  | warn
  | error
  deriving DecidableEq

def LogLevel.name : LogLevel → String
  | .info => "INFO"
  | .warn => "WARN"
  | .error => "ERROR"

inductive LogEvent where
  | rosterLoaded (hosts : Nat) (user : String) (selection : Selection)
  | fleetStarting (selection : Selection) (workers : Nat) (leader : Option UInt32)
      (concurrency : Nat)
  | runStarting (phase : Phase) (index : UInt32) (address job : String)
  | runSucceeded (phase : Phase) (index : UInt32) (address : String)
  | runFailed (phase : Phase) (index : UInt32) (address : String) (error : RunError)
  | captureFailed (path : String) (error : FileError)
  | closeFailed (address : String) (error : SessionError)
  /-- The client could not be asked to end the connection. -/
  | exitRequestFailed (address : String) (error : FileError)
  | taskAborted
  | receiverDropped (index : UInt32)
  | leaderSkipped (index : UInt32) (address : String)
  | leaderFailed (exitCode : Int32)
  | fleetFinished (failed : Nat) (exitCode : Int32)
  | programFailed (error : String)
  deriving DecidableEq

namespace LogEvent

def level : LogEvent → LogLevel
  | .rosterLoaded .. | .fleetStarting .. | .runStarting .. | .runSucceeded ..
  | .fleetFinished .. => .info
  | .runFailed .. | .captureFailed .. | .closeFailed .. | .exitRequestFailed ..
  | .receiverDropped .. | .leaderSkipped .. => .warn
  | .taskAborted | .leaderFailed .. | .programFailed .. => .error

def message : LogEvent → String
  | .rosterLoaded .. => "roster loaded"
  | .fleetStarting .. => "fleet run starting"
  | .runStarting .. => "run starting"
  | .runSucceeded .. => "run succeeded"
  | .runFailed .. => "run failed"
  | .captureFailed .. => "capture write failed"
  | .closeFailed .. => "session close failed"
  | .exitRequestFailed .. => "ssh -O exit failed"
  | .taskAborted => "worker task aborted"
  | .receiverDropped .. => "stream receiver dropped, stopping run"
  | .leaderSkipped .. => "worker phase had failures, skipping leader"
  | .leaderFailed .. => "leader failed, fleet run aborted"
  | .fleetFinished .. => "fleet run finished"
  | .programFailed .. => "fleetrun failed"

/-- An index that may be missing. -/
def optionalIndex : Option UInt32 → String
  | none => "None"
  | some i => "Some(" ++ Text.decimalString i.toNat ++ ")"

def index (i : UInt32) : String × Json := ("index", .ofNat i.toNat)

def exitCode (code : Int32) : String × Json := ("exit_code", .integer code.toInt)

/-- The fields that say which run an event is about. -/
def runFields (phase : Phase) (i : UInt32) (address : String) : List (String × Json) :=
  [("phase", .string phase.name), index i, ("address", .string address)]

/-- The fields of an event, without its message. -/
def fields : LogEvent → List (String × Json)
  | .rosterLoaded hosts user selection =>
    [("hosts", .ofNat hosts), ("user", .string user), ("selection", .string selection.display)]
  | .fleetStarting selection workers leader concurrency =>
    [("selection", .string selection.display), ("workers", .ofNat workers),
      ("leader", .string (optionalIndex leader)), ("concurrency", .ofNat concurrency)]
  | .runStarting phase i address job => runFields phase i address ++ [("job", .string job)]
  | .runSucceeded phase i address => runFields phase i address ++ [exitCode 0]
  | .runFailed phase i address error =>
    runFields phase i address ++ [exitCode error.exitCode, ("error", .string error.message)]
  | .captureFailed path error => [("path", .string path), ("error", .string error.message)]
  | .closeFailed address error => [("address", .string address), ("error", .string error.message)]
  | .exitRequestFailed address error =>
    [("address", .string address), ("error", .string error.message)]
  | .taskAborted => []
  | .receiverDropped i => [index i]
  | .leaderSkipped i address => [index i, ("address", .string address)]
  | .leaderFailed code => [exitCode code]
  | .fleetFinished failed code => [("failed", .ofNat failed), exitCode code]
  | .programFailed error => [("error", .string error)]

/-- The event as JSON.  The message is one of its fields. -/
def toJson (e : LogEvent) : Json :=
  .object [("level", .string e.level.name),
    ("fields", .object (("message", .string e.message) :: e.fields))]

/-- The event as a line of text. -/
def line (e : LogEvent) : String :=
  e.level.name ++ " " ++ e.message
    ++ String.join (e.fields.map fun (name, value) => " " ++ name ++ "=" ++ value.compact)

end LogEvent

end RemoteFleet
