import RemoteFleet.Files.Basic
import RemoteFleet.Roster.Basic
import RemoteFleet.Selection.Parser
import RemoteFleet.Template.Basic
import RemoteFleet.Toml.Decode

/-!
# Configuration errors

Everything that is found wrong before a host is contacted.
-/

namespace RemoteFleet

/-- Why a document is no roster file. -/
inductive DocumentFault where
  /-- It is not TOML. -/
  | malformed
  /-- It is TOML, and does not fit. -/
  | misfit (m : Toml.Misfit)
  deriving DecidableEq

def DocumentFault.message : DocumentFault → String
  | .malformed => "not a TOML document"
  | .misfit m => m.message

/-- Why a run is refused before it begins. -/
inductive ConfigError where
  | roster (fault : HostRoster.Fault)
  | leaderNotInRoster (index : UInt32)
  | leaderWithoutJob (index : UInt32)
  | jobWithoutLeader
  | captureWithoutLeader (path : String)
  | selection (input : String) (fault : Selection.Fault)
  | template (fault : CommandTemplate.Fault)
  | unknownJob (name : String)
  | missingJob
  | zeroConcurrency
  | unreadable (path : String) (error : FileError)
  | unparsable (path : String) (fault : DocumentFault)
  deriving DecidableEq

def ConfigError.message : ConfigError → String
  | .roster fault => fault.message
  | .leaderNotInRoster i => "leader index " ++ Text.decimalString i.toNat ++ " is not in the roster"
  | .leaderWithoutJob i => "leader index " ++ Text.decimalString i.toNat ++ " has no leader job"
  | .jobWithoutLeader => "leader job given without a leader index"
  | .captureWithoutLeader path => "capture to " ++ path ++ " requires a leader phase"
  | .selection input fault =>
    "invalid selection " ++ Text.quoteString input ++ ": " ++ fault.message
  | .template fault => "invalid command template: " ++ fault.message
  | .unknownJob name => "unknown job " ++ Text.quoteString name
  | .missingJob => "no worker job given"
  | .zeroConcurrency => "concurrency must be at least 1"
  | .unreadable path e => "cannot read roster " ++ path ++ ": " ++ e.message
  | .unparsable path fault => "cannot parse roster " ++ path ++ ": " ++ fault.message

end RemoteFleet
