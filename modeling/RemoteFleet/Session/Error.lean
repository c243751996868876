import RemoteFleet.Files.Basic
import RemoteFleet.Report.Output
import RemoteFleet.Text.Numeral

/-!
# What goes wrong in a session

A command that ends with a code other than 0 is no error here: the session did its work.
-/

namespace RemoteFleet

/-- Why a session could not be opened, used or closed. -/
inductive SessionError where
  /-- The host refused the connection. -/
  | connect (address reason : String)
  | timeout (address : String) (ms : UInt64)
  /-- The client on this side could not be started. -/
  | spawn (reason : String)
  /-- The connection was lost.  The output is what arrived before that. -/
  | transport (address reason : String) (output : RemoteOutput)
  /-- The session was closed before. -/
  | closed
  | io (error : FileError)
  deriving DecidableEq

def SessionError.message : SessionError → String
  | .connect address reason => "cannot connect to " ++ address ++ ": " ++ reason
  | .timeout address ms =>
    address ++ ": timed out after " ++ Text.decimalString ms.toNat ++ "ms"
  | .spawn reason => "cannot start ssh client: " ++ reason
  | .transport address reason _ => address ++ ": connection lost: " ++ reason
  | .closed => "session already closed"
  | .io error => "I/O error: " ++ error.message

/-- What had arrived when the session failed. -/
def SessionError.output? : SessionError → Option RemoteOutput
  | .transport _ _ output => some output
  | _ => none

end RemoteFleet
