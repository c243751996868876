import RemoteFleet.Log.Event
import RemoteFleet.Roster.Target

/-!
# Sessions

A session is an open connection to one host.  A `Connector` opens, uses and closes sessions; `Net`
is what the hosts and the network remember between its calls.  What a command does is a
`Transcript`: the chunks of output in the order in which they arrive, and how the command ends.
-/

namespace RemoteFleet

/-! ## Commands -/

inductive OutputStream where
  | stdout
  | stderr
  deriving DecidableEq

/-- A piece of output as it arrives. -/
structure Chunk where
  stream : OutputStream
  bytes : Bytes
  deriving DecidableEq

/-- The output with a chunk more. -/
def RemoteOutput.add (o : RemoteOutput) : Chunk → RemoteOutput
  | ⟨.stdout, bytes⟩ => { o with stdout := o.stdout ++ bytes }
  | ⟨.stderr, bytes⟩ => { o with stderr := o.stderr ++ bytes }

/-- What chunks are when they are put together. -/
def RemoteOutput.ofChunks (chunks : List Chunk) : RemoteOutput := chunks.foldl RemoteOutput.add {}

/-- How a command ended. -/
structure CommandOutcome where
  exitCode : Int32
  output : RemoteOutput
  deriving DecidableEq

def CommandOutcome.success (o : CommandOutcome) : Bool := o.exitCode = 0

/-- What a command does. -/
structure Transcript where
  /-- How long it is silent before the first chunk. -/
  delayMs : Nat := 0
  chunks : List Chunk := []
  ending : Except SessionError CommandOutcome

/-! ## Connectors -/

/-- What comes of an attempt to open a session. -/
inductive Attempt (Session : Type) where
  | opened (session : Session)
  | refused (error : SessionError)
  /-- The attempt ends without an answer, and takes its caller with it. -/
  | died

/-- What comes of closing a session. -/
structure Closing where
  /-- What is said about it in the log. -/
  notes : List LogEvent := []
  error : Option SessionError := none

/-- How sessions are opened, used and closed. -/
structure Connector (Net Session : Type) where
  connect : RemoteTarget → Net → Attempt Session × Net
  run : Session → String → Net → Transcript × Session × Net
  close : Session → Net → Closing × Session × Net
  /-- What happens when a session is let go, closed or not. -/
  drop : Session → Net → Net
  target : Session → RemoteTarget

end RemoteFleet
