import RemoteFleet.Session.Basic
import RemoteFleet.Text.Split

/-!
# Mock sessions

Hosts that follow a script, for runs without a network.  A `MockRecord` counts what was asked of
them: connects, runs and closes in call order, how many sessions are open and were at most, and how
many were let go without being closed.
-/

namespace RemoteFleet

/-- What a host does. -/
inductive MockBehavior where
  | succeed (output : RemoteOutput)
  | exit (code : Int32) (output : RemoteOutput)
  | refuse (reason : String)
  | timeout
  /-- Lets connections in, and loses them when a command runs. -/
  | dropConnection (reason : String)
  | dropAfter (output : RemoteOutput) (reason : String)
  deriving DecidableEq

/-- What the hosts do. -/
structure MockScript where
  default : MockBehavior := .succeed {}
  /-- What single hosts do, by address. -/
  hosts : List (String × MockBehavior) := []
  /-- What hosts do when a command contains a text: address, text, behaviour. -/
  commands : List (String × String × MockBehavior) := []
  /-- How long every command is silent. -/
  delayMs : Nat := 0

/-- What a script's hosts were asked to do. -/
structure MockRecord where
  connects : List String := []
  runs : List (String × String) := []
  closes : List String := []
  openNow : Nat := 0
  maxOpen : Nat := 0
  droppedOpen : Nat := 0
  deriving DecidableEq

/-- A session with a scripted host. -/
structure MockSession where
  target : RemoteTarget
  closed : Bool := false
  deriving DecidableEq

namespace MockRecord

/-- One session more is open. -/
def opened (r : MockRecord) : MockRecord :=
  { r with openNow := r.openNow + 1, maxOpen := max r.maxOpen (r.openNow + 1) }

/-- One session fewer is open. -/
def released (r : MockRecord) : MockRecord := { r with openNow := r.openNow - 1 }

end MockRecord

namespace MockScript

/-- What a host does, commands aside. -/
def behaviorOf (m : MockScript) (address : String) : MockBehavior :=
  (m.hosts.lookup address).getD m.default

/-- What a host does with a command.  The first text that it contains decides. -/
def behaviorFor (m : MockScript) (address command : String) : MockBehavior :=
  match m.commands.find? fun (host, needle, _) =>
      host = address && Text.occurs needle.toList command.toList with
  | some (_, _, behavior) => behavior
  | none => m.behaviorOf address

/-- Output as it arrives: one chunk for each stream that has any. -/
def replay (output : RemoteOutput) : List Chunk :=
  (if output.stdout = [] then [] else [⟨.stdout, output.stdout⟩])
    ++ if output.stderr = [] then [] else [⟨.stderr, output.stderr⟩]

/-- What a command does on a host.  An open session cannot be refused any more. -/
def play (address : String) (delayMs : Nat) : MockBehavior → Transcript
  | .succeed output => ⟨delayMs, replay output, .ok ⟨0, output⟩⟩
  | .exit code output => ⟨delayMs, replay output, .ok ⟨code, output⟩⟩
  | .dropConnection reason => ⟨delayMs, [], .error (.transport address reason {})⟩
  | .dropAfter output reason =>
    ⟨delayMs, replay output, .error (.transport address reason output)⟩
  | .refuse _ | .timeout => ⟨delayMs, [], .ok ⟨0, {}⟩⟩

/-- Opens a session unless the host refuses or times out. -/
def connect (m : MockScript) (target : RemoteTarget) (r : MockRecord) :
    Attempt MockSession × MockRecord :=
  let r := { r with connects := r.connects ++ [target.address] }
  match m.behaviorOf target.address with
  | .refuse reason => (.refused (.connect target.address reason), r)
  | .timeout => (.refused (.timeout target.address 10000), r)
  | _ => (.opened ⟨target, false⟩, r.opened)

/-- Runs a command in a session that is not closed. -/
def run (m : MockScript) (s : MockSession) (command : String) (r : MockRecord) :
    Transcript × MockSession × MockRecord :=
  let address := s.target.address
  if s.closed then (⟨0, [], .error .closed⟩, s, r)
  else (play address m.delayMs (m.behaviorFor address command), s,
    { r with runs := r.runs ++ [(address, command)] })

/-- Closes a session, the first time. -/
def close (s : MockSession) (r : MockRecord) : Closing × MockSession × MockRecord :=
  if s.closed then ({}, s, r)
  else ({}, { s with closed := true },
    { r.released with closes := r.closes ++ [s.target.address] })

/-- Lets a session go. -/
def drop (s : MockSession) (r : MockRecord) : MockRecord :=
  if s.closed then r else { r.released with droppedOpen := r.droppedOpen + 1 }

/-- The connector to the hosts of a script. -/
def connector (m : MockScript) : Connector MockRecord MockSession where
  connect := m.connect
  run := m.run
  close := close
  drop := drop
  target := MockSession.target

end MockScript

end RemoteFleet
