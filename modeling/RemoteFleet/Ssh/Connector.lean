import RemoteFleet.Ssh.Client
import RemoteFleet.Ssh.Pump
import RemoteFleet.Text.Classes

/-!
# Sessions through the ssh client

Connecting starts a master process and asks every tenth of a second whether the connection stands.
Commands are calls through the master's control socket.  Closing asks the master to end; letting a
session go kills it.  Either way the socket is removed.

The control sockets of a process are numbered by one count, whatever connector they are for.
-/

namespace RemoteFleet

/-- A session that a master process holds. -/
structure SshSession (Master : Type) where
  target : RemoteTarget
  program : String
  socket : String
  commandTimeoutSecs : Option UInt64
  /-- The master process, until the session is closed. -/
  master : Option Master
  deriving DecidableEq

/-- A process that opens sessions, on its machine. -/
structure SshProcess (Net : Type) where
  net : Net
  /-- The number that the next control socket gets. -/
  nextNumber : UInt64 := 0

/-- Takes the next number.  The count starts again after the last. -/
def SshProcess.takeNumber {Net : Type} (p : SshProcess Net) : UInt64 × SshProcess Net :=
  (p.nextNumber, { p with nextNumber := p.nextNumber + 1 })

namespace Ssh

/-! ## Arguments -/

/-- The arguments that start a master. -/
def masterArguments (o : SshOptions) (target : RemoteTarget) (socket : String) : List String :=
  ["-M", "-N", "-S", socket, "-p", Text.decimalString target.port.toNat, "-o", "ControlPersist=no",
      "-o", "BatchMode=yes",
      "-o", "ConnectTimeout=" ++ Text.decimalString o.connectTimeoutSecs.toNat,
      "-o", "StrictHostKeyChecking=" ++ o.strictHostKeyChecking,
      "-o", "ServerAliveInterval=" ++ Text.decimalString o.serverAliveIntervalSecs.toNat,
      "-o", "LogLevel=ERROR"]
    ++ (match target.keyFile with
      | some key => ["-i", key, "-o", "IdentitiesOnly=yes"]
      | none => [])
    ++ o.extraArgs ++ [target.destination]

/-- The arguments of a call through a master's socket.  What stands behind the destination is the
command. -/
def callArguments (socket : String) (target : RemoteTarget) (control command : List String) :
    List String :=
  ["-S", socket, "-o", "ControlMaster=no", "-o", "BatchMode=yes", "-T"] ++ control
    ++ target.destination :: command

/-- The arguments that ask whether a connection stands. -/
def checkArguments (socket : String) (target : RemoteTarget) : List String :=
  ["-S", socket, "-O", "check", target.destination]

/-! ## Control sockets -/

/-- A name inside a directory. -/
def inside (directory name : String) : String :=
  if directory = "" then name
  else if directory.toList.getLast? = some '/' then directory ++ name
  else directory ++ "/" ++ name

/-- The name of a control socket. -/
def socketName (processId : String) (index : UInt32) (number : UInt64) : String :=
  "fr-" ++ processId ++ "-" ++ Text.decimalString index.toNat ++ "-"
    ++ Text.decimalString number.toNat ++ ".sock"

section Client

variable {Net Master : Type} (client : SshClient Net Master) (o : SshOptions)

/-- The control socket with a number. -/
def socketPath (target : RemoteTarget) (number : UInt64) (net : Net) : String :=
  inside (o.controlDir.getD (client.tempDirectory net))
    (socketName (client.processId net) target.index number)

/-- The control socket of the next session. -/
def newSocket (target : RemoteTarget) (process : SshProcess Net) : String × SshProcess Net :=
  let (number, process) := process.takeNumber
  (socketPath client o target number process.net, process)

/-- Whether a connection stands. -/
def check (program socket : String) (target : RemoteTarget) (net : Net) : Bool × Net :=
  let (status, net) := client.call program (checkArguments socket target) net
  (status.toOption.any ExitStatus.success, net)

/-! ## Connecting -/

/-- The time between two questions. -/
def pollMs : Nat := 100

/-- The seconds that a connection may take beyond its own limit. -/
def graceSecs : Nat := 5

/-- The seconds after which connecting is given up. -/
def patienceSecs : Nat := o.connectTimeoutSecs.toNat + graceSecs

/-- The milliseconds after which connecting is given up. -/
def patienceMs : Nat := 1000 * patienceSecs o

/-- The seconds that a time span cannot reach. -/
def endOfSpans : Nat := 0x10000000000000000

/-- The seconds that a point in time cannot reach. -/
def endOfTime : Nat := 0x8000000000000000

/-- When connecting is given up, if that is a point in time at all. -/
def deadline? (nowMs : Nat) : Option Nat :=
  if patienceSecs o < endOfSpans ∧ (nowMs + patienceMs o) / 1000 < endOfTime then
    some (nowMs + patienceMs o)
  else none

/-- How often it is asked at most: once more than polls fit into the time. -/
def pollLimit : Nat := (patienceMs o + pollMs - 1) / pollMs + 1

/-- Why a master ended: in its own words, or by its status. -/
def endReason (errors : Bytes) (status : ExitStatus) : String :=
  let words := match Text.decode? errors with
    | some text => Text.trim text.toList
    | none => []
  if words = [] then "ssh master exited with " ++ status.display else String.ofList words

/-- Gives up: the master is killed and its socket removed. -/
def giveUp (target : RemoteTarget) (socket : String) (master : Master) (net : Net) :
    Except SessionError Unit × Net :=
  (.error (.timeout target.address (patienceMs o).toUInt64),
    client.removeSocket socket (client.killMaster master net))

/-- Asks until the connection stands, the master has ended, or the time is over.  The clock moves on
between two questions, so that the deadline comes before the number of questions is used up. -/
def awaitConnection (target : RemoteTarget) (socket : String) (master : Master) (deadline : Nat) :
    Nat → Net → Except SessionError Unit × Net
  | 0, net => giveUp client o target socket master net
  | polls + 1, net =>
    match client.masterStatus master net with
    | (.error e, net) => (.error (.io e), client.killMaster master net)
    | (.ok (some status), net) =>
      let (errors, net) := client.masterErrors master net
      (.error (.connect target.address (endReason errors status)),
        client.removeSocket socket net)
    | (.ok none, net) =>
      match check client o.program socket target net with
      | (true, net) => (.ok (), net)
      | (false, net) =>
        if deadline ≤ client.nowMs net then giveUp client o target socket master net
        else awaitConnection target socket master deadline polls (client.sleepMs pollMs net)

/-- Opens a session with a control socket. -/
def openSession (target : RemoteTarget) (socket : String) (net : Net) :
    Attempt (SshSession Master) × Net :=
  match client.startMaster o.program (masterArguments o target socket) net with
  | (.error e, net) => (.refused (.spawn (o.program ++ ": " ++ e.message)), net)
  | (.ok master, net) =>
    match deadline? o (client.nowMs net) with
    | none => (.died, client.killMaster master net)
    | some deadline =>
      match awaitConnection client o target socket master deadline (pollLimit o) net with
      | (.error e, net) => (.refused e, net)
      | (.ok (), net) =>
        (.opened ⟨target, o.program, socket, o.commandTimeoutSecs, some master⟩, net)

/-- Opens a session. -/
def connect (target : RemoteTarget) (process : SshProcess Net) :
    Attempt (SshSession Master) × SshProcess Net :=
  let (socket, process) := newSocket client o target process
  let (attempt, net) := openSession client o target socket process.net
  (attempt, { process with net })

/-! ## Commands -/

/-- How many lines of output say why a connection was lost. -/
def reasonLines : Nat := 3

/-- Why a connection was lost. -/
def lostReason (output : RemoteOutput) : String :=
  let tail := output.tail reasonLines
  if tail = "" then "ssh exited with status 255 and the master is gone" else tail

/-- How a command ended.  The status 255 is the command's own only while the connection stands. -/
def judge (s : SshSession Master) (output : RemoteOutput) (net : Net) :
    ExitStatus → Except SessionError CommandOutcome × Net
  | .signaled _ =>
    (.error (.transport s.target.address "ssh client terminated by signal" output), net)
  | .exited code =>
    let outcome : CommandOutcome := ⟨code.toNat.toInt32, output⟩
    if code = 255 then
      match check client s.program s.socket s.target net with
      | (true, net) => (.ok outcome, net)
      | (false, net) => (.error (.transport s.target.address (lostReason output) output), net)
    else (.ok outcome, net)

/-- Runs a command. -/
def run (s : SshSession Master) (command : String) (net : Net) :
    Transcript × SshSession Master × Net :=
  match s.master with
  | none => (⟨0, [], .error .closed⟩, s, net)
  | some _ =>
    match client.listen s.program (callArguments s.socket s.target [] [command])
        s.commandTimeoutSecs net with
    | (.error e, net) => (⟨0, [], .error (.spawn (s.program ++ ": " ++ e.message))⟩, s, net)
    | (.ok r, net) =>
      let pump := Pump.ofReads r.reads
      match r.ending with
      | .overdue =>
        let limitMs := millisOfSecs (s.commandTimeoutSecs.getD 0)
        (⟨r.silentMs, pump.chunks, .error (.timeout s.target.address limitMs)⟩, s, net)
      | .broken e => (⟨r.silentMs, pump.chunks, .error (.io e)⟩, s, net)
      | .exited status =>
        let (ending, net) := judge client s pump.output net status
        (⟨r.silentMs, pump.chunks, ending⟩, s, net)

/-! ## Closing -/

/-- How long a master may take to end when it is asked to. -/
def closeMs : Nat := 2000

/-- Closes a session, the first time. -/
def close (s : SshSession Master) (net : Net) : Closing × SshSession Master × Net :=
  match s.master with
  | none => ({}, s, net)
  | some master =>
    let (status, net) :=
      client.call s.program (callArguments s.socket s.target ["-O", "exit"] []) net
    let notes := match status with
      | .ok _ => []
      | .error e => [LogEvent.exitRequestFailed s.target.address e]
    let (ended, net) := client.awaitMaster master closeMs net
    let net := if ended then net else client.killMaster master net
    ({ notes }, { s with master := none }, client.removeSocket s.socket net)

/-- Lets a session go. -/
def drop (s : SshSession Master) (net : Net) : Net :=
  match s.master with
  | none => net
  | some master => client.removeSocket s.socket (client.killMaster master net)

/-- The connector through the client. -/
def connector : Connector (SshProcess Net) (SshSession Master) where
  connect := connect client o
  run s command process :=
    let (transcript, s, net) := run client s command process.net
    (transcript, s, { process with net })
  close s process :=
    let (closing, s, net) := close client s process.net
    (closing, s, { process with net })
  drop s process := { process with net := drop client s process.net }
  target := SshSession.target

end Client

end Ssh

end RemoteFleet
