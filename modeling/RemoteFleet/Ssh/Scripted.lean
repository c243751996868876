import RemoteFleet.Ssh.Client
import RemoteFleet.Text.Split

/-!
# A scripted client

A client that needs no network: what it does for a host, or for a command that contains a text, is
written in a script.  It keeps a list of its calls, and every master has a control socket, a file
that is there if its directory is.
-/

namespace RemoteFleet

/-- What the client does for a host. -/
structure HostScript where
  stdout : Bytes := []
  stderr : Bytes := []
  ending : ExitStatus := .exited 0
  /-- How long it waits before it writes anything. -/
  silentMs : Nat := 0
  /-- After a command the connection does not stand any more. -/
  losesMaster : Bool := false
  /-- After a command the master is killed and the client itself is gone. -/
  vanishes : Bool := false
  /-- How the master ends before the connection stands, if it does. -/
  masterEnding : Option ExitStatus := none
  masterErrors : Bytes := []
  deriving DecidableEq

/-- What the client does. -/
structure ClientScript where
  default : HostScript := {}
  /-- What it does for single destinations. -/
  hosts : List (String × HostScript) := []
  /-- What it does with commands that contain a text. -/
  special : Option (String × HostScript) := none
  deriving DecidableEq

/-- A master process. -/
structure ScriptedMaster where
  socket : String
  /-- Whether the connection stands. -/
  stands : Bool
  ending : Option ExitStatus
  errors : Bytes := []
  deriving DecidableEq

/-- The machine of a scripted client. -/
structure ScriptedNet where
  files : FileStore
  /-- Where the client is, if it is anywhere. -/
  client : Option Place
  script : ClientScript := {}
  masters : List ScriptedMaster := []
  /-- The control sockets that are there. -/
  sockets : List String := []
  calls : List (List String) := []
  nowMs : Nat := 0

namespace ClientScript

/-- What the client does for a destination. -/
def forHost (s : ClientScript) (destination : String) : HostScript :=
  (s.hosts.lookup destination).getD s.default

/-- What the client does with a command. -/
def forCommand (s : ClientScript) (destination command : String) : HostScript :=
  match s.special with
  | some (text, script) =>
    if Text.occurs text.toList command.toList then script else s.forHost destination
  | none => s.forHost destination

end ClientScript

namespace ScriptedNet

/-- The directory for temporary files. -/
def tempDirectory : String := "/tmp"

/-- The files with the client among them. -/
def withClient (net : ScriptedNet) : FileStore :=
  match net.client with
  | some place => net.files.write place []
  | none => net.files

/-- Why a program that is named without a slash cannot be started.  It is looked for among the
programs of the machine, and none has its name. -/
def searchFault (program : String) : FileError :=
  if 255 < program.utf8ByteSize then .nameTooLong
  else if program = "." ∨ program = ".." then .permissionDenied
  else .notFound

/-- Why a program cannot be started. -/
def startFault (net : ScriptedNet) (program : String) (arguments : List String) :
    Option FileError :=
  if (program :: arguments).any fun word => word.toList.contains '\x00' then
    some (.other "nul byte found in provided data")
  else if program.toList.contains '/' then
    match net.withClient.locate program with
    | .error e => some e
    | .ok (.vacant _) => some .notFound
    | .ok (.file place) => if net.client = some place then none else some .permissionDenied
    | .ok (.directory _) => some .permissionDenied
    | .ok .fullDevice => some .permissionDenied
  else some (searchFault program)

/-- Whether a file can be created in the directory of a path. -/
def hasDirectory (net : ScriptedNet) (path : String) : Bool :=
  match net.withClient.locate path with
  | .ok (.vacant _) => true
  | .ok (.file _) => true
  | _ => false

def record (net : ScriptedNet) (arguments : List String) : ScriptedNet :=
  { net with calls := net.calls ++ [arguments] }

/-- Changes the master of a socket. -/
def change (net : ScriptedNet) (socket : String) (f : ScriptedMaster → ScriptedMaster) :
    ScriptedNet :=
  { net with masters := net.masters.map fun m => if m.socket = socket then f m else m }

/-- The master of a socket. -/
def master? (net : ScriptedNet) (socket : String) : Option ScriptedMaster :=
  net.masters.find? (·.socket = socket)

/-- A master that is stopped by a signal, unless it ended before. -/
def stop (signal : Nat) (m : ScriptedMaster) : ScriptedMaster :=
  { m with ending := m.ending.or (some (.signaled signal)) }

/-- A connection that does not stand any more. -/
def lose (m : ScriptedMaster) : ScriptedMaster := { m with stands := false }

/-- Stops every master at once. -/
def stopAll (net : ScriptedNet) : ScriptedNet :=
  { net with masters := net.masters.map fun m => lose (stop 9 m) }

/-- Starts a master, whose socket is the fourth argument and whose destination is the last. -/
def startMaster (program : String) (arguments : List String) (net : ScriptedNet) :
    Except FileError String × ScriptedNet :=
  match net.startFault program arguments with
  | some e => (.error e, net)
  | none =>
    let socket := arguments.getD 3 ""
    let script := net.script.forHost (arguments.getLastD "")
    let master : ScriptedMaster :=
      ⟨socket, script.masterEnding.isNone, script.masterEnding, script.masterErrors⟩
    let sockets := if net.hasDirectory socket then socket :: net.sockets else net.sockets
    (.ok socket, { net with masters := master :: net.masters, sockets }.record arguments)

/-- Calls the client to ask for a connection or to end it. -/
def call (program : String) (arguments : List String) (net : ScriptedNet) :
    Except FileError ExitStatus × ScriptedNet :=
  match net.startFault program arguments with
  | some e => (.error e, net)
  | none =>
    let socket := arguments.getD 1 ""
    if arguments.getD 3 "" = "check" then
      (.ok (.exited (if (net.master? socket).any (·.stands) then 0 else 255)), net)
    else (.ok (.exited 0), (net.record arguments).change socket fun m => lose (stop 15 m))

/-- What a command leaves behind. -/
def afterCommand (net : ScriptedNet) (socket : String) (script : HostScript) : ScriptedNet :=
  if script.vanishes then
    { net.change socket fun m => lose (stop 15 m) with client := none }
  else if script.losesMaster then net.change socket lose
  else net

/-- Calls the client with a command, the last argument but for the destination before it. -/
def listen (program : String) (arguments : List String) (limitSecs : Option UInt64)
    (net : ScriptedNet) : Except FileError ClientRun × ScriptedNet :=
  match net.startFault program arguments with
  | some e => (.error e, net)
  | none =>
    let script := net.script.forCommand (arguments.getD 7 "") (arguments.getD 8 "")
    let net := net.record arguments
    let limitMs := 1000 * (limitSecs.getD 0).toNat
    if limitSecs.isSome ∧ limitMs ≤ script.silentMs then (.ok ⟨limitMs, [], .overdue⟩, net)
    else
      (.ok ⟨script.silentMs, [⟨.stdout, script.stdout⟩, ⟨.stdout, []⟩, ⟨.stderr, script.stderr⟩,
          ⟨.stderr, []⟩], .exited script.ending⟩,
        net.afterCommand (arguments.getD 1 "") script)

/-- The client.  A master process is known by its socket. -/
def sshClient : SshClient ScriptedNet String where
  startMaster := startMaster
  masterStatus socket net := (.ok ((net.master? socket).bind (·.ending)), net)
  masterErrors socket net := (((net.master? socket).map (·.errors)).getD [], net)
  awaitMaster socket _ net := ((net.master? socket).any (·.ending.isSome), net)
  killMaster socket net := net.change socket (stop 9)
  call := call
  listen := listen
  removeSocket socket net := { net with sockets := net.sockets.filter (· ≠ socket) }
  processId _ := "PID"
  tempDirectory _ := tempDirectory
  nowMs := ScriptedNet.nowMs
  sleepMs ms net := { net with nowMs := net.nowMs + ms }

end ScriptedNet

end RemoteFleet
