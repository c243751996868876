import RemoteFleet.Session.Basic

/-!
# The ssh client

How the client program is called, and what a connector needs of it and of the machine that it runs
on.  A master process holds the connection to one host and listens on a control socket; other calls
of the client go through that socket.  `Net` is the state of all this, and `Master` a master
process.
-/

namespace RemoteFleet

/-- How the ssh client is called. -/
structure SshOptions where
  /-- The client to start. -/
  program : String := "ssh"
  /-- The seconds that a connection may take. -/
  connectTimeoutSecs : UInt64 := 10
  /-- The seconds that a command may take. -/
  commandTimeoutSecs : Option UInt64 := none
  /-- How unknown host keys are treated. -/
  strictHostKeyChecking : String := "accept-new"
  /-- The seconds between signs of life on a connection. -/
  serverAliveIntervalSecs : UInt64 := 30
  /-- Where control sockets go, if not to the directory for temporary files. -/
  controlDir : Option String := none
  /-- Further arguments, right before the destination. -/
  extraArgs : List String := []
  deriving DecidableEq

/-- A number of seconds as it is reported: in milliseconds, modulo `2 ^ 64`. -/
def millisOfSecs (secs : UInt64) : UInt64 := 1000 * secs

/-- How a process ended. -/
inductive ExitStatus where
  | exited (code : UInt8)
  | signaled (signal : Nat)
  deriving DecidableEq

namespace ExitStatus

def success (s : ExitStatus) : Bool := s = .exited 0

/-- The names of signals, by number from 1. -/
def signalNames : List String :=
  ["SIGHUP", "SIGINT", "SIGQUIT", "SIGILL", "SIGTRAP", "SIGABRT", "SIGBUS", "SIGFPE", "SIGKILL",
    "SIGUSR1", "SIGSEGV", "SIGUSR2", "SIGPIPE", "SIGALRM", "SIGTERM", "SIGSTKFLT", "SIGCHLD",
    "SIGCONT", "SIGSTOP", "SIGTSTP", "SIGTTIN", "SIGTTOU", "SIGURG", "SIGXCPU", "SIGXFSZ",
    "SIGVTALRM", "SIGPROF", "SIGWINCH", "SIGIO", "SIGPWR", "SIGSYS"]

def display : ExitStatus → String
  | .exited code => "exit status: " ++ Text.decimalString code.toNat
  | .signaled signal =>
    "signal: " ++ Text.decimalString signal
      ++ (match signalNames[signal - 1]? with
        | some name => " (" ++ name ++ ")"
        | none => "")

/-- The signals that leave a process as it is: no signal at all, and the news of a child, of going
on, of urgent data and of the window. -/
def harmlessSignals : List Nat := [0, 17, 18, 23, 28]

/-- How a process ends by a signal, if it does. -/
def ofSignal? (signal : Nat) : Option ExitStatus :=
  if signal ∈ harmlessSignals then none else some (.signaled signal)

end ExitStatus

/-- How a call that is listened to came to its end. -/
inductive ClientEnding where
  /-- Both pipes ended, and then the process. -/
  | exited (status : ExitStatus)
  /-- The time for it ran out. -/
  | overdue
  /-- A pipe could not be read. -/
  | broken (error : FileError)
  deriving DecidableEq

/-- What came of a call that is listened to. -/
structure ClientRun where
  /-- How long there was nothing to read. -/
  silentMs : Nat := 0
  /-- What was read from the two pipes.  An empty read says that its pipe ended. -/
  reads : List Chunk
  ending : ClientEnding
  deriving DecidableEq

/-- The client program and the machine that it runs on. -/
structure SshClient (Net Master : Type) where
  /-- Starts a master process. -/
  startMaster : String → List String → Net → Except FileError Master × Net
  /-- Whether a master process has ended, and how. -/
  masterStatus : Master → Net → Except FileError (Option ExitStatus) × Net
  /-- What a master process that ended had to say. -/
  masterErrors : Master → Net → Bytes × Net
  /-- Waits for a master process to end, for some milliseconds at most, and says whether it did. -/
  awaitMaster : Master → Nat → Net → Bool × Net
  killMaster : Master → Net → Net
  /-- Calls the client without listening. -/
  call : String → List String → Net → Except FileError ExitStatus × Net
  /-- Calls the client and listens, for a number of seconds at most if one is given. -/
  listen : String → List String → Option UInt64 → Net → Except FileError ClientRun × Net
  removeSocket : String → Net → Net
  /-- The identifier of this process. -/
  processId : Net → String
  /-- The directory for temporary files. -/
  tempDirectory : Net → String
  nowMs : Net → Nat
  sleepMs : Nat → Net → Net

end RemoteFleet
