import RemoteFleet.Ssh.Connector

/-!
# Recorded calls of the client

`SshClient.recorded` is a client that keeps a record of what it is asked to do, and otherwise does
what the client does that it is made of.  What is only looked up, such as the time or a name, is not
on the record.

Sessions go the same way over it, and what each of their operations adds to the record is read off
the session and the machine before it: `run_recorded`, `close_recorded` and `drop_recorded`.
-/

namespace RemoteFleet

/-- Something that a client is asked to do. -/
inductive ClientCall (Master : Type) where
  | startMaster (program : String) (arguments : List String)
  | masterStatus (master : Master)
  | masterErrors (master : Master)
  | awaitMaster (master : Master) (ms : Nat)
  | killMaster (master : Master)
  | call (program : String) (arguments : List String)
  | listen (program : String) (arguments : List String)
  | removeSocket (socket : String)
  | sleep (ms : Nat)
  deriving DecidableEq

namespace SshClient

variable {Net Master : Type}

/-- The client with a record of its calls. -/
def recorded (client : SshClient Net Master) :
    SshClient (Net × List (ClientCall Master)) Master where
  startMaster program arguments net :=
    let (answer, machine) := client.startMaster program arguments net.1
    (answer, machine, net.2 ++ [.startMaster program arguments])
  masterStatus master net :=
    let (answer, machine) := client.masterStatus master net.1
    (answer, machine, net.2 ++ [.masterStatus master])
  masterErrors master net :=
    let (answer, machine) := client.masterErrors master net.1
    (answer, machine, net.2 ++ [.masterErrors master])
  awaitMaster master ms net :=
    let (answer, machine) := client.awaitMaster master ms net.1
    (answer, machine, net.2 ++ [.awaitMaster master ms])
  killMaster master net := (client.killMaster master net.1, net.2 ++ [.killMaster master])
  call program arguments net :=
    let (answer, machine) := client.call program arguments net.1
    (answer, machine, net.2 ++ [.call program arguments])
  listen program arguments limit net :=
    let (answer, machine) := client.listen program arguments limit net.1
    (answer, machine, net.2 ++ [.listen program arguments])
  removeSocket socket net := (client.removeSocket socket net.1, net.2 ++ [.removeSocket socket])
  processId net := client.processId net.1
  tempDirectory net := client.tempDirectory net.1
  nowMs net := client.nowMs net.1
  sleepMs ms net := (client.sleepMs ms net.1, net.2 ++ [.sleep ms])

section Calls

variable (client : SshClient Net Master) (net : Net × List (ClientCall Master))

@[simp] theorem startMaster_recorded (program : String) (arguments : List String) :
    client.recorded.startMaster program arguments net =
      ((client.startMaster program arguments net.1).1,
        (client.startMaster program arguments net.1).2,
        net.2 ++ [.startMaster program arguments]) :=
  rfl

@[simp] theorem masterStatus_recorded (master : Master) :
    client.recorded.masterStatus master net =
      ((client.masterStatus master net.1).1, (client.masterStatus master net.1).2,
        net.2 ++ [.masterStatus master]) :=
  rfl

@[simp] theorem masterErrors_recorded (master : Master) :
    client.recorded.masterErrors master net =
      ((client.masterErrors master net.1).1, (client.masterErrors master net.1).2,
        net.2 ++ [.masterErrors master]) :=
  rfl

@[simp] theorem awaitMaster_recorded (master : Master) (ms : Nat) :
    client.recorded.awaitMaster master ms net =
      ((client.awaitMaster master ms net.1).1, (client.awaitMaster master ms net.1).2,
        net.2 ++ [.awaitMaster master ms]) :=
  rfl

@[simp] theorem killMaster_recorded (master : Master) :
    client.recorded.killMaster master net =
      (client.killMaster master net.1, net.2 ++ [.killMaster master]) :=
  rfl

@[simp] theorem call_recorded (program : String) (arguments : List String) :
    client.recorded.call program arguments net =
      ((client.call program arguments net.1).1, (client.call program arguments net.1).2,
        net.2 ++ [.call program arguments]) :=
  rfl

@[simp] theorem listen_recorded (program : String) (arguments : List String)
    (limit : Option UInt64) :
    client.recorded.listen program arguments limit net =
      ((client.listen program arguments limit net.1).1,
        (client.listen program arguments limit net.1).2, net.2 ++ [.listen program arguments]) :=
  rfl

@[simp] theorem removeSocket_recorded (socket : String) :
    client.recorded.removeSocket socket net =
      (client.removeSocket socket net.1, net.2 ++ [.removeSocket socket]) :=
  rfl

@[simp] theorem sleepMs_recorded (ms : Nat) :
    client.recorded.sleepMs ms net = (client.sleepMs ms net.1, net.2 ++ [.sleep ms]) :=
  rfl

end Calls

end SshClient

/-- A process with the record of its client. -/
def SshProcess.withRecord {Net Master : Type} (p : SshProcess Net)
    (calls : List (ClientCall Master)) : SshProcess (Net × List (ClientCall Master)) :=
  ⟨(p.net, calls), p.nextNumber⟩

namespace Ssh

variable {Net Master : Type} (client : SshClient Net Master)

/-- Control sockets are not on the record. -/
theorem newSocket_recorded (o : SshOptions) (target : RemoteTarget) (process : SshProcess Net)
    (calls : List (ClientCall Master)) :
    newSocket client.recorded o target (process.withRecord calls) =
      ((newSocket client o target process).1,
        (newSocket client o target process).2.withRecord calls) :=
  rfl

/-- Asking whether a connection stands is one call. -/
@[simp] theorem check_recorded (program socket : String) (target : RemoteTarget)
    (net : Net × List (ClientCall Master)) :
    check client.recorded program socket target net =
      ((check client program socket target net.1).1, (check client program socket target net.1).2,
        net.2 ++ [.call program (checkArguments socket target)]) :=
  rfl

/-! ## Commands -/

/-- What is asked when a command has ended: whether the connection stands, if the client ended like
one that lost it. -/
def judgeCalls (s : SshSession Master) (status : ExitStatus) : List (ClientCall Master) :=
  if status = .exited 255 then [.call s.program (checkArguments s.socket s.target)] else []

/-- What is asked to run a command. -/
def runCalls (s : SshSession Master) (command : String) (net : Net) : List (ClientCall Master) :=
  match s.master with
  | none => []
  | some _ =>
    let arguments := callArguments s.socket s.target [] [command]
    .listen s.program arguments ::
      match (client.listen s.program arguments s.commandTimeoutSecs net).1 with
      | .ok ⟨_, _, .exited status⟩ => judgeCalls s status
      | _ => []

theorem judge_recorded (s : SshSession Master) (output : RemoteOutput)
    (net : Net × List (ClientCall Master)) (status : ExitStatus) :
    judge client.recorded s output net status =
      ((judge client s output net.1 status).1, (judge client s output net.1 status).2,
        net.2 ++ judgeCalls s status) := by
  cases status with
  | signaled signal => simp [judge, judgeCalls]
  | exited code =>
    by_cases hcode : code = 255
    · subst hcode
      simp only [judge, judgeCalls, check_recorded, if_true]
      rcases check client s.program s.socket s.target net.1 with ⟨_ | _, machine⟩ <;> rfl
    · simp [judge, judgeCalls, hcode]

/-- A command does the same over the recorded client. -/
theorem run_recorded (s : SshSession Master) (command : String)
    (net : Net × List (ClientCall Master)) :
    run client.recorded s command net =
      ((run client s command net.1).1, (run client s command net.1).2.1,
        (run client s command net.1).2.2, net.2 ++ runCalls client s command net.1) := by
  cases hmaster : s.master with
  | none => simp [run, runCalls, hmaster]
  | some master =>
    simp only [run, runCalls, hmaster, SshClient.listen_recorded]
    rcases client.listen s.program (callArguments s.socket s.target [] [command])
      s.commandTimeoutSecs net.1 with ⟨_ | ⟨silentMs, reads, status | _ | _⟩, machine⟩
    case ok.exited => simp [judge_recorded]
    all_goals rfl

/-- Only a command that the connection carries is asked for, and whether the connection stands. -/
theorem mem_runCalls {s : SshSession Master} {command : String} {net : Net}
    {call : ClientCall Master} (h : call ∈ runCalls client s command net) :
    call = .listen s.program (callArguments s.socket s.target [] [command]) ∨
      call = .call s.program (checkArguments s.socket s.target) := by
  unfold runCalls at h
  split at h
  · cases h
  · rcases List.mem_cons.1 h with rfl | h
    · exact .inl rfl
    · split at h
      · rw [judgeCalls] at h
        split at h
        · exact .inr (List.mem_singleton.1 h)
        · cases h
      · cases h

/-! ## Closing -/

/-- The arguments that ask the master of a session to end. -/
def exitArguments (s : SshSession Master) : List String :=
  callArguments s.socket s.target ["-O", "exit"] []

/-- What is asked to close a session. -/
def closeCalls (s : SshSession Master) (net : Net) : List (ClientCall Master) :=
  match s.master with
  | none => []
  | some master =>
    let (ended, _) :=
      client.awaitMaster master closeMs (client.call s.program (exitArguments s) net).2
    [.call s.program (exitArguments s), .awaitMaster master closeMs]
      ++ (if ended then [] else [.killMaster master]) ++ [.removeSocket s.socket]

/-- What is asked when a session is let go. -/
def dropCalls (s : SshSession Master) : List (ClientCall Master) :=
  match s.master with
  | none => []
  | some master => [.killMaster master, .removeSocket s.socket]

theorem close_recorded (s : SshSession Master) (net : Net × List (ClientCall Master)) :
    close client.recorded s net =
      ((close client s net.1).1, (close client s net.1).2.1, (close client s net.1).2.2,
        net.2 ++ closeCalls client s net.1) := by
  cases hmaster : s.master with
  | none => simp [close, closeCalls, hmaster]
  | some master =>
    rcases hcall : client.call s.program (callArguments s.socket s.target ["-O", "exit"] []) net.1
      with ⟨status, asked⟩
    rcases hawait : client.awaitMaster master closeMs asked with ⟨ended, machine⟩
    cases ended <;>
      simp [close, closeCalls, exitArguments, hmaster, hcall, hawait]

theorem drop_recorded (s : SshSession Master) (net : Net × List (ClientCall Master)) :
    drop client.recorded s net = (drop client s net.1, net.2 ++ dropCalls s) := by
  cases hmaster : s.master with
  | none => simp [drop, dropCalls, hmaster]
  | some master => simp [drop, dropCalls, hmaster]

end Ssh

end RemoteFleet
