import RemoteFleet.Config.RosterFile
import RemoteFleet.Fleet.Plan

/-!
# Invocations

The flags of a command line and a roster file together make an invocation: a roster, a login, client
settings and a plan.  A flag wins over what the file says.
-/

namespace RemoteFleet

/-- What the flags of a command line say. -/
structure RunOptions where
  roster : Option String := none
  hosts : Option String := none
  user : Option String := none
  key : Option String := none
  port : Option UInt16 := none
  select : Option String := none
  job : Option String := none
  workdir : Option String := none
  setup : List String := []
  leader : Option UInt32 := none
  leaderJob : Option String := none
  capture : Option String := none
  concurrency : Option Nat := none
  noLeaderFatal : Bool := false
  strictWorkers : Bool := false
  connectTimeout : Option UInt64 := none
  json : Bool := false
  quiet : Bool := false

/-- Everything that a run needs. -/
structure Invocation where
  roster : HostRoster
  credentials : Credentials
  ssh : SshOptions
  plan : FleetPlan

namespace RunOptions

/-- A template with the directory and the setup steps of the flags. -/
def override (o : RunOptions) (t : CommandTemplate) : CommandTemplate where
  workdir := o.workdir.or t.workdir
  setup := if o.setup = [] then t.setup else o.setup
  command := t.command

/-- The login. -/
def credentials (o : RunOptions) (f : RosterFile) : Credentials where
  user := o.user.getD f.credentials.user
  keyFile := o.key.or f.credentials.keyFile
  port := o.port.getD f.credentials.port

/-- The client settings. -/
def sshOptions (o : RunOptions) (f : RosterFile) : SshOptions :=
  { f.ssh with connectTimeoutSecs := o.connectTimeout.getD f.ssh.connectTimeoutSecs }

/-- The hosts that run the worker job. -/
def selection (o : RunOptions) (f : RosterFile) : Except ConfigError Selection :=
  match o.select with
  | none => .ok (f.run.select.getD .all)
  | some text => (Selection.parse text).mapError (.selection text)

/-- The worker job. -/
def workerJob (o : RunOptions) (f : RosterFile) : Except ConfigError CommandJob :=
  match o.job.or f.run.job with
  | none => .error .missingJob
  | some reference =>
    (f.resolveJob reference "job").map fun (name, template) => ⟨name, o.override template, .off⟩

/-- The leader: an index and a job, or neither. -/
def leaderPhase (o : RunOptions) (f : RosterFile) : Except ConfigError (Option LeaderPhase) :=
  let capture := o.capture.or f.run.capture
  match o.leader.or f.run.leader, o.leaderJob.or f.run.leaderJob with
  | some index, some reference =>
    (f.resolveJob reference "leader").map fun (name, template) =>
      some ⟨index, ⟨name, o.override template, .ofPath? capture⟩⟩
  | some index, none => .error (.leaderWithoutJob index)
  | none, some _ => .error .jobWithoutLeader
  | none, none =>
    match capture with
    | some path => .error (.captureWithoutLeader path)
    | none => .ok none

/-- The invocation of the flags and a roster file. -/
def resolve (o : RunOptions) (f : RosterFile) : Except ConfigError Invocation := do
  let roster ← f.roster
  let selection ← o.selection f
  let job ← o.workerJob f
  let leader ← o.leaderPhase f
  let plan : FleetPlan :=
    { selection, job, leader, concurrency := (o.concurrency.or f.run.concurrency).getD 1,
      leaderFatal := !o.noLeaderFatal, strictWorkers := o.strictWorkers }
  plan.validate roster
  return { roster, credentials := o.credentials f, ssh := o.sshOptions f, plan }

/-- The roster file that the flags name, or the hosts that they list. -/
def source (o : RunOptions) (read : TextReader) : Except ConfigError RosterFile :=
  match o.roster, o.hosts with
  | some path, _ => RosterFile.load read path
  | none, some hosts => RosterFile.inline hosts
  | none, none => .error (.roster .noEntries)

/-- The invocation of the flags. -/
def load (o : RunOptions) (read : TextReader) : Except ConfigError Invocation := do
  let f ← o.source read
  o.resolve f

end RunOptions

end RemoteFleet
