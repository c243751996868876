import RemoteFleet.Config.Error
import RemoteFleet.Ssh.Client
import RemoteFleet.Toml.Reader

/-!
# Roster files

A roster file names the hosts of a fleet, and may set the login, the client, named jobs, and
defaults for a run.  `ofText` reads one from TOML.
-/

namespace RemoteFleet

/-- What a run does unless a flag says otherwise. -/
structure RunDefaults where
  select : Option Selection := none
  job : Option String := none
  leader : Option UInt32 := none
  leaderJob : Option String := none
  capture : Option String := none
  concurrency : Option Nat := none

/-- What a roster file says. -/
structure RosterFile where
  credentials : Credentials := {}
  ssh : SshOptions := {}
  hosts : List HostEntry := []
  /-- Templates under their names. -/
  jobs : List (String × CommandTemplate) := []
  run : RunDefaults := {}

open Toml (Decoder RecordShape)

/-! ## The tables of a roster file -/

/-- A host whose index and address have perhaps not been read yet. -/
structure HostDraft where
  index : Option UInt32 := none
  address : Option String := none
  user : Option String := none
  keyFile : Option String := none
  port : Option UInt16 := none

def HostEntry.decoder : Decoder HostEntry :=
  RecordShape.decode ⟨"HostEntry", ["index", "address", "user", "key_file", "port"]⟩
    ({} : HostDraft)
    (fun name v h => match name with
      | "index" => return { h with index := some (← Decoder.uint32 v) }
      | "address" => return { h with address := some (← Decoder.string v) }
      | "user" => return { h with user := some (← Decoder.string v) }
      | "key_file" => return { h with keyFile := some (← Decoder.path v) }
      | "port" => return { h with port := some (← Decoder.uint16 v) }
      | _ => return h)
    (fun missing h => do
      let index ← Toml.required missing "index" h.index
      let address ← Toml.required missing "address" h.address
      return ⟨index, address, h.user, h.keyFile, h.port⟩)

def Credentials.decoder : Decoder Credentials :=
  RecordShape.decode ⟨"Credentials", ["user", "key_file", "port"]⟩ ({} : Credentials)
    (fun name v c => match name with
      | "user" => return { c with user := ← Decoder.string v }
      | "key_file" => return { c with keyFile := some (← Decoder.path v) }
      | "port" => return { c with port := ← Decoder.uint16 v }
      | _ => return c)
    (fun _ c => .ok c)

def SshOptions.decoder : Decoder SshOptions :=
  RecordShape.decode
    ⟨"SshOptions", ["program", "connect_timeout_secs", "command_timeout_secs",
      "strict_host_key_checking", "server_alive_interval_secs", "control_dir", "extra_args"]⟩
    ({} : SshOptions)
    (fun name v o => match name with
      | "program" => return { o with program := ← Decoder.string v }
      | "connect_timeout_secs" => return { o with connectTimeoutSecs := ← Decoder.uint64 v }
      | "command_timeout_secs" => return { o with commandTimeoutSecs := some (← Decoder.uint64 v) }
      | "strict_host_key_checking" => return { o with strictHostKeyChecking := ← Decoder.string v }
      | "server_alive_interval_secs" =>
        return { o with serverAliveIntervalSecs := ← Decoder.uint64 v }
      | "control_dir" => return { o with controlDir := some (← Decoder.path v) }
      | "extra_args" => return { o with extraArgs := ← Decoder.list Decoder.string v }
      | _ => return o)
    (fun _ o => .ok o)

/-- A template whose command has perhaps not been read yet. -/
structure TemplateDraft where
  workdir : Option String := none
  setup : List String := []
  command : Option String := none

def CommandTemplate.decoder : Decoder CommandTemplate :=
  RecordShape.decode ⟨"CommandTemplate", ["workdir", "setup", "command"]⟩ ({} : TemplateDraft)
    (fun name v t => match name with
      | "workdir" => return { t with workdir := some (← Decoder.string v) }
      | "setup" => return { t with setup := ← Decoder.list Decoder.string v }
      | "command" => return { t with command := some (← Decoder.string v) }
      | _ => return t)
    (fun missing t => do
      let command ← Toml.required missing "command" t.command
      return ⟨t.workdir, t.setup, command⟩)

def RunDefaults.decoder : Decoder RunDefaults :=
  RecordShape.decode
    ⟨"RunDefaults", ["select", "job", "leader", "leader_job", "capture", "concurrency"]⟩
    ({} : RunDefaults)
    (fun name v r => match name with
      | "select" => return { r with select := some (← Decoder.selection v) }
      | "job" => return { r with job := some (← Decoder.string v) }
      | "leader" => return { r with leader := some (← Decoder.uint32 v) }
      | "leader_job" => return { r with leaderJob := some (← Decoder.string v) }
      | "capture" => return { r with capture := some (← Decoder.path v) }
      | "concurrency" => return { r with concurrency := some (← Decoder.count v) }
      | _ => return r)
    (fun _ r => .ok r)

namespace RosterFile

def decoder : Decoder RosterFile :=
  RecordShape.decode ⟨"RosterFile", ["credentials", "ssh", "hosts", "jobs", "run"]⟩
    ({} : RosterFile)
    (fun name v f => match name with
      | "credentials" => return { f with credentials := ← Credentials.decoder v }
      | "ssh" => return { f with ssh := ← SshOptions.decoder v }
      | "hosts" => return { f with hosts := ← Decoder.list HostEntry.decoder v }
      | "jobs" => return { f with jobs := ← Decoder.entries CommandTemplate.decoder v }
      | "run" => return { f with run := ← RunDefaults.decoder v }
      | _ => return f)
    (fun _ f => .ok f)

/-- Reads a roster file from its text. -/
def ofText (text : String) : Except DocumentFault RosterFile :=
  match Toml.read? text.toList with
  | none => .error .malformed
  | some members => (decoder (.table .headed members)).mapError .misfit

/-- Reads the roster file at a path. -/
def load (read : TextReader) (path : String) : Except ConfigError RosterFile :=
  match read path with
  | .error e => .error (.unreadable path e)
  | .ok text => (ofText text).mapError (.unparsable path)

/-- A roster file that only has the hosts of the inline form. -/
def inline (hosts : String) : Except ConfigError RosterFile :=
  match HostRoster.parseInline hosts with
  | .ok roster => .ok { hosts := roster.entries }
  | .error fault => .error (.roster fault)

/-- The roster of the hosts. -/
def roster (f : RosterFile) : Except ConfigError HostRoster :=
  (HostRoster.ofEntries f.hosts).mapError .roster

/-- The job that a reference means: `@name` is a job of the file, and anything else is a command,
under a name of its own. -/
def resolveJob (f : RosterFile) (reference fallback : String) :
    Except ConfigError (String × CommandTemplate) :=
  match reference.toList with
  | '@' :: rest =>
    let name := String.ofList rest
    match f.jobs.lookup name with
    | some template => .ok (name, template)
    | none => .error (.unknownJob name)
  | _ => .ok (fallback, { command := reference })

end RosterFile

end RemoteFleet
