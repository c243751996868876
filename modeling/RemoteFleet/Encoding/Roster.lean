import RemoteFleet.Json.Record
import RemoteFleet.Roster.Target
import RemoteFleet.Selection.Parser
import RemoteFleet.Selection.Printer
import RemoteFleet.Ssh.Client

/-!
# Rosters, selections and settings as JSON
-/

namespace RemoteFleet

def HostEntry.toJson (e : HostEntry) : Json :=
  .object ([("index", .ofNat e.index.toNat), ("address", .string e.address)]
    ++ Json.memberOf "user" .string e.user
    ++ Json.memberOf "key_file" .string e.keyFile
    ++ Json.memberOf "port" (fun p => .ofNat p.toNat) e.port)

def HostEntry.ofJson? (j : Json) : Option HostEntry := do
  let f ← j.fields? ["index", "address", "user", "key_file", "port"]
  let index ← f.required "index" Json.uint32?
  let address ← f.required "address" Json.string?
  let user ← f.withDefault "user" none (Json.nullable? Json.string?)
  let keyFile ← f.withDefault "key_file" none (Json.nullable? Json.string?)
  let port ← f.withDefault "port" none (Json.nullable? Json.uint16?)
  return { index, address, user, keyFile, port }

def Credentials.toJson (c : Credentials) : Json :=
  .object [("user", .string c.user), ("key_file", .ofOption .string c.keyFile),
    ("port", .ofNat c.port.toNat)]

def Credentials.ofJson? (j : Json) : Option Credentials := do
  let default : Credentials := {}
  let f ← j.fields? ["user", "key_file", "port"]
  let user ← f.withDefault "user" default.user Json.string?
  let keyFile ← f.withDefault "key_file" none (Json.nullable? Json.string?)
  let port ← f.withDefault "port" default.port Json.uint16?
  return { user, keyFile, port }

def RemoteTarget.toJson (t : RemoteTarget) : Json :=
  .object [("index", .ofNat t.index.toNat), ("address", .string t.address),
    ("user", .string t.user), ("key_file", .ofOption .string t.keyFile),
    ("port", .ofNat t.port.toNat)]

def RemoteTarget.ofJson? (j : Json) : Option RemoteTarget := do
  let f ← j.fields? ["index", "address", "user", "key_file", "port"]
  let index ← f.required "index" Json.uint32?
  let address ← f.required "address" Json.string?
  let user ← f.required "user" Json.string?
  let keyFile ← f.optional "key_file" Json.string?
  let port ← f.required "port" Json.uint16?
  return { index, address, user, keyFile, port }

def Selection.toJson (s : Selection) : Json := .string s.display

def Selection.ofJson? (j : Json) : Option Selection :=
  match j with
  | .string text => (Selection.parse text).toOption
  | _ => none

def SshOptions.ofJson? (j : Json) : Option SshOptions := do
  let default : SshOptions := {}
  let f ← j.fields? ["program", "connect_timeout_secs", "command_timeout_secs",
    "strict_host_key_checking", "server_alive_interval_secs", "control_dir", "extra_args"]
  let program ← f.withDefault "program" default.program Json.string?
  let connectTimeoutSecs ←
    f.withDefault "connect_timeout_secs" default.connectTimeoutSecs Json.uint64?
  let commandTimeoutSecs ← f.withDefault "command_timeout_secs" none (Json.nullable? Json.uint64?)
  let strictHostKeyChecking ←
    f.withDefault "strict_host_key_checking" default.strictHostKeyChecking Json.string?
  let serverAliveIntervalSecs ←
    f.withDefault "server_alive_interval_secs" default.serverAliveIntervalSecs Json.uint64?
  let controlDir ← f.withDefault "control_dir" none (Json.nullable? Json.string?)
  let extraArgs ← f.withDefault "extra_args" [] (Json.list? Json.string?)
  return { program, connectTimeoutSecs, commandTimeoutSecs, strictHostKeyChecking,
           serverAliveIntervalSecs, controlDir, extraArgs }

end RemoteFleet
