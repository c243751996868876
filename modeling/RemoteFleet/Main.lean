import RemoteFleet.Log.Event
import RemoteFleet.Program
import RemoteFleet.Ssh.Connector
import RemoteFleet.Ssh.Scripted
import RemoteFleet.Workstation.Local

/-!
# The command

Reads the command line and the roster file, lets the program work in memory, and writes its console
and its log.  It calls no client: every connection is refused because the client cannot be found.
-/

namespace RemoteFleet

/-- Why a file could not be read. -/
def readFault : IO.Error → FileError
  | .noFileOrDirectory .. => .notFound
  | .permissionDenied .. => .permissionDenied
  | e => .other e.toString

/-- What can be read: the roster file, if one is named. -/
def readerOf (options : RunOptions) : IO TextReader := do
  match options.roster with
  | none => return fun _ => .error .notFound
  | some path =>
    try
      let bytes ← IO.FS.readBinFile path
      return fun _ => match Text.decode? bytes.toList with
        | some text => .ok text
        | none => .error .notUtf8
    catch e => return fun _ => .error (readFault e)

end RemoteFleet

open RemoteFleet

def main (arguments : List String) : IO UInt32 := do
  let stdout ← IO.getStdout
  let stderr ← IO.getStderr
  match CommandLine.parse arguments with
  | .error usage =>
    (if usage.isRequest then stdout else stderr).putStrLn usage.message
    return usage.exitCode.toUInt32
  | .ok request =>
    let read ← readerOf request.options
    let program : Program (SshProcess ScriptedNet) (SshSession String) LocalDesk
        FileStore.OpenFile :=
      ⟨Ssh.connector ScriptedNet.sshClient, LocalDesk.workstation, fun _ => read⟩
    let first : World (SshProcess ScriptedNet) LocalDesk :=
      ⟨⟨{ files := .empty, client := none }, 0⟩, {}⟩
    let (exit, world) := program.perform request {} first
    for event in world.desk.log do
      stderr.putStrLn (if request.jsonLogs then event.toJson.compact else event.line)
    stdout.write ⟨world.desk.console.stdout.toArray⟩
    stderr.write ⟨world.desk.console.stderr.toArray⟩
    return exit.toUInt32
