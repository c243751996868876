import RemoteFleet.Workstation.Basic

/-!
# Capture files

A capture file takes the output of a command while it runs: standard output as it arrives, standard
error after the command is over.  So it always holds a beginning of the one followed by the other.
The first write that fails is remembered, and nothing is written after it.
-/

namespace RemoteFleet

/-- A capture file that is being written. -/
structure Capture (File : Type) where
  path : String
  file : File
  /-- Standard error, until the command is over. -/
  held : Bytes := []
  /-- The first write that failed. -/
  failure : Option FileError := none
  deriving DecidableEq

namespace Capture

variable {Desk File : Type}

/-- Creates a capture file. -/
def create (ws : Workstation Desk File) (path : String) (desk : Desk) :
    Except FileError (Capture File) × Desk :=
  let (file, desk) := ws.create path desk
  (file.map fun file => { path, file }, desk)

/-- Takes a chunk. -/
def take (ws : Workstation Desk File) (chunk : Chunk) (c : Capture File) (desk : Desk) :
    Capture File × Desk :=
  match chunk.stream, c.failure with
  | .stderr, _ => ({ c with held := c.held ++ chunk.bytes }, desk)
  | .stdout, some _ => (c, desk)
  | .stdout, none =>
    match ws.append c.file chunk.bytes desk with
    | (none, desk) => (c, desk)
    | (some e, desk) =>
      ({ c with failure := some e }, ws.note (.captureFailed c.path e) desk)

/-- Writes what was held back, unless a write failed before. -/
def release (ws : Workstation Desk File) (c : Capture File) (desk : Desk) :
    Option FileError × Desk :=
  match c.failure with
  | some e => (some e, desk)
  | none => if c.held = [] then (none, desk) else ws.append c.file c.held desk

/-- Completes the file: its path, or why it is not complete. -/
def finish (ws : Workstation Desk File) (c : Capture File) (desk : Desk) :
    Except RunError String × Desk :=
  match c.release ws desk with
  | (some e, desk) => (.error (.capture c.path e.message), desk)
  | (none, desk) =>
    match ws.sync c.file desk with
    | (some e, desk) => (.error (.capture c.path e.message), desk)
    | (none, desk) => (.ok c.path, desk)

end Capture

end RemoteFleet
