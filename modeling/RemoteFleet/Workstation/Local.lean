import RemoteFleet.Workstation.Basic

/-!
# A workstation in memory

Files in a `FileStore`, a console and a log that keep everything, and a clock that stands still.
-/

namespace RemoteFleet

/-- The state of a workstation in memory. -/
structure LocalDesk where
  files : FileStore := .empty
  /-- What the console shows. -/
  console : RemoteOutput := {}
  log : List LogEvent := []
  clock : Moment := ⟨.epoch, 0⟩
  /-- How many runs were given an identifier. -/
  runs : Nat := 0

namespace LocalDesk

/-- Adds bytes to an open file. -/
def append (file : FileStore.OpenFile) (bytes : Bytes) (desk : LocalDesk) :
    Option FileError × LocalDesk :=
  match desk.files.append bytes file with
  | .ok files => (none, { desk with files })
  | .error e => (some e, desk)

/-- Creates a file. -/
def create (path : String) (desk : LocalDesk) : Except FileError FileStore.OpenFile × LocalDesk :=
  match desk.files.create path with
  | .ok (file, files) => (.ok file, { desk with files })
  | .error e => (.error e, desk)

/-- A fresh identifier, made from the clock and a count. -/
def newRunId (desk : LocalDesk) : Uuid × LocalDesk :=
  (.timed desk.clock.ms desk.runs, { desk with runs := desk.runs + 1 })

/-- The workstation. -/
def workstation : Workstation LocalDesk FileStore.OpenFile where
  create := create
  append := append
  sync file desk := (FileStore.sync file, desk)
  print chunk desk := (none, { desk with console := desk.console.add chunk })
  note event desk := { desk with log := desk.log ++ [event] }
  now := LocalDesk.clock
  newRunId := newRunId

end LocalDesk

end RemoteFleet
