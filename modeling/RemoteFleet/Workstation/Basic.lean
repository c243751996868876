import RemoteFleet.Report.Uuid
import RemoteFleet.Session.Basic
import RemoteFleet.Time.Timestamp

/-!
# The workstation

The machine that a fleet is run from: its files, its console, its log and its clock.  `Desk` is its
state and `File` a file that is open for writing.
-/

namespace RemoteFleet

/-- A point in time, and a count of milliseconds that never goes back. -/
structure Moment where
  time : Timestamp
  ms : Nat
  deriving DecidableEq

/-- The milliseconds from one moment to another. -/
def Moment.until (start stop : Moment) : UInt64 := (stop.ms - start.ms).toUInt64

/-- What a run needs of the machine that it is started on. -/
structure Workstation (Desk File : Type) where
  /-- Creates a file, or empties it if it is there. -/
  create : String → Desk → Except FileError File × Desk
  /-- Adds bytes at the end of a file. -/
  append : File → Bytes → Desk → Option FileError × Desk
  /-- Waits until a file is on disk. -/
  sync : File → Desk → Option FileError × Desk
  /-- Writes to the console. -/
  print : Chunk → Desk → Option FileError × Desk
  note : LogEvent → Desk → Desk
  now : Desk → Moment
  newRunId : Desk → Uuid × Desk

/-- The hosts, and the machine that they are run from. -/
structure World (Net Desk : Type) where
  net : Net
  desk : Desk
  deriving DecidableEq

end RemoteFleet
