import RemoteFleet.Session.Basic

/-!
# Reading two pipes

The output of a process comes through two pipes, and what is read may come from either.  A pipe
ends with an empty read; reading goes on until both have ended.
-/

namespace RemoteFleet

/-- What was read so far. -/
structure Pump where
  stdoutOpen : Bool := true
  stderrOpen : Bool := true
  /-- What was passed on, in the order in which it was read. -/
  chunks : List Chunk := []
  output : RemoteOutput := {}
  deriving DecidableEq

namespace Pump

def isOpen (p : Pump) : OutputStream → Bool
  | .stdout => p.stdoutOpen
  | .stderr => p.stderrOpen

def shut (p : Pump) : OutputStream → Pump
  | .stdout => { p with stdoutOpen := false }
  | .stderr => { p with stderrOpen := false }

/-- Takes a read.  A pipe that has ended is not read any more. -/
def take (p : Pump) (read : Chunk) : Pump :=
  if p.isOpen read.stream then
    if read.bytes = [] then p.shut read.stream
    else { p with chunks := p.chunks ++ [read], output := p.output.add read }
  else p

/-- Whether both pipes have ended. -/
def isDone (p : Pump) : Bool := !p.stdoutOpen && !p.stderrOpen

/-- Takes reads until both pipes have ended. -/
def takeAll (p : Pump) : List Chunk → Pump
  | [] => p
  | read :: reads => if p.isDone then p else (p.take read).takeAll reads

/-- What comes through the pipes. -/
def ofReads (reads : List Chunk) : Pump := ({} : Pump).takeAll reads

end Pump

end RemoteFleet
