import RemoteFleet.Session.Basic

/-!
# Faults

A connector whose sessions fail in ways that its hosts do not: before a session is open, in the
middle of a command, and when it is closed.  A host may have one fault of each kind.
-/

namespace RemoteFleet

/-- How an attempt to connect fails, before the host hears of it. -/
inductive ConnectFault where
  | dies
  | refused (error : SessionError)
  deriving DecidableEq

/-- What a command does in place of what it did.  It runs unheard. -/
inductive RunFault where
  | fails (error : SessionError)
  /-- These chunks arrive, and then the command ends with a code. -/
  | exits (chunks : List Chunk) (code : Int32)
  /-- These chunks arrive, and then the connection is lost. -/
  | loses (chunks : List Chunk) (reason : String)
  deriving DecidableEq

/-- How the sessions to one host fail. -/
structure HostFaults where
  connect : Option ConnectFault := none
  run : Option RunFault := none
  /-- What is given when a session was closed. -/
  close : Option SessionError := none
  deriving DecidableEq

/-- A transcript in the place of another one, which takes as long. -/
def RunFault.disguise (address : String) (transcript : Transcript) : RunFault → Transcript
  | .fails error => { transcript with chunks := [], ending := .error error }
  | .exits chunks code => { transcript with chunks, ending := .ok ⟨code, .ofChunks chunks⟩ }
  | .loses chunks reason =>
    { transcript with chunks, ending := .error (.transport address reason (.ofChunks chunks)) }

variable {Net Session : Type}

/-- The connector with faults, by address. -/
def Connector.withFaults (c : Connector Net Session) (faults : List (String × HostFaults)) :
    Connector Net Session :=
  let of (target : RemoteTarget) : HostFaults := (faults.lookup target.address).getD {}
  { connect target net :=
      match (of target).connect with
      | some .dies => (.died, net)
      | some (.refused error) => (.refused error, net)
      | none => c.connect target net
    run session command net :=
      let (transcript, rest) := c.run session command net
      let target := c.target session
      (match (of target).run with
        | some fault => fault.disguise target.address transcript
        | none => transcript, rest)
    close session net :=
      let (closing, rest) := c.close session net
      ({ closing with error := (of (c.target session)).close.or closing.error }, rest)
    drop := c.drop
    target := c.target }

end RemoteFleet
