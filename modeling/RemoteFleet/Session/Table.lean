import RemoteFleet.Session.Basic

/-!
# Named sessions

Any number of sessions of one connector side by side, each under a name.  `SessionTable.step` takes
one step with one of them, so a list of steps is any order of calls on any number of sessions.
-/

namespace RemoteFleet

/-- A step with the session of a name. -/
inductive SessionStep where
  | connect (name : String) (target : RemoteTarget)
  | run (name command : String)
  | close (name : String)
  | drop (name : String)
  deriving DecidableEq

/-- What a step gives. -/
inductive SessionAnswer where
  | done
  | failed (error : SessionError)
  | died
  | ran (transcript : Transcript)
  | noSession

/-- The sessions that are held. -/
structure SessionTable (Net Session : Type) where
  net : Net
  sessions : List (String × Session) := []

namespace SessionTable

variable {Net Session : Type}

/-- The sessions of the other names. -/
def without (name : String) (sessions : List (String × Session)) : List (String × Session) :=
  sessions.filter (·.1 ≠ name)

/-- Holds a session under a name.  The one that had the name is let go. -/
def hold (c : Connector Net Session) (t : SessionTable Net Session) (name : String)
    (session : Session) : SessionTable Net Session where
  net :=
    match t.sessions.lookup name with
    | none => t.net
    | some old => c.drop old t.net
  sessions := (name, session) :: without name t.sessions

/-- Keeps the session of a name after a call on it. -/
def update (t : SessionTable Net Session) (name : String) (session : Session) (net : Net) :
    SessionTable Net Session :=
  ⟨net, t.sessions.map fun (n, s) => if n = name then (n, session) else (n, s)⟩

/-- Takes a step. -/
def step (c : Connector Net Session) (t : SessionTable Net Session) :
    SessionStep → SessionAnswer × SessionTable Net Session
  | .connect name target =>
    match c.connect target t.net with
    | (.opened session, net) => (.done, hold c { t with net } name session)
    | (.refused error, net) => (.failed error, { t with net })
    | (.died, net) => (.died, { t with net })
  | .run name command =>
    match t.sessions.lookup name with
    | none => (.noSession, t)
    | some session =>
      let (transcript, session, net) := c.run session command t.net
      (.ran transcript, t.update name session net)
  | .close name =>
    match t.sessions.lookup name with
    | none => (.noSession, t)
    | some session =>
      let (closing, session, net) := c.close session t.net
      (match closing.error with
        | none => .done
        | some error => .failed error, t.update name session net)
  | .drop name =>
    match t.sessions.lookup name with
    | none => (.done, t)
    | some session => (.done, ⟨c.drop session t.net, without name t.sessions⟩)

end SessionTable

end RemoteFleet
