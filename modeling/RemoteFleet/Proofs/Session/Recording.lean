import RemoteFleet.Execution.Stage

/-!
# Recorded calls

`Connector.recorded` is a connector that keeps a record of the calls that it gets, and otherwise
does what the connector does that it is made of.  Its sessions know the target that they were opened
for, so the record says in whose session a command was run.

* `Stage.advance_plain`: an errand takes the same steps over it.
* `Stage.record_advance`: what a step adds to the record is read off the stage before it.
-/

namespace RemoteFleet

/-- A call of a connector. -/
inductive SessionCall where
  | connect (target : RemoteTarget)
  /-- A command, in a session of the target. -/
  | run (target : RemoteTarget) (command : String)
  | close (target : RemoteTarget)
  deriving DecidableEq

/-- The target and the command, if a command is run. -/
def SessionCall.command? : SessionCall → Option (RemoteTarget × String)
  | .run target command => some (target, command)
  | _ => none

def Attempt.map {Session Session' : Type} (f : Session → Session') :
    Attempt Session → Attempt Session'
  | .opened session => .opened (f session)
  | .refused error => .refused error
  | .died => .died

/-- The connector with a record of its calls. -/
def Connector.recorded {Net Session : Type} (c : Connector Net Session) :
    Connector (Net × List SessionCall) (RemoteTarget × Session) where
  connect target net :=
    let (attempt, hosts) := c.connect target net.1
    (attempt.map (target, ·), hosts, net.2 ++ [.connect target])
  run session command net :=
    let (transcript, session', hosts) := c.run session.2 command net.1
    (transcript, (session.1, session'), hosts, net.2 ++ [.run session.1 command])
  close session net :=
    let (closing, session', hosts) := c.close session.2 net.1
    (closing, (session.1, session'), hosts, net.2 ++ [.close session.1])
  drop session net := (c.drop session.2 net.1, net.2)
  target session := c.target session.2

variable {Net Session Desk File : Type}

theorem Connector.connect_recorded (c : Connector Net Session) (target : RemoteTarget)
    (net : Net × List SessionCall) :
    c.recorded.connect target net = ((c.connect target net.1).1.map (target, ·),
      (c.connect target net.1).2, net.2 ++ [.connect target]) :=
  rfl

/-- The world without the record. -/
def World.plain (w : World (Net × List SessionCall) Desk) : World Net Desk := ⟨w.net.1, w.desk⟩

namespace Stage

/-- The stage without the target of its session. -/
def plain : Stage (RemoteTarget × Session) File → Stage Session File
  | .waiting => .waiting
  | .connecting start => .connecting start
  | .connected start session => .connected start session.2
  | .ready start session capture => .ready start session.2 capture
  | .listening start session capture transcript => .listening start session.2 capture transcript
  | .closing start session aftermath => .closing start session.2 aftermath
  | .settling start aftermath => .settling start aftermath
  | .done result => .done result
  | .dead => .dead

/-- The call that the next step makes. -/
def call? (e : Errand) : Stage Session File → Option SessionCall
  | .connecting _ => some (.connect e.target)
  | .ready _ _ _ => some (.run e.target e.command)
  | .closing _ _ _ => some (.close e.target)
  | _ => none

/-- Whether the session is one of the target, if there is a session. -/
def IsFor (target : RemoteTarget) (stage : Stage (RemoteTarget × Session) File) : Prop :=
  ∀ session, stage.session? = some session → session.1 = target

variable {c : Connector Net Session} {ws : Workstation Desk File} {e : Errand}

@[simp] theorem call?_plain (stage : Stage (RemoteTarget × Session) File) :
    stage.plain.call? e = stage.call? e := by
  cases stage <;> rfl

@[simp] theorem isOver_plain (stage : Stage (RemoteTarget × Session) File) :
    stage.plain.isOver = stage.isOver := by
  cases stage <;> rfl

@[simp] theorem result?_plain (stage : Stage (RemoteTarget × Session) File) :
    stage.plain.result? = stage.result? := by
  cases stage <;> rfl

@[simp] theorem session?_plain (stage : Stage (RemoteTarget × Session) File) :
    stage.plain.session? = stage.session?.map (·.2) := by
  cases stage <;> rfl

/-- Over the recorded connector an errand takes the same steps. -/
theorem advance_plain (c : Connector Net Session) (ws : Workstation Desk File) (e : Errand)
    (stage : Stage (RemoteTarget × Session) File) (w : World (Net × List SessionCall) Desk) :
    stage.plain.advance c ws e w.plain =
      ((stage.advance c.recorded ws e w).1.plain, (stage.advance c.recorded ws e w).2.plain) := by
  cases stage with
  | connecting start =>
    simp only [plain, advance, Errand.connect, World.plain, Connector.connect_recorded]
    rcases c.connect e.target w.net.1 with ⟨_ | _ | _, hosts⟩ <;> rfl
  | connected start session =>
    simp only [plain, advance, Errand.openCapture, World.plain]
    cases e.job.capture with
    | off => rfl
    | file path =>
      dsimp only
      rcases Capture.create ws path w.desk with ⟨_ | _, desk⟩ <;> rfl
  | listening start session capture transcript =>
    simp only [plain, advance, Errand.listen, World.plain]
    cases transcript.chunks <;> rfl
  | settling start aftermath =>
    simp only [plain, advance, Errand.settle, World.plain]
    rcases aftermath with _ | ⟨_ | _, _⟩ <;> rfl
  | _ => rfl

/-- The call of a step is added to the record.  The session stays one of its target. -/
theorem record_advance {stage stage' : Stage (RemoteTarget × Session) File}
    {w w' : World (Net × List SessionCall) Desk} (hfor : stage.IsFor e.target)
    (h : stage.advance c.recorded ws e w = (stage', w')) :
    w'.net.2 = w.net.2 ++ (stage.call? e).toList ∧ stage'.IsFor e.target := by
  cases stage with
  | waiting =>
    cases h
    exact ⟨(List.append_nil _).symm, nofun⟩
  | connecting start =>
    simp only [advance, Errand.connect, Connector.connect_recorded] at h
    rcases hattempt : c.connect e.target w.net.1 with ⟨_ | _ | _, hosts⟩ <;> rw [hattempt] at h <;>
      cases h
    · refine ⟨rfl, fun session hsession => ?_⟩
      cases hsession
      rfl
    · exact ⟨rfl, nofun⟩
    · exact ⟨rfl, nofun⟩
  | connected start session =>
    simp only [advance, Errand.openCapture] at h
    split at h
    · cases h
      exact ⟨(List.append_nil _).symm, hfor⟩
    · split at h <;> cases h <;> exact ⟨(List.append_nil _).symm, hfor⟩
  | ready start session capture =>
    have hsession : session.1 = e.target := hfor session rfl
    cases h
    refine ⟨?_, fun session' hsession' => ?_⟩
    · rw [call?, ← hsession]
      rfl
    · cases hsession'
      exact hsession
  | listening start session capture transcript =>
    simp only [advance, Errand.listen] at h
    split at h <;> cases h <;> exact ⟨(List.append_nil _).symm, hfor⟩
  | closing start session aftermath =>
    have hsession : session.1 = e.target := hfor session rfl
    cases h
    refine ⟨?_, nofun⟩
    rw [call?, ← hsession]
    rfl
  | settling start aftermath =>
    simp only [advance, Errand.settle] at h
    split at h <;> cases h <;> exact ⟨(List.append_nil _).symm, nofun⟩
  | done result =>
    cases h
    exact ⟨(List.append_nil _).symm, nofun⟩
  | dead =>
    cases h
    exact ⟨(List.append_nil _).symm, nofun⟩

end Stage

end RemoteFleet
