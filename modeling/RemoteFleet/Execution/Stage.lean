import RemoteFleet.Execution.Capture
import RemoteFleet.Template.Basic

/-!
# One job on one host

An `Errand` is a job for one host.  It goes through stages: connect, create the capture file, run
the command, take its output chunk by chunk, close the session, complete the capture file.
`Stage.advance` takes one step, so that the errands of many hosts can take turns; `Errand.execute`
takes all steps of one.

A session that was opened is closed on every path, before there is a result.
-/

namespace RemoteFleet

/-- A job for one host. -/
structure Errand where
  phase : Phase
  target : RemoteTarget
  job : CommandJob
  /-- Whether the output is copied to the console. -/
  echo : Bool
  deriving DecidableEq

/-- What is left to settle when the session is closed. -/
inductive Aftermath (File : Type) where
  /-- The capture file could not be created, and nothing was run. -/
  | uncaptured (path : String) (error : FileError)
  /-- The command is over. -/
  | ran (capture : Option (Capture File)) (ending : Except SessionError CommandOutcome)

/-- How far an errand has come. -/
inductive Stage (Session File : Type) where
  | waiting
  | connecting (start : Moment)
  | connected (start : Moment) (session : Session)
  | ready (start : Moment) (session : Session) (capture : Option (Capture File))
  /-- The command runs, and the transcript holds what is still to come. -/
  | listening (start : Moment) (session : Session) (capture : Option (Capture File))
      (transcript : Transcript)
  | closing (start : Moment) (session : Session) (aftermath : Aftermath File)
  | settling (start : Moment) (aftermath : Aftermath File)
  | done (result : RunResult)
  /-- The errand ended without a result. -/
  | dead

namespace Errand

variable {Net Session Desk File : Type}

/-- The shell line for the host. -/
def command (e : Errand) : String := e.job.template.render e.target

/-! ## Results -/

/-- What a session's failure is to the run. -/
def connectionError (e : Errand) (error : SessionError) : RunError :=
  .connection e.target.address (match error with
    | .connect _ reason => reason
    | .transport _ reason _ => reason
    | other => other.message)

/-- The result of an errand that failed. -/
def failed (e : Errand) (start stop : Moment) (error : RunError) (output : Option RemoteOutput)
    (capturePath : Option String) : RunResult where
  phase := e.phase
  index := e.target.index
  address := e.target.address
  job := e.job.name
  status := .failed
  exitCode := match error with
    | .remoteExecution _ code _ => some code
    | _ => none
  error := some error
  capturePath
  startedAt := start.time
  durationMs := start.until stop
  output

/-- The result of an errand that succeeded. -/
def succeeded (e : Errand) (start stop : Moment) (output : RemoteOutput)
    (capturePath : Option String) : RunResult where
  phase := e.phase
  index := e.target.index
  address := e.target.address
  job := e.job.name
  status := .succeeded
  exitCode := some 0
  capturePath
  startedAt := start.time
  durationMs := start.until stop
  output := some output

/-- How many lines of output an error carries. -/
def tailLines : Nat := 20

/-- The result when the command is over and the capture file is complete or not. -/
def resultOf (e : Errand) (start stop : Moment) (capture : Except RunError (Option String)) :
    Except SessionError CommandOutcome → RunResult
  | .error error =>
    e.failed start stop (e.connectionError error) error.output? (capture.toOption.bind id)
  | .ok outcome =>
    match capture with
    | .error error => e.failed start stop error (some outcome.output) none
    | .ok path =>
      if outcome.success then e.succeeded start stop outcome.output path
      else
        let error : RunError := .remoteExecution e.target.address outcome.exitCode
          (outcome.output.tail tailLines)
        e.failed start stop error (some outcome.output) path

/-- What the log says about a result. -/
def noteOf (r : RunResult) : LogEvent :=
  match r.error with
  | some error => .runFailed r.phase r.index r.address error
  | none => .runSucceeded r.phase r.index r.address

/-- Ends the errand with a result. -/
def report (ws : Workstation Desk File) (result : RunResult) (w : World Net Desk) :
    Stage Session File × World Net Desk :=
  (.done result, { w with desk := ws.note (noteOf result) w.desk })

/-! ## Steps -/

section Steps

variable (c : Connector Net Session) (ws : Workstation Desk File) (e : Errand)

def begin (w : World Net Desk) : Stage Session File × World Net Desk :=
  (.connecting (ws.now w.desk), { w with
    desk := ws.note (.runStarting e.phase e.target.index e.target.address e.job.name) w.desk })

def connect (start : Moment) (w : World Net Desk) : Stage Session File × World Net Desk :=
  match c.connect e.target w.net with
  | (.opened session, net) => (.connected start session, { w with net })
  | (.died, net) => (.dead, { w with net })
  | (.refused error, net) =>
    report ws (e.failed start (ws.now w.desk) (e.connectionError error) none none) { w with net }

/-- Creates the capture file of the job, if there is one. -/
def openCapture (start : Moment) (session : Session) (w : World Net Desk) :
    Stage Session File × World Net Desk :=
  match e.job.capture with
  | .off => (.ready start session none, w)
  | .file path =>
    match Capture.create ws path w.desk with
    | (.ok capture, desk) => (.ready start session (some capture), { w with desk })
    | (.error error, desk) => (.closing start session (.uncaptured path error), { w with desk })

def run (start : Moment) (session : Session) (capture : Option (Capture File))
    (w : World Net Desk) : Stage Session File × World Net Desk :=
  let (transcript, session, net) := c.run session e.command w.net
  (.listening start session capture transcript, { w with net })

/-- Takes a chunk: to the console first, which may fail, then into the capture file. -/
def hear (chunk : Chunk) (capture : Option (Capture File)) (desk : Desk) :
    Option (Capture File) × Desk :=
  let desk := if e.echo then (ws.print chunk desk).2 else desk
  match capture with
  | none => (none, desk)
  | some capture =>
    let (capture, desk) := capture.take ws chunk desk
    (some capture, desk)

/-- Takes the next chunk, or learns that there is none. -/
def listen (start : Moment) (session : Session) (capture : Option (Capture File))
    (transcript : Transcript) (w : World Net Desk) : Stage Session File × World Net Desk :=
  match transcript.chunks with
  | [] => (.closing start session (.ran capture transcript.ending), w)
  | chunk :: chunks =>
    let (capture, desk) := e.hear ws chunk capture w.desk
    (.listening start session capture { transcript with delayMs := 0, chunks }, { w with desk })

/-- Closes the session and lets it go.  Failing to close changes nothing but the log. -/
def close (start : Moment) (session : Session) (aftermath : Aftermath File)
    (w : World Net Desk) : Stage Session File × World Net Desk :=
  let (closing, session, net) := c.close session w.net
  let notes := closing.notes ++ closing.error.toList.map (.closeFailed e.target.address)
  (.settling start aftermath,
    ⟨c.drop session net, notes.foldl (fun desk note => ws.note note desk) w.desk⟩)

/-- Completes the capture file and reports. -/
def settle (start : Moment) (aftermath : Aftermath File) (w : World Net Desk) :
    Stage Session File × World Net Desk :=
  match aftermath with
  | .uncaptured path error =>
    report ws (e.failed start (ws.now w.desk) (.capture path error.message) none none) w
  | .ran none ending => report ws (e.resultOf start (ws.now w.desk) (.ok none) ending) w
  | .ran (some capture) ending =>
    let (path, desk) := capture.finish ws w.desk
    report ws (e.resultOf start (ws.now desk) (path.map some) ending) { w with desk }

end Steps

end Errand

namespace Stage

variable {Net Session Desk File : Type}

/-- Takes a step.  Nothing follows a result or a death. -/
def advance (c : Connector Net Session) (ws : Workstation Desk File) (e : Errand) :
    Stage Session File → World Net Desk → Stage Session File × World Net Desk
  | .waiting, w => e.begin ws w
  | .connecting start, w => e.connect c ws start w
  | .connected start session, w => e.openCapture ws start session w
  | .ready start session capture, w => e.run c start session capture w
  | .listening start session capture transcript, w => e.listen ws start session capture transcript w
  | .closing start session aftermath, w => e.close c ws start session aftermath w
  | .settling start aftermath, w => e.settle ws start aftermath w
  | .done result, w => (.done result, w)
  | .dead, w => (.dead, w)

/-- Takes all chunks that are still to come. -/
def hearAll (ws : Workstation Desk File) (e : Errand) :
    Stage Session File → World Net Desk → Stage Session File × World Net Desk
  | .listening start session capture transcript, w =>
    let (capture, desk) := transcript.chunks.foldl
      (fun (capture, desk) chunk => e.hear ws chunk capture desk) (capture, w.desk)
    (.closing start session (.ran capture transcript.ending), { w with desk })
  | stage, w => (stage, w)

/-- The session that is held. -/
def session? : Stage Session File → Option Session
  | .connected _ session | .ready _ session _ | .listening _ session _ _ | .closing _ session _ =>
    some session
  | _ => none

/-- The result, when there is one. -/
def result? : Stage Session File → Option RunResult
  | .done result => some result
  | _ => none

/-- Whether nothing follows. -/
def isOver : Stage Session File → Bool
  | .done _ => true
  | .dead => true
  | _ => false

/-- How long the host is silent before anything more comes. -/
def silence : Stage Session File → Nat
  | .listening _ _ _ transcript => transcript.delayMs
  | _ => 0

/-- The chunks that are still to come. -/
def pending : Stage Session File → List Chunk
  | .listening _ _ _ transcript => transcript.chunks
  | _ => []

/-- Takes all steps that are left: four to the command, its chunks, and two to the result. -/
def complete (c : Connector Net Session) (ws : Workstation Desk File) (e : Errand)
    (stage : Stage Session File) (w : World Net Desk) : Stage Session File × World Net Desk :=
  let step (p : Stage Session File × World Net Desk) := p.1.advance c ws e p.2
  let listening := step (step (step (step (stage, w))))
  step (step (listening.1.hearAll ws e listening.2))

end Stage

/-- Takes an errand from its beginning to its end.  There is no result if the attempt to connect
dies. -/
def Errand.execute {Net Session Desk File : Type} (c : Connector Net Session)
    (ws : Workstation Desk File) (e : Errand) (w : World Net Desk) :
    Option RunResult × World Net Desk :=
  let (stage, w) := Stage.complete c ws e .waiting w
  (stage.result?, w)

end RemoteFleet
