import RemoteFleet.Execution.Stage

/-!
# An errand in one piece

`Errand.execute` takes the steps of an errand one after another.  Here it is said what they come to,
by what the connector answers when it is asked for a session and by whether the capture file can be
created: `execute_of_died`, `execute_of_refused`, `execute_of_uncaptured` and `execute_of_ran`.

Whoever opened a session goes on with `conclude`, which closes it, completes the capture file and
reports.
-/

namespace RemoteFleet.Errand

variable {Net Session Desk File : Type}

/-! ## Parts of an errand -/

section Parts

variable (c : Connector Net Session) (ws : Workstation Desk File) (e : Errand)

/-- The desk when the connector is asked for a session. -/
def begun (desk : Desk) : Desk :=
  ws.note (.runStarting e.phase e.target.index e.target.address e.job.name) desk

/-- Creates the capture file if the job has one, or says of which file that failed, and why. -/
def openFile (desk : Desk) : Except (String × FileError) (Option (Capture File)) × Desk :=
  match e.job.capture with
  | .off => (.ok none, desk)
  | .file path =>
    match Capture.create ws path desk with
    | (.ok capture, desk) => (.ok (some capture), desk)
    | (.error error, desk) => (.error (path, error), desk)

/-- Takes chunks one after another. -/
def hearChunks (chunks : List Chunk) (capture : Option (Capture File)) (desk : Desk) :
    Option (Capture File) × Desk :=
  chunks.foldl (fun (capture, desk) chunk => e.hear ws chunk capture desk) (capture, desk)

/-- Completes the capture file: its path if there is one, or why it is not complete. -/
def finishFile (capture : Option (Capture File)) (desk : Desk) :
    Except RunError (Option String) × Desk :=
  match capture with
  | none => (.ok none, desk)
  | some capture =>
    let (path, desk) := capture.finish ws desk
    (path.map some, desk)

/-- The result, and the desk when there is one. -/
def settled (start : Moment) (aftermath : Aftermath File) (desk : Desk) : RunResult × Desk :=
  match aftermath with
  | .uncaptured path error =>
    (e.failed start (ws.now desk) (.capture path error.message) none none, desk)
  | .ran capture ending =>
    let (path, desk) := finishFile ws capture desk
    (e.resultOf start (ws.now desk) path ending, desk)

/-- What closing a session leaves in the log. -/
def noted (closing : Closing) (desk : Desk) : Desk :=
  (closing.notes ++ closing.error.toList.map (LogEvent.closeFailed e.target.address)).foldl
    (fun desk note => ws.note note desk) desk

/-- Closes the session, settles what is left, and reports. -/
def conclude (start : Moment) (session : Session) (aftermath : Aftermath File)
    (w : World Net Desk) : Option RunResult × World Net Desk :=
  let (closing, session, net) := c.close session w.net
  let (result, desk) := e.settled ws start aftermath (e.noted ws closing w.desk)
  (some result, ⟨c.drop session net, ws.note (noteOf result) desk⟩)

end Parts

/-! ## The whole of it -/

variable {c : Connector Net Session} {ws : Workstation Desk File} {e : Errand}

theorem hearChunks_cons (chunk : Chunk) (chunks : List Chunk) (capture : Option (Capture File))
    (desk : Desk) :
    e.hearChunks ws (chunk :: chunks) capture desk = e.hearChunks ws chunks
      (e.hear ws chunk capture desk).1 (e.hear ws chunk capture desk).2 :=
  rfl

theorem openCapture_eq (start : Moment) (session : Session) (w : World Net Desk) :
    e.openCapture ws start session w =
      match e.openFile ws w.desk with
      | (.ok capture, desk) => (.ready start session capture, { w with desk })
      | (.error (path, error), desk) =>
        (.closing start session (.uncaptured path error), { w with desk }) := by
  unfold openCapture openFile
  cases e.job.capture with
  | off => rfl
  | file path =>
    dsimp only
    rcases Capture.create ws path w.desk with ⟨_ | _, _⟩ <;> rfl

theorem settle_eq (start : Moment) (aftermath : Aftermath File) (w : World Net Desk) :
    (e.settle ws start aftermath w : Stage Session File × World Net Desk) =
      report ws (e.settled ws start aftermath w.desk).1
        { w with desk := (e.settled ws start aftermath w.desk).2 } := by
  match aftermath with
  | .uncaptured path error => rfl
  | .ran none ending => rfl
  | .ran (some capture) ending => rfl

variable {w : World Net Desk} {net : Net} {session : Session} {desk : Desk}

theorem execute_of_died (hconnect : c.connect e.target w.net = (.died, net)) :
    e.execute c ws w = (none, ⟨net, e.begun ws w.desk⟩) := by
  simp only [execute, Stage.complete, Stage.advance, begin, connect, hconnect, Stage.hearAll,
    Stage.result?]
  rfl

theorem execute_of_refused {error : SessionError}
    (hconnect : c.connect e.target w.net = (.refused error, net)) :
    e.execute c ws w =
      let result := e.failed (ws.now w.desk) (ws.now (e.begun ws w.desk)) (e.connectionError error)
        none none
      (some result, ⟨net, ws.note (noteOf result) (e.begun ws w.desk)⟩) := by
  simp only [execute, Stage.complete, Stage.advance, begin, connect, hconnect, report,
    Stage.hearAll, Stage.result?]
  rfl

/-- The session is closed if the capture file cannot be created. -/
theorem execute_of_uncaptured {path : String} {error : FileError}
    (hconnect : c.connect e.target w.net = (.opened session, net))
    (hopen : e.openFile ws (e.begun ws w.desk) = (.error (path, error), desk)) :
    e.execute c ws w =
      e.conclude c ws (ws.now w.desk) session (.uncaptured path error) ⟨net, desk⟩ := by
  rw [begun] at hopen
  simp only [execute, Stage.complete, Stage.advance, begin, connect, hconnect, openCapture_eq,
    hopen, close, Stage.hearAll, settle_eq, report, Stage.result?]
  rfl

/-- Otherwise the command is run, and the session is closed when its output is taken. -/
theorem execute_of_ran {capture : Option (Capture File)}
    (hconnect : c.connect e.target w.net = (.opened session, net))
    (hopen : e.openFile ws (e.begun ws w.desk) = (.ok capture, desk)) :
    e.execute c ws w =
      let (transcript, session, net) := c.run session e.command net
      let (capture, desk) := e.hearChunks ws transcript.chunks capture desk
      e.conclude c ws (ws.now w.desk) session (.ran capture transcript.ending) ⟨net, desk⟩ := by
  rw [begun] at hopen
  simp only [execute, Stage.complete, Stage.advance, begin, connect, hconnect, openCapture_eq,
    hopen, run, Stage.hearAll, close, settle_eq, report, Stage.result?]
  rfl

end RemoteFleet.Errand
