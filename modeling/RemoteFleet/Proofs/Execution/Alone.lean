import RemoteFleet.Proofs.Execution.CaptureFile

/-!
# An errand on its own

What comes of an errand, but for times, depends on what the script has for its host and on the files
that it captures to, and on nothing else: not on other hosts, not on who has connected before, not
on the clock, the console or the log.

`Stage.Alike` relates two errands that have come equally far, each under a script and in a world of
its own.  A step of each leaves them alike if the scripts agree at the host (`Alike.advance`); as
soon as they are over, their results are the same but for times (`alone_eq`).

An errand without a capture file leaves the files alone altogether (`files_advance`), so others may
run beside it.
-/

namespace RemoteFleet

variable {Desk File View : Type}

/-- A result without its times. -/
def RunResult.untimed (r : RunResult) : RunResult := { r with startedAt := .epoch, durationMs := 0 }

/-- Whether two scripts have the same for a host, but for how long it is silent. -/
def MockScript.AgreesAt (m m' : MockScript) (address : String) : Prop :=
  m'.behaviorOf address = m.behaviorOf address ∧
    ∀ command, m'.behaviorFor address command = m.behaviorFor address command

theorem MockScript.AgreesAt.refl (m : MockScript) (address : String) : m.AgreesAt m address :=
  ⟨rfl, fun _ => rfl⟩

/-! ## Files -/

/-- The files of a workstation are apart from its console and its log: what happens to them depends
on `files` only, and nothing else changes those. -/
structure Workstation.FilesStandApart (ws : Workstation Desk File) (files : Desk → View) :
    Prop where
  create : ∀ path desk desk', files desk' = files desk →
    (ws.create path desk').1 = (ws.create path desk).1 ∧
      files (ws.create path desk').2 = files (ws.create path desk).2
  append : ∀ file bytes desk desk', files desk' = files desk →
    (ws.append file bytes desk').1 = (ws.append file bytes desk).1 ∧
      files (ws.append file bytes desk').2 = files (ws.append file bytes desk).2
  sync : ∀ file desk desk', files desk' = files desk →
    (ws.sync file desk').1 = (ws.sync file desk).1 ∧
      files (ws.sync file desk').2 = files (ws.sync file desk).2
  print : ∀ chunk desk, files (ws.print chunk desk).2 = files desk
  note : ∀ event desk, files (ws.note event desk) = files desk

/-- So are those of a workstation in memory. -/
theorem LocalDesk.filesStandApart : workstation.FilesStandApart LocalDesk.files where
  create path desk desk' h := by
    simp only [workstation, create, h]
    split
    · exact ⟨rfl, rfl⟩
    · exact ⟨rfl, h⟩
  append file bytes desk desk' h := by
    simp only [workstation, append, h]
    split
    · exact ⟨rfl, rfl⟩
    · exact ⟨rfl, h⟩
  sync file desk desk' h := ⟨rfl, h⟩
  print chunk desk := rfl
  note event desk := rfl

namespace Capture

variable {ws : Workstation Desk File} {files : Desk → View} {desk desk' : Desk}

theorem alike_create (hfiles : ws.FilesStandApart files) (path : String)
    (h : files desk' = files desk) :
    (create ws path desk').1 = (create ws path desk).1 ∧
      files (create ws path desk').2 = files (create ws path desk).2 := by
  obtain ⟨hanswer, hdesk⟩ := hfiles.create path desk desk' h
  exact ⟨congrArg (Except.map _) hanswer, hdesk⟩

theorem alike_take (hfiles : ws.FilesStandApart files) (capture : Capture File) (chunk : Chunk)
    (h : files desk' = files desk) :
    (capture.take ws chunk desk').1 = (capture.take ws chunk desk).1 ∧
      files (capture.take ws chunk desk').2 = files (capture.take ws chunk desk).2 := by
  obtain ⟨stream, bytes⟩ := chunk
  cases stream with
  | stderr => exact ⟨rfl, h⟩
  | stdout =>
    cases hfailure : capture.failure with
    | some e => simpa only [take, hfailure, true_and] using h
    | none =>
      obtain ⟨hanswer, hdesk⟩ := hfiles.append capture.file bytes desk desk' h
      rcases hwrite : ws.append capture.file bytes desk with ⟨answer, after⟩
      rcases hwrite' : ws.append capture.file bytes desk' with ⟨answer', after'⟩
      rw [hwrite, hwrite'] at hanswer hdesk
      obtain rfl : answer' = answer := hanswer
      simp only [take, hfailure, hwrite, hwrite']
      cases answer' with
      | none => exact ⟨rfl, hdesk⟩
      | some e => exact ⟨rfl, by rw [hfiles.note, hfiles.note]; exact hdesk⟩

theorem alike_release (hfiles : ws.FilesStandApart files) (capture : Capture File)
    (h : files desk' = files desk) :
    (capture.release ws desk').1 = (capture.release ws desk).1 ∧
      files (capture.release ws desk').2 = files (capture.release ws desk).2 := by
  unfold release
  split
  · exact ⟨rfl, h⟩
  · split
    · exact ⟨rfl, h⟩
    · exact hfiles.append capture.file capture.held desk desk' h

theorem alike_finish (hfiles : ws.FilesStandApart files) (capture : Capture File)
    (h : files desk' = files desk) :
    (capture.finish ws desk').1 = (capture.finish ws desk).1 ∧
      files (capture.finish ws desk').2 = files (capture.finish ws desk).2 := by
  obtain ⟨hanswer, hdesk⟩ := capture.alike_release hfiles h
  rcases hrelease : capture.release ws desk with ⟨answer, between⟩
  rcases hrelease' : capture.release ws desk' with ⟨answer', between'⟩
  rw [hrelease, hrelease'] at hanswer hdesk
  obtain rfl : answer' = answer := hanswer
  simp only [finish, hrelease, hrelease']
  cases answer' with
  | some e => exact ⟨rfl, hdesk⟩
  | none =>
    obtain ⟨hsynced, hlast⟩ := hfiles.sync capture.file between between' hdesk
    rcases hsync : ws.sync capture.file between with ⟨answer, after⟩
    rcases hsync' : ws.sync capture.file between' with ⟨answer', after'⟩
    rw [hsync, hsync'] at hsynced hlast
    obtain rfl : answer' = answer := hsynced
    simp only [hsync, hsync']
    cases answer' <;> exact ⟨rfl, hlast⟩

end Capture

/-! ## Two errands that have come equally far -/

/-- Two errands have come equally far, each at times of its own. -/
inductive Stage.Alike (e : Errand) : Stage MockSession File → Stage MockSession File → Prop
  | waiting : Alike e .waiting .waiting
  | connecting (start start' : Moment) : Alike e (.connecting start) (.connecting start')
  | connected (start start' : Moment) (session : MockSession)
      (htarget : session.target = e.target) :
      Alike e (.connected start session) (.connected start' session)
  | ready (start start' : Moment) (session : MockSession) (capture : Option (Capture File))
      (htarget : session.target = e.target) (hcapture : e.job.capture = .off → capture = none) :
      Alike e (.ready start session capture) (.ready start' session capture)
  | listening (start start' : Moment) (session : MockSession) (capture : Option (Capture File))
      (transcript transcript' : Transcript) (hcapture : e.job.capture = .off → capture = none)
      (hchunks : transcript'.chunks = transcript.chunks)
      (hending : transcript'.ending = transcript.ending) :
      Alike e (.listening start session capture transcript)
        (.listening start' session capture transcript')
  | closing (start start' : Moment) (session : MockSession) (aftermath : Aftermath File)
      (hcapture : e.job.capture = .off → aftermath.capture? = none) :
      Alike e (.closing start session aftermath) (.closing start' session aftermath)
  | settling (start start' : Moment) (aftermath : Aftermath File)
      (hcapture : e.job.capture = .off → aftermath.capture? = none) :
      Alike e (.settling start aftermath) (.settling start' aftermath)
  | done (result result' : RunResult) (hresult : result'.untimed = result.untimed) :
      Alike e (.done result) (.done result')
  | dead : Alike e .dead .dead

/-- As far as an errand deals with files, two desks have the same. -/
def Errand.SameFiles (e : Errand) (files : Desk → View) (desk desk' : Desk) : Prop :=
  e.job.capture ≠ .off → files desk' = files desk

namespace Errand

variable {ws : Workstation Desk File} {files : Desk → View} {e : Errand} {desk desk' : Desk}

theorem SameFiles.note (hfiles : ws.FilesStandApart files) (h : e.SameFiles files desk desk')
    (event event' : LogEvent) :
    e.SameFiles files (ws.note event desk) (ws.note event' desk') := by
  intro hcaptures
  rw [hfiles.note, hfiles.note]
  exact h hcaptures

/-- What is said about a result is said behind the files' back. -/
theorem alike_report (hfiles : ws.FilesStandApart files) {w w' : World MockRecord Desk}
    (h : e.SameFiles files w.desk w'.desk) {result result' : RunResult}
    (hresult : result'.untimed = result.untimed) :
    Stage.Alike e (report ws result w : Stage MockSession File × World MockRecord Desk).1
        (report ws result' w' : Stage MockSession File × World MockRecord Desk).1 ∧
      e.SameFiles files
        (report ws result w : Stage MockSession File × World MockRecord Desk).2.desk
        (report ws result' w' : Stage MockSession File × World MockRecord Desk).2.desk :=
  ⟨.done result result' hresult, h.note hfiles _ _⟩

theorem untimed_resultOf (start start' stop stop' : Moment)
    (capture : Except RunError (Option String)) (ending : Except SessionError CommandOutcome) :
    (e.resultOf start' stop' capture ending).untimed
      = (e.resultOf start stop capture ending).untimed := by
  cases ending with
  | error error => rfl
  | ok outcome =>
    cases capture with
    | error error => rfl
    | ok path =>
      simp only [resultOf]
      split <;> rfl

theorem alike_hear (hfiles : ws.FilesStandApart files) (h : e.SameFiles files desk desk')
    (chunk : Chunk) (capture : Option (Capture File))
    (hcapture : e.job.capture = .off → capture = none) :
    (e.hear ws chunk capture desk').1 = (e.hear ws chunk capture desk).1 ∧
      (e.job.capture = .off → (e.hear ws chunk capture desk).1 = none) ∧
      e.SameFiles files (e.hear ws chunk capture desk).2 (e.hear ws chunk capture desk').2 := by
  have hprinted : e.SameFiles files (if e.echo then (ws.print chunk desk).2 else desk)
      (if e.echo then (ws.print chunk desk').2 else desk') := by
    intro hcaptures
    cases e.echo with
    | false => exact h hcaptures
    | true =>
      simp only [if_true, hfiles.print]
      exact h hcaptures
  cases capture with
  | none => exact ⟨rfl, fun _ => rfl, hprinted⟩
  | some capture =>
    have hcaptures : e.job.capture ≠ .off := fun hoff => by cases hcapture hoff
    obtain ⟨htaken, hdesk⟩ := capture.alike_take hfiles chunk (hprinted hcaptures)
    exact ⟨congrArg some htaken, fun hoff => absurd hoff hcaptures, fun _ => hdesk⟩

end Errand

namespace Stage

variable {ws : Workstation Desk File} {files : Desk → View} {e : Errand} {m m' : MockScript}
  {stage stage' : Stage MockSession File} {w w' : World MockRecord Desk}

theorem alike_connect (hfiles : ws.FilesStandApart files) (hagree : m.AgreesAt m' e.target.address)
    (h : e.SameFiles files w.desk w'.desk) (start start' : Moment) :
    Alike e (e.connect m.connector ws start w).1
        (e.connect m'.connector ws start' w' : Stage MockSession File × World MockRecord Desk).1 ∧
      e.SameFiles files
        (e.connect m.connector ws start w : Stage MockSession File × World MockRecord Desk).2.desk
        (e.connect m'.connector ws start' w' :
          Stage MockSession File × World MockRecord Desk).2.desk := by
  simp only [Errand.connect, MockScript.connector, MockScript.connect, hagree.1]
  cases m.behaviorOf e.target.address with
  | refuse reason => exact Errand.alike_report hfiles h rfl
  | timeout => exact Errand.alike_report hfiles h rfl
  | _ => exact ⟨.connected start start' _ rfl, h⟩

theorem alike_openCapture (hfiles : ws.FilesStandApart files)
    (h : e.SameFiles files w.desk w'.desk) (start start' : Moment) {session : MockSession}
    (htarget : session.target = e.target) :
    Alike e (e.openCapture ws start session w).1 (e.openCapture ws start' session w').1 ∧
      e.SameFiles files (e.openCapture ws start session w).2.desk
        (e.openCapture ws start' session w').2.desk := by
  unfold Errand.openCapture
  cases hjob : e.job.capture with
  | off => exact ⟨.ready start start' session none htarget (fun _ => rfl), h⟩
  | file path =>
    have hcaptures : e.job.capture ≠ .off := by simp [hjob]
    obtain ⟨hcreated, hdesk⟩ := Capture.alike_create hfiles path (h hcaptures)
    rcases hcreate : Capture.create ws path w.desk with ⟨answer, desk⟩
    rcases hcreate' : Capture.create ws path w'.desk with ⟨answer', desk'⟩
    rw [hcreate, hcreate'] at hcreated hdesk
    obtain rfl : answer' = answer := hcreated
    cases answer' with
    | ok capture =>
      simp only [hcreate, hcreate']
      exact ⟨.ready start start' session _ htarget (fun hoff => absurd hoff hcaptures),
        fun _ => hdesk⟩
    | error error =>
      simp only [hcreate, hcreate']
      exact ⟨.closing start start' session _ (fun _ => rfl), fun _ => hdesk⟩

theorem alike_run (hagree : m.AgreesAt m' e.target.address)
    (h : e.SameFiles files w.desk w'.desk) (start start' : Moment) {session : MockSession}
    (htarget : session.target = e.target) {capture : Option (Capture File)}
    (hcapture : e.job.capture = .off → capture = none) :
    Alike e (e.run m.connector start session capture w).1
        (e.run m'.connector start' session capture w').1 ∧
      e.SameFiles files (e.run m.connector start session capture w).2.desk
        (e.run m'.connector start' session capture w').2.desk := by
  refine ⟨?_, h⟩
  simp only [Errand.run, MockScript.connector, MockScript.run, htarget, hagree.2]
  cases session.closed with
  | true => exact .listening start start' session capture _ _ hcapture rfl rfl
  | false =>
    refine .listening start start' session capture _ _ hcapture ?_ ?_
    all_goals cases m.behaviorFor e.target.address e.command <;> rfl

theorem alike_listen (hfiles : ws.FilesStandApart files)
    (h : e.SameFiles files w.desk w'.desk) (start start' : Moment) (session : MockSession)
    {capture : Option (Capture File)} (hcapture : e.job.capture = .off → capture = none)
    {transcript transcript' : Transcript} (hchunks : transcript'.chunks = transcript.chunks)
    (hending : transcript'.ending = transcript.ending) :
    Alike e (e.listen ws start session capture transcript w).1
        (e.listen ws start' session capture transcript' w').1 ∧
      e.SameFiles files (e.listen ws start session capture transcript w).2.desk
        (e.listen ws start' session capture transcript' w').2.desk := by
  unfold Errand.listen
  rw [hchunks]
  cases transcript.chunks with
  | nil =>
    simp only [hending]
    exact ⟨.closing start start' session _ hcapture, h⟩
  | cons chunk chunks =>
    obtain ⟨hheard, hnone, hdesk⟩ := Errand.alike_hear hfiles h chunk capture hcapture
    simp only [hheard]
    exact ⟨.listening start start' session _ _ _ hnone rfl hending, hdesk⟩

theorem alike_settle (hfiles : ws.FilesStandApart files)
    (h : e.SameFiles files w.desk w'.desk) (start start' : Moment) {aftermath : Aftermath File}
    (hcapture : e.job.capture = .off → aftermath.capture? = none) :
    Alike e (e.settle ws start aftermath w).1
        (e.settle ws start' aftermath w' : Stage MockSession File × World MockRecord Desk).1 ∧
      e.SameFiles files
        (e.settle ws start aftermath w : Stage MockSession File × World MockRecord Desk).2.desk
        (e.settle ws start' aftermath w' : Stage MockSession File × World MockRecord Desk).2.desk
    := by
  cases aftermath with
  | uncaptured path error => exact Errand.alike_report hfiles h rfl
  | ran capture ending =>
    cases capture with
    | none => exact Errand.alike_report hfiles h (Errand.untimed_resultOf _ _ _ _ _ _)
    | some capture =>
      have hcaptures : e.job.capture ≠ .off := fun hoff => by cases hcapture hoff
      obtain ⟨hfinished, hdesk⟩ := capture.alike_finish hfiles (h hcaptures)
      rcases hfinish : capture.finish ws w.desk with ⟨answer, desk⟩
      rcases hfinish' : capture.finish ws w'.desk with ⟨answer', desk'⟩
      rw [hfinish, hfinish'] at hfinished hdesk
      obtain rfl : answer' = answer := hfinished
      simp only [Errand.settle, hfinish, hfinish']
      exact Errand.alike_report hfiles (fun _ => hdesk) (Errand.untimed_resultOf _ _ _ _ _ _)

/-- A step of each leaves two errands equally far. -/
theorem Alike.advance (hfiles : ws.FilesStandApart files) (hagree : m.AgreesAt m' e.target.address)
    (h : Alike e stage stage') (hdesks : e.SameFiles files w.desk w'.desk) :
    Alike e (stage.advance m.connector ws e w).1 (stage'.advance m'.connector ws e w').1 ∧
      e.SameFiles files (stage.advance m.connector ws e w).2.desk
        (stage'.advance m'.connector ws e w').2.desk := by
  cases h with
  | waiting => exact ⟨.connecting _ _, hdesks.note hfiles _ _⟩
  | connecting start start' => exact alike_connect hfiles hagree hdesks start start'
  | connected start start' session htarget =>
    exact alike_openCapture hfiles hdesks start start' htarget
  | ready start start' session capture htarget hcapture =>
    exact alike_run hagree hdesks start start' htarget hcapture
  | listening start start' session capture transcript transcript' hcapture hchunks hending =>
    exact alike_listen hfiles hdesks start start' session hcapture hchunks hending
  | closing start start' session aftermath hcapture =>
    refine ⟨.settling start start' aftermath hcapture, ?_⟩
    simp only [Stage.advance, Errand.close, MockScript.connector, MockScript.close]
    cases session.closed <;> exact hdesks
  | settling start start' aftermath hcapture =>
    exact alike_settle hfiles hdesks start start' hcapture
  | done result result' hresult => exact ⟨.done result result' hresult, hdesks⟩
  | dead => exact ⟨.dead, hdesks⟩

theorem Alike.after (hfiles : ws.FilesStandApart files) (hagree : m.AgreesAt m' e.target.address)
    (h : Alike e stage stage') (hdesks : e.SameFiles files w.desk w'.desk) (n : Nat) :
    Alike e (after m.connector ws e n (stage, w)).1 (after m'.connector ws e n (stage', w')).1 ∧
      e.SameFiles files (after m.connector ws e n (stage, w)).2.desk
        (after m'.connector ws e n (stage', w')).2.desk := by
  induction n with
  | zero => exact ⟨h, hdesks⟩
  | succ n ih => exact ih.1.advance hfiles hagree ih.2

theorem Alike.isOver_eq (h : Alike e stage stage') : stage'.isOver = stage.isOver := by
  cases h <;> rfl

/-- Errands that are alike have a capture file only if their job has one. -/
theorem Alike.capture?_eq_none (h : Alike e stage stage') (hoff : e.job.capture = .off) :
    stage.capture? = none := by
  cases h with
  | ready start start' session capture htarget hcapture => exact hcapture hoff
  | listening start start' session capture transcript transcript' hcapture hchunks hending =>
    exact hcapture hoff
  | closing start start' session aftermath hcapture => exact hcapture hoff
  | settling start start' aftermath hcapture => exact hcapture hoff
  | _ => rfl

/-! ## Errands that leave the files alone -/

theorem files_foldl_note (hfiles : ws.FilesStandApart files) (notes : List LogEvent) (desk : Desk) :
    files (notes.foldl (fun desk note => ws.note note desk) desk) = files desk := by
  induction notes generalizing desk with
  | nil => rfl
  | cons note notes ih => exact (ih _).trans (hfiles.note note desk)

/-- Without a capture file, an errand leaves the files as they are. -/
theorem files_advance {Net Session : Type} {c : Connector Net Session} {stage : Stage Session File}
    {w : World Net Desk} (hfiles : ws.FilesStandApart files) (hoff : e.job.capture = .off)
    (hnone : stage.capture? = none) : files (stage.advance c ws e w).2.desk = files w.desk := by
  cases stage with
  | waiting => exact hfiles.note _ _
  | connecting start =>
    simp only [Stage.advance, Errand.connect]
    split
    · rfl
    · rfl
    · exact hfiles.note _ _
  | connected start session => simp only [Stage.advance, Errand.openCapture, hoff]
  | ready start session capture => rfl
  | listening start session capture transcript =>
    obtain rfl : capture = none := hnone
    simp only [Stage.advance, Errand.listen]
    split
    · rfl
    · simp only [Errand.hear]
      split
      · exact hfiles.print _ _
      · rfl
  | closing start session aftermath => exact files_foldl_note hfiles _ _
  | settling start aftermath =>
    cases aftermath with
    | uncaptured path error => exact hfiles.note _ _
    | ran capture ending =>
      obtain rfl : capture = none := hnone
      exact hfiles.note _ _
  | done result => rfl
  | dead => rfl

/-! ## The end of an errand -/

section End

variable {Net Session : Type} {c : Connector Net Session}

/-- Nothing happens after the end. -/
theorem after_of_isOver {p : Stage Session File × World Net Desk} (h : p.1.isOver = true)
    (n : Nat) : after c ws e n p = p := by
  induction n with
  | zero => rfl
  | succ n ih =>
    obtain ⟨stage, w⟩ := p
    rw [Stage.after, ih]
    cases stage with
    | done result => rfl
    | dead => rfl
    | _ => cases h

/-- An errand that is over after some steps is where it is after any that bring it to its end. -/
theorem after_eq_of_isOver {p : Stage Session File × World Net Desk} {j n : Nat}
    (hj : (after c ws e j p).1.isOver = true) (hn : (after c ws e n p).1.isOver = true) :
    after c ws e j p = after c ws e n p := by
  rcases Nat.le_total j n with hle | hle
  · obtain ⟨k, rfl⟩ := Nat.exists_eq_add_of_le hle
    rw [after_add, after_of_isOver hj]
  · obtain ⟨k, rfl⟩ := Nat.exists_eq_add_of_le hle
    rw [after_add, after_of_isOver hn]

/-- Whether all chunks are taken two steps before the end. -/
def isLate : Stage Session File → Bool
  | .listening _ _ _ _ | .settling _ _ | .done _ | .dead => true
  | _ => false

theorem isOver_settle (start : Moment) (aftermath : Aftermath File) (w : World Net Desk) :
    (e.settle ws start aftermath w : Stage Session File × World Net Desk).1.isOver = true := by
  unfold Errand.settle
  split <;> rfl

theorem isLate_of_connected (start : Moment) (session : Session) (w : World Net Desk) :
    (after c ws e 2 (.connected start session, w)).1.isLate = true := by
  have hopen : after c ws e 1 (.connected start session, w)
      = e.openCapture ws start session w := rfl
  rw [after_add 1 1, hopen, Errand.openCapture]
  split
  · rfl
  · split <;> rfl

theorem isLate_of_connecting (start : Moment) (w : World Net Desk) :
    (after c ws e 3 (.connecting start, w)).1.isLate = true := by
  have hconnect : after c ws e 1 (.connecting start, w) = e.connect c ws start w := rfl
  rw [after_add 1 2, hconnect, Errand.connect]
  split
  · exact isLate_of_connected start _ _
  · rfl
  · rfl

/-- When all chunks are taken, the end is two steps away. -/
theorem isOver_of_isLate {stage : Stage Session File} (h : stage.isLate = true)
    (w : World Net Desk) : (after c ws e 2 (stage.hearAll ws e w)).1.isOver = true := by
  cases stage with
  | listening start session capture transcript => exact isOver_settle start _ _
  | settling start aftermath =>
    have hover : (e.settle ws start aftermath w : Stage Session File × World Net Desk).1.isOver
        = true := isOver_settle start aftermath w
    rw [after_add 1 1]
    exact (after_of_isOver hover 1).symm ▸ hover
  | done result => rfl
  | dead => rfl
  | _ => cases h

variable (c ws e) in
/-- An errand that is taken to its end is over. -/
theorem isOver_complete (w : World Net Desk) :
    (Stage.complete c ws e (.waiting : Stage Session File) w).1.isOver = true :=
  isOver_of_isLate (isLate_of_connecting _ _) _

/-- What an errand gives is what it has when it is over, after however many steps. -/
theorem execute_eq_of_isOver {j : Nat} {w : World Net Desk}
    (hover : (after c ws e j ((.waiting : Stage Session File), w)).1.isOver = true) :
    (e.execute c ws w).1 = (after c ws e j ((.waiting : Stage Session File), w)).1.result? := by
  obtain ⟨n, hn⟩ := exists_after_eq_complete c ws e (.waiting : Stage Session File) w
  rw [Errand.execute, ← hn, after_eq_of_isOver hover (hn ▸ isOver_complete ws e c w)]

end End

/-- Errands that are alike give the same, but for times. -/
theorem Alike.untimed_result? (h : Alike e stage stage') :
    stage'.result?.map (·.untimed) = stage.result?.map (·.untimed) := by
  cases h with
  | done result result' hresult => exact congrArg some hresult
  | _ => rfl

end Stage

/-! ## What an errand gives -/

/-- What comes of an errand that is taken alone, but for times. -/
def Errand.alone {Net Session : Type} (c : Connector Net Session) (ws : Workstation Desk File)
    (e : Errand) (w : World Net Desk) : Option RunResult :=
  (e.execute c ws w).1.map (·.untimed)

section Scripted

variable {ws : Workstation Desk File} {files : Desk → View} {e : Errand} {m m' : MockScript}
  {w w' : World MockRecord Desk}

/-- An errand that is over like one that is taken alone gives what that one gives. -/
theorem Errand.alone_eq_of_alike {j : Nat} {stage : Stage MockSession File}
    (h : Stage.Alike e stage (Stage.after m.connector ws e j (.waiting, w)).1)
    (hover : stage.isOver = true) :
    e.alone m.connector ws w = stage.result?.map (·.untimed) := by
  rw [alone, Stage.execute_eq_of_isOver (h.isOver_eq.trans hover), h.untimed_result?]

/-- An errand gives the same under scripts that agree at its host, in worlds that have the same
files, if it needs any. -/
theorem Errand.alone_eq (hfiles : ws.FilesStandApart files)
    (hagree : m.AgreesAt m' e.target.address) (hdesks : e.SameFiles files w.desk w'.desk) :
    e.alone m'.connector ws w' = e.alone m.connector ws w := by
  obtain ⟨n, hn⟩ := Stage.exists_after_eq_complete m.connector ws e .waiting w
  have hover := Stage.isOver_complete ws e m.connector w
  rw [← hn] at hover
  have halike := (Stage.Alike.waiting.after hfiles hagree hdesks n).1
  rw [Errand.alone_eq_of_alike halike hover, alone, Stage.execute_eq_of_isOver hover]

end Scripted

end RemoteFleet
