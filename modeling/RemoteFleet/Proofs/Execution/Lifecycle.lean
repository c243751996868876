import RemoteFleet.Proofs.Execution.Alone
import RemoteFleet.Proofs.Execution.Outcome
import RemoteFleet.Proofs.Session.Recording

/-!
# The life of a session

An errand calls its connector three times at most, and `Errand.calls` is the list of these calls:
it asks for a session, runs the command in it, and closes it.  If no session is opened, nothing
follows; if the capture file cannot be created, nothing is run, but the session is closed all the
same (`calls_of_not_opened`, `calls_of_uncaptured`, `calls_of_ran`).

The calls depend on nothing else, so neither the echo nor what becomes of the closing can change
them.  They do not change the result or the files either (`alike_execute`): that is what the files
standing apart from the console and the log is for.
-/

namespace RemoteFleet

variable {Net Session Desk File View : Type}

namespace Stage

variable {c : Connector Net Session} {ws : Workstation Desk File} {e : Errand}

/-! ## Over the recorded connector -/

variable (c ws e) in
/-- Forgetting the record commutes with any number of steps. -/
theorem after_plain (n : Nat) (p : Stage (RemoteTarget × Session) File ×
    World (Net × List SessionCall) Desk) :
    after c ws e n (p.1.plain, p.2.plain) =
      ((after c.recorded ws e n p).1.plain, (after c.recorded ws e n p).2.plain) := by
  induction n with
  | zero => rfl
  | succ n ih => rw [after, ih, after, advance_plain]

variable (c ws e) in
/-- Each step adds its call to the record. -/
theorem record_after (n : Nat) (w : World (Net × List SessionCall) Desk) :
    (after c.recorded ws e (n + 1) (.waiting, w)).2.net.2 =
        (after c.recorded ws e n (.waiting, w)).2.net.2 ++
          ((after c.recorded ws e n (.waiting, w)).1.call? e).toList ∧
      (after c.recorded ws e n (.waiting, w)).1.IsFor e.target := by
  have hnext : ∀ k, (after c.recorded ws e k (.waiting, w)).1.advance c.recorded ws e
      (after c.recorded ws e k (.waiting, w)).2 =
        ((after c.recorded ws e (k + 1) (.waiting, w)).1,
          (after c.recorded ws e (k + 1) (.waiting, w)).2) := fun _ => rfl
  induction n with
  | zero =>
    have hfor : (Stage.waiting : Stage (RemoteTarget × Session) File).IsFor e.target := nofun
    exact ⟨(record_advance hfor (hnext 0)).1, hfor⟩
  | succ n ih =>
    have hfor := (record_advance ih.2 (hnext n)).2
    exact ⟨(record_advance hfor (hnext (n + 1))).1, hfor⟩

/-- An errand that is over is where it is taken to. -/
theorem after_eq_complete {n : Nat} {w : World Net Desk}
    (hover : (after c ws e n (.waiting, w)).1.isOver = true) :
    after c ws e n (.waiting, w) = complete c ws e .waiting w := by
  obtain ⟨m, hm⟩ := exists_after_eq_complete c ws e .waiting w
  have hend := isOver_complete ws e c w
  rw [← hm] at hend ⊢
  exact after_eq_of_isOver hover hend

/-- An errand is ready when its capture file was just created, if its job has one. -/
theorem exists_create_of_advance_eq_ready {stage : Stage Session File} {w w' : World Net Desk}
    {start : Moment} {session : Session} {capture : Option (Capture File)} {path : String}
    (h : stage.advance c ws e w = (.ready start session capture, w'))
    (hpath : e.job.capture = .file path) :
    ∃ file desk, ws.create path desk = (.ok file, w'.desk) := by
  cases stage with
  | connected start session =>
    simp only [advance, Errand.openCapture, hpath] at h
    rcases hcreate : ws.create path w.desk with ⟨_ | file, desk⟩ <;>
      rw [Capture.create, hcreate] at h <;> cases h
    exact ⟨file, w.desk, hcreate⟩
  | connecting start =>
    simp only [advance, Errand.connect] at h
    split at h <;> cases h
  | listening start session capture transcript =>
    simp only [advance, Errand.listen] at h
    split at h <;> cases h
  | settling start aftermath =>
    simp only [advance, Errand.settle] at h
    split at h <;> cases h
  | _ => cases h

/-- When the command is about to be run, the capture file was just created. -/
theorem exists_create_of_call {n : Nat} {w : World Net Desk} {target : RemoteTarget}
    {command path : String}
    (hcall : (after c ws e n (.waiting, w)).1.call? e = some (.run target command))
    (hpath : e.job.capture = .file path) :
    ∃ file desk, ws.create path desk = (.ok file, (after c ws e n (.waiting, w)).2.desk) := by
  rcases hafter : after c ws e n (.waiting, w) with ⟨stage, w'⟩
  rw [hafter] at hcall
  cases stage with
  | ready start session capture =>
    cases n with
    | zero => cases hafter
    | succ n => exact exists_create_of_advance_eq_ready hafter hpath
  | _ => cases hcall

end Stage

namespace Errand

/-! ## The calls -/

/-- The calls that an errand makes, from its beginning to its end. -/
def calls (c : Connector Net Session) (ws : Workstation Desk File) (e : Errand)
    (w : World Net Desk) : List SessionCall :=
  (e.execute c.recorded ws ⟨(w.net, []), w.desk⟩).2.net.2

variable {c : Connector Net Session} {ws : Workstation Desk File} {e : Errand}
  {w : World Net Desk}

variable (c ws e) in
/-- Keeping a record changes nothing. -/
theorem execute_plain (w : World (Net × List SessionCall) Desk) :
    e.execute c ws w.plain =
      ((e.execute c.recorded ws w).1, (e.execute c.recorded ws w).2.plain) := by
  obtain ⟨n, hn⟩ := Stage.exists_after_eq_complete c.recorded ws e .waiting w
  have hover := Stage.isOver_complete ws e c.recorded w
  have hplain := Stage.after_plain c ws e n (.waiting, w)
  rw [← hn] at hover
  have hend : (Stage.after c ws e n (.waiting, w.plain)).1.isOver = true := by
    rw [show (Stage.waiting : Stage Session File) = Stage.plain .waiting from rfl, hplain,
      Stage.isOver_plain]
    exact hover
  rw [execute, execute, ← Stage.after_eq_complete hend, ← hn]
  refine Prod.ext ?_ (congrArg (·.2) hplain)
  have hresult := congrArg (·.1.result?) hplain
  rw [Stage.result?_plain] at hresult
  exact hresult

/-- The file cannot be opened if it cannot be created. -/
theorem openFile_eq_error_iff {desk : Desk} {path : String} {error : FileError} :
    (e.openFile ws desk).1 = .error (path, error) ↔
      e.job.capture = .file path ∧ (ws.create path desk).1 = .error error := by
  unfold openFile
  cases e.job.capture with
  | off => simp
  | file path' =>
    dsimp only
    rw [CapturePolicy.file.injEq]
    rcases hcreate : ws.create path' desk with ⟨error' | file, desk'⟩ <;>
      rw [Capture.create, hcreate]
    · simp only [Except.map, Except.error.injEq, Prod.mk.injEq]
      refine and_congr_right ?_
      rintro rfl
      rw [hcreate, Except.error.injEq]
    · simp only [Except.map, reduceCtorEq, false_iff, not_and]
      rintro rfl
      simp [hcreate]

/-- Only a connector that opens a session is called again. -/
theorem calls_of_not_opened
    (hconnect : ∀ session, (c.connect e.target w.net).1 ≠ .opened session) :
    e.calls c ws w = [.connect e.target] := by
  rcases hattempt : c.connect e.target w.net with ⟨session | error | _, net⟩
  · exact absurd (congrArg (·.1) hattempt) (hconnect session)
  · rw [calls, execute_of_refused (by rw [Connector.connect_recorded, hattempt]; rfl)]
    rfl
  · rw [calls, execute_of_died (by rw [Connector.connect_recorded, hattempt]; rfl)]
    rfl

theorem connect_recorded_of_opened {session : Session}
    (hconnect : (c.connect e.target w.net).1 = .opened session) :
    c.recorded.connect e.target (w.net, []) =
      (.opened (e.target, session), (c.connect e.target w.net).2, [.connect e.target]) := by
  rw [Connector.connect_recorded, hconnect]
  rfl

theorem calls_of_uncaptured {session : Session} {failure : String × FileError}
    (hconnect : (c.connect e.target w.net).1 = .opened session)
    (hopen : (e.openFile ws (e.begun ws w.desk)).1 = .error failure) :
    e.calls c ws w = [.connect e.target, .close e.target] := by
  rw [calls, execute_of_uncaptured (w := ⟨(w.net, []), w.desk⟩)
    (connect_recorded_of_opened hconnect) (Prod.ext hopen rfl)]
  rfl

theorem calls_of_ran {session : Session} {capture : Option (Capture File)}
    (hconnect : (c.connect e.target w.net).1 = .opened session)
    (hopen : (e.openFile ws (e.begun ws w.desk)).1 = .ok capture) :
    e.calls c ws w = [.connect e.target, .run e.target e.command, .close e.target] := by
  rw [calls, execute_of_ran (w := ⟨(w.net, []), w.desk⟩)
    (connect_recorded_of_opened hconnect) (Prod.ext hopen rfl)]
  rfl

/-- All calls are made when there is a result. -/
theorem record_of_after_eq_done {n : Nat} {result : RunResult}
    {w' : World (Net × List SessionCall) Desk}
    (hafter : Stage.after c.recorded ws e n (.waiting, ⟨(w.net, []), w.desk⟩)
      = (.done result, w')) :
    (e.execute c ws w).1 = some result ∧ w'.net.2 = e.calls c ws w := by
  have hend : Stage.complete c.recorded ws e .waiting ⟨(w.net, []), w.desk⟩
      = (.done result, w') := by
    rw [← Stage.after_eq_complete (n := n) (by rw [hafter]; rfl), hafter]
  have hexecute : e.execute c.recorded ws ⟨(w.net, []), w.desk⟩ = (some result, w') := by
    rw [execute, hend]
    rfl
  have hplain := execute_plain c ws e ⟨(w.net, []), w.desk⟩
  rw [hexecute] at hplain
  exact ⟨congrArg (·.1) hplain, by rw [calls, hexecute]⟩

/-- There is no result only if the attempt to connect dies. -/
theorem execute_eq_none_iff :
    (e.execute c ws w).1 = none ↔ (c.connect e.target w.net).1 = .died := by
  rcases hattempt : c.connect e.target w.net with ⟨session | error | _, net⟩
  · rcases hopen : e.openFile ws (e.begun ws w.desk) with ⟨failure | capture, desk⟩
    · rw [execute_of_uncaptured hattempt hopen]
      simp [conclude]
    · rw [execute_of_ran hattempt hopen]
      simp [conclude]
  · rw [execute_of_refused hattempt]
    simp
  · rw [execute_of_died hattempt]
    simp

end Errand

/-! ## Echo and closing -/

/-- What is seen of a desk tells the time as well. -/
def Workstation.TellsTime (ws : Workstation Desk File) (files : Desk → View) : Prop :=
  ∀ desk desk', files desk' = files desk → ws.now desk' = ws.now desk

/-- Printing and logging leave the clock of a workstation in memory alone as well. -/
theorem LocalDesk.filesStandApart_clock :
    workstation.FilesStandApart fun desk => (desk.files, desk.clock) where
  create path desk desk' h := by
    obtain ⟨hfiles, hclock⟩ := Prod.mk.inj h
    simp only [workstation, create, hfiles]
    split
    · exact ⟨rfl, by rw [hclock]⟩
    · exact ⟨rfl, h⟩
  append file bytes desk desk' h := by
    obtain ⟨hfiles, hclock⟩ := Prod.mk.inj h
    simp only [workstation, append, hfiles]
    split
    · exact ⟨rfl, by rw [hclock]⟩
    · exact ⟨rfl, h⟩
  sync file desk desk' h := ⟨rfl, h⟩
  print chunk desk := rfl
  note event desk := rfl

/-- Two errands give the same but for times, and the same if the files tell them. -/
def Workstation.GivesSame (ws : Workstation Desk File) (files : Desk → View)
    (r r' : Option RunResult) : Prop :=
  r'.map (·.untimed) = r.map (·.untimed) ∧ (ws.TellsTime files → r' = r)

namespace Errand

variable {c : Connector Net Session} {ws : Workstation Desk File} {files : Desk → View}
  {e : Errand} {desk desk' : Desk}

theorem givesSame_failed (h : files desk' = files desk) (start : Moment) (error : RunError)
    (output : Option RemoteOutput) (capturePath : Option String) :
    ws.GivesSame files (some (e.failed start (ws.now desk) error output capturePath))
      (some (e.failed start (ws.now desk') error output capturePath)) :=
  ⟨rfl, fun htime => by rw [htime desk desk' h]⟩

theorem givesSame_resultOf (h : files desk' = files desk) (start : Moment)
    (capture : Except RunError (Option String)) (ending : Except SessionError CommandOutcome) :
    ws.GivesSame files (some (e.resultOf start (ws.now desk) capture ending))
      (some (e.resultOf start (ws.now desk') capture ending)) :=
  ⟨congrArg some (untimed_resultOf _ _ _ _ _ _), fun htime => by rw [htime desk desk' h]⟩

/-- A chunk makes the same of a capture whether it is echoed or not. -/
theorem hear_alike (hfiles : ws.FilesStandApart files) (e e' : Errand) (chunk : Chunk)
    (capture : Option (Capture File)) (h : files desk' = files desk) :
    (e'.hear ws chunk capture desk').1 = (e.hear ws chunk capture desk).1 ∧
      files (e'.hear ws chunk capture desk').2 = files (e.hear ws chunk capture desk).2 := by
  have hprinted (e : Errand) (desk : Desk) :
      files (if e.echo then (ws.print chunk desk).2 else desk) = files desk := by
    split
    · exact hfiles.print chunk desk
    · rfl
  have hechoed := (hprinted e' desk').trans (h.trans (hprinted e desk).symm)
  cases capture with
  | none => exact ⟨rfl, hechoed⟩
  | some capture =>
    obtain ⟨htaken, hdesk⟩ := capture.alike_take hfiles chunk hechoed
    exact ⟨congrArg some htaken, hdesk⟩

theorem hearChunks_alike (hfiles : ws.FilesStandApart files) (e e' : Errand) (chunks : List Chunk)
    (capture : Option (Capture File)) (h : files desk' = files desk) :
    (e'.hearChunks ws chunks capture desk').1 = (e.hearChunks ws chunks capture desk).1 ∧
      files (e'.hearChunks ws chunks capture desk').2
        = files (e.hearChunks ws chunks capture desk).2 := by
  induction chunks generalizing capture desk desk' with
  | nil => exact ⟨rfl, h⟩
  | cons chunk chunks ih =>
    obtain ⟨hheard, hdesk⟩ := hear_alike hfiles e e' chunk capture h
    rw [hearChunks_cons, hearChunks_cons, hheard]
    exact ih _ hdesk

theorem finishFile_alike (hfiles : ws.FilesStandApart files) (capture : Option (Capture File))
    (h : files desk' = files desk) :
    (finishFile ws capture desk').1 = (finishFile ws capture desk).1 ∧
      files (finishFile ws capture desk').2 = files (finishFile ws capture desk).2 := by
  cases capture with
  | none => exact ⟨rfl, h⟩
  | some capture =>
    obtain ⟨hanswer, hdesk⟩ := capture.alike_finish hfiles h
    exact ⟨congrArg (Except.map some) hanswer, hdesk⟩

/-- What is settled does not depend on the console and the log. -/
theorem settled_alike (hfiles : ws.FilesStandApart files) (start : Moment)
    (aftermath : Aftermath File) (h : files desk' = files desk) :
    ws.GivesSame files (some (e.settled ws start aftermath desk).1)
        (some (e.settled ws start aftermath desk').1) ∧
      files (e.settled ws start aftermath desk').2
        = files (e.settled ws start aftermath desk).2 := by
  cases aftermath with
  | uncaptured path error => exact ⟨givesSame_failed h start _ none none, h⟩
  | ran capture ending =>
    obtain ⟨hanswer, hdesk⟩ := finishFile_alike hfiles capture h
    refine ⟨?_, hdesk⟩
    simp only [settled, hanswer]
    exact givesSame_resultOf hdesk start _ ending

/-- Neither does what is reported when the session is closed, however that goes. -/
theorem conclude_alike {c' : Connector Net Session} (hfiles : ws.FilesStandApart files)
    (start : Moment) (session session' : Session) (aftermath : Aftermath File)
    {w w' : World Net Desk} (h : files w'.desk = files w.desk) :
    ws.GivesSame files (e.conclude c ws start session aftermath w).1
        (e.conclude c' ws start session' aftermath w').1 ∧
      files (e.conclude c' ws start session' aftermath w').2.desk
        = files (e.conclude c ws start session aftermath w).2.desk := by
  have hnoted : files (e.noted ws (c'.close session' w'.net).1 w'.desk)
      = files (e.noted ws (c.close session w.net).1 w.desk) := by
    simp only [noted, Stage.files_foldl_note hfiles, h]
  obtain ⟨hsame, hdesk⟩ := settled_alike (e := e) hfiles start aftermath hnoted
  refine ⟨hsame, ?_⟩
  simp only [conclude, hfiles.note]
  exact hdesk

/-- Nor does what an errand gives, with or without echo, over connectors that open and use sessions
in the same way. -/
theorem execute_alike {c' : Connector Net Session} (hconnect : c'.connect = c.connect)
    (hrun : c'.run = c.run) (hfiles : ws.FilesStandApart files) (echo : Bool)
    (w : World Net Desk) :
    ws.GivesSame files (e.execute c ws w).1 (({ e with echo } : Errand).execute c' ws w).1 ∧
      files (({ e with echo } : Errand).execute c' ws w).2.desk
        = files (e.execute c ws w).2.desk := by
  rcases hattempt : c.connect e.target w.net with ⟨session | error | _, net⟩
  · have hattempt' : c'.connect ({ e with echo } : Errand).target w.net = (.opened session, net) :=
      hconnect ▸ hattempt
    rcases hopen : e.openFile ws (e.begun ws w.desk) with ⟨failure | capture, desk⟩
    · rw [execute_of_uncaptured hattempt hopen, execute_of_uncaptured hattempt' hopen]
      exact conclude_alike (e := e) hfiles _ session session _ rfl
    · rw [execute_of_ran hattempt hopen, execute_of_ran hattempt' hopen]
      rcases hran : c.run session e.command net with ⟨transcript, session', net'⟩
      have hran' : c'.run session ({ e with echo } : Errand).command net
          = (transcript, session', net') := by
        rw [hrun]
        exact hran
      obtain ⟨hheard, hdesk⟩ :=
        hearChunks_alike hfiles e { e with echo } transcript.chunks capture (Eq.refl (files desk))
      simp only [hran', hheard]
      exact conclude_alike (e := e) hfiles _ session' session' _ hdesk
  · have hattempt' : c'.connect ({ e with echo } : Errand).target w.net = (.refused error, net) :=
      hconnect ▸ hattempt
    rw [execute_of_refused hattempt, execute_of_refused hattempt']
    exact ⟨⟨rfl, fun _ => rfl⟩, rfl⟩
  · have hattempt' : c'.connect ({ e with echo } : Errand).target w.net = (.died, net) :=
      hconnect ▸ hattempt
    rw [execute_of_died hattempt, execute_of_died hattempt']
    exact ⟨⟨rfl, fun _ => rfl⟩, rfl⟩

/-- The calls depend on what the connector answers when it is asked for a session, and on whether
the capture file can be created. -/
theorem calls_alike {c' : Connector Net Session} (hconnect : c'.connect = c.connect) (echo : Bool)
    (w : World Net Desk) : ({ e with echo } : Errand).calls c' ws w = e.calls c ws w := by
  by_cases hopened : ∃ session, (c.connect e.target w.net).1 = .opened session
  · obtain ⟨session, hattempt⟩ := hopened
    have hattempt' : (c'.connect ({ e with echo } : Errand).target w.net).1 = .opened session :=
      hconnect ▸ hattempt
    rcases hopen : (e.openFile ws (e.begun ws w.desk)).1 with failure | capture
    · rw [calls_of_uncaptured hattempt hopen, calls_of_uncaptured hattempt' hopen]
    · rw [calls_of_ran hattempt hopen, calls_of_ran hattempt' hopen]
      rfl
  · have hattempt := not_exists.1 hopened
    rw [calls_of_not_opened hattempt, calls_of_not_opened (hconnect ▸ hattempt)]

/-! ## The life of a session -/

/-- An errand asks for a session.  If it is opened, the errand runs the command in it once and
closes it once, and only closes it if the capture file cannot be created; all that is over when
there is a result, and the capture file is there when the command is run.  There is a result unless
the attempt to connect dies.  With echo or without it, and whatever comes of closing, the calls are
the same, and so are the result and the files, where printing and logging leave these alone. -/
theorem session_lifecycle (c : Connector Net Session) (ws : Workstation Desk File) (e : Errand)
    (w : World Net Desk) :
    ((∀ session, (c.connect e.target w.net).1 ≠ .opened session) →
      e.calls c ws w = [.connect e.target]) ∧
    (∀ session, (c.connect e.target w.net).1 = .opened session →
      (∀ path error, e.job.capture = .file path →
        (ws.create path (e.begun ws w.desk)).1 = .error error →
        e.calls c ws w = [.connect e.target, .close e.target]) ∧
      ((∀ path error, e.job.capture = .file path →
        (ws.create path (e.begun ws w.desk)).1 ≠ .error error) →
        e.calls c ws w = [.connect e.target, .run e.target (e.job.template.render e.target),
          .close e.target])) ∧
    ((e.execute c ws w).1 = none ↔ (c.connect e.target w.net).1 = .died) ∧
    (e.execute c ws w = ((e.execute c.recorded ws ⟨(w.net, []), w.desk⟩).1,
      (e.execute c.recorded ws ⟨(w.net, []), w.desk⟩).2.plain)) ∧
    (∀ n stage w₁ stage' w₂,
      Stage.after c.recorded ws e n (.waiting, ⟨(w.net, []), w.desk⟩) = (stage, w₁) →
      stage.advance c.recorded ws e w₁ = (stage', w₂) →
      w₂.net.2 = w₁.net.2 ++ (stage.call? e).toList ∧
      (∀ target command path, stage.call? e = some (.run target command) →
        e.job.capture = .file path → ∃ file desk, ws.create path desk = (.ok file, w₁.desk)) ∧
      ∀ result, stage.result? = some result →
        (e.execute c ws w).1 = some result ∧ w₁.net.2 = e.calls c ws w) ∧
    ∀ (c' : Connector Net Session) (echo : Bool), c'.connect = c.connect → c'.run = c.run →
      ({ e with echo } : Errand).calls c' ws w = e.calls c ws w ∧
      ∀ (View : Type) (files : Desk → View), ws.FilesStandApart files →
        files (({ e with echo } : Errand).execute c' ws w).2.desk
          = files (e.execute c ws w).2.desk ∧
        (({ e with echo } : Errand).execute c' ws w).1.map (·.untimed)
          = (e.execute c ws w).1.map (·.untimed) ∧
        (ws.TellsTime files →
          (({ e with echo } : Errand).execute c' ws w).1 = (e.execute c ws w).1) := by
  refine ⟨calls_of_not_opened, ?_, execute_eq_none_iff,
    execute_plain c ws e ⟨(w.net, []), w.desk⟩, ?_, ?_⟩
  · intro session hsession
    refine ⟨fun path error hpath herror => ?_, fun hcreate => ?_⟩
    · exact calls_of_uncaptured hsession (openFile_eq_error_iff.2 ⟨hpath, herror⟩)
    · rcases hopen : (e.openFile ws (e.begun ws w.desk)).1 with ⟨path, error⟩ | capture
      · obtain ⟨hpath, herror⟩ := openFile_eq_error_iff.1 hopen
        exact absurd herror (hcreate path error hpath)
      · exact calls_of_ran hsession hopen
  · intro n stage w₁ stage' w₂ hafter hadvance
    have hrecord := (Stage.record_after c ws e n ⟨(w.net, []), w.desk⟩).1
    rw [Stage.after, hafter, hadvance] at hrecord
    refine ⟨hrecord, fun target command path hcall hpath => ?_, fun result hresult => ?_⟩
    · have hrun : (Stage.after c.recorded ws e n (.waiting, ⟨(w.net, []), w.desk⟩)).1.call? e
          = some (.run target command) := by
        rw [hafter]
        exact hcall
      have hcreated := Stage.exists_create_of_call hrun hpath
      rwa [hafter] at hcreated
    · cases stage with
      | done given =>
        cases hresult
        exact record_of_after_eq_done hafter
      | _ => cases hresult
  · intro c' echo hconnect hrun
    refine ⟨calls_alike hconnect echo w, fun View files hfiles => ?_⟩
    obtain ⟨⟨huntimed, htimed⟩, hdesk⟩ := execute_alike (e := e) hconnect hrun hfiles echo w
    exact ⟨hdesk, huntimed, htimed⟩

/-- A connector whose sessions are never closed without an error. -/
def stubbornConnector : Connector MockRecord MockSession :=
  { lostScript.connector with
    close := fun session net => ({ error := some (.closed) }, session, net) }

theorem session_lifecycle_lost :
    benchErrand.calls lostScript.connector LocalDesk.workstation staleWorld
      = [.connect benchErrand.target, .run benchErrand.target "bench",
          .close benchErrand.target] ∧
    (({ benchErrand with echo := false } : Errand).execute stubbornConnector LocalDesk.workstation
      staleWorld).1 = (benchErrand.execute lostScript.connector LocalDesk.workstation staleWorld).1
    := by
  obtain ⟨_, hopened, _, _, _, halike⟩ :=
    session_lifecycle lostScript.connector LocalDesk.workstation benchErrand staleWorld
  have hcommand : benchErrand.job.template.render benchErrand.target = "bench" := by decide +kernel
  rw [hcommand] at hopened
  have hcreate : (LocalDesk.workstation.create "out.txt"
      (benchErrand.begun LocalDesk.workstation staleWorld.desk)).1.toOption
        = some (.regular ["out.txt"]) := by decide +kernel
  refine ⟨(hopened _ rfl).2 fun path error hpath herror => ?_, ?_⟩
  · cases hpath
    rw [herror] at hcreate
    cases hcreate
  · exact ((halike stubbornConnector false rfl rfl).2 _ _ LocalDesk.filesStandApart_clock).2.2
      fun desk desk' h => congrArg Prod.snd h

end Errand

end RemoteFleet
