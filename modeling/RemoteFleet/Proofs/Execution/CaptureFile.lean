import RemoteFleet.Proofs.Execution.Capture

/-!
# The capture file of an errand

`Stage.after` follows an errand step by step, to any of its steps.  From the step that creates the
capture file on, `Captured` says what the file holds: a beginning of all standard output followed by
all standard error, and both of them in full once the result gives the file's path.
`Captured.advance` carries it over every step, whatever is written and whether or not it succeeds.

A result gives no path without a capture file (`exists_ready_of_after`), and taking an errand to its
end takes some number of these steps (`exists_after_eq_complete`).
-/

namespace RemoteFleet

variable {Net Session Desk File : Type}

namespace Stage

/-! ## Step by step -/

/-- Where some steps lead. -/
def after (c : Connector Net Session) (ws : Workstation Desk File) (e : Errand) :
    Nat → Stage Session File × World Net Desk → Stage Session File × World Net Desk
  | 0, p => p
  | n + 1, p =>
    let q := after c ws e n p
    q.1.advance c ws e q.2

variable {c : Connector Net Session} {ws : Workstation Desk File} {e : Errand}

theorem after_add (m n : Nat) (p : Stage Session File × World Net Desk) :
    after c ws e (m + n) p = after c ws e n (after c ws e m p) := by
  induction n with
  | zero => rfl
  | succ n ih => rw [← Nat.add_assoc, after, after, ih]

variable (c ws e) in
/-- Taking all chunks takes as many steps as there are chunks, and one more. -/
theorem exists_after_eq_hearAll (stage : Stage Session File) (w : World Net Desk) :
    ∃ n, after c ws e n (stage, w) = stage.hearAll ws e w := by
  cases stage with
  | listening start session capture transcript =>
    obtain ⟨delayMs, chunks, ending⟩ := transcript
    obtain ⟨net, desk⟩ := w
    refine ⟨chunks.length + 1, ?_⟩
    induction chunks generalizing capture desk delayMs with
    | nil => rfl
    | cons chunk chunks ih =>
      rw [List.length_cons, Nat.add_comm, after_add]
      exact ih _ _ _
  | _ => exact ⟨0, rfl⟩

variable (c ws e) in
/-- Taking an errand to its end takes a number of steps. -/
theorem exists_after_eq_complete (stage : Stage Session File) (w : World Net Desk) :
    ∃ n, after c ws e n (stage, w) = stage.complete c ws e w := by
  let listening := after c ws e 4 (stage, w)
  obtain ⟨n, hn⟩ := exists_after_eq_hearAll c ws e listening.1 listening.2
  refine ⟨4 + (n + 2), ?_⟩
  rw [after_add, after_add]
  exact congrArg (after c ws e 2) hn

end Stage

/-! ## From the capture file on -/

/-- An errand with a capture file.  `t` is what the session passes on, and the file is known by its
path. -/
inductive Captured (c : Connector Net Session) (e : Errand) (content : File → Desk → Bytes)
    (path : String) (file : File) (t : Transcript) :
    Stage Session File → World Net Desk → Prop where
  | ready (start : Moment) (session : Session) (capture : Capture File) (w : World Net Desk)
      (hholds : capture.Holds content path file {} w.desk)
      (hrun : (c.run session e.command w.net).1 = t) :
      Captured c e content path file t (.ready start session (some capture)) w
  /-- `heard` was taken so far. -/
  | listening (start : Moment) (session : Session) (capture : Capture File) (rest : Transcript)
      (heard : List Chunk) (w : World Net Desk)
      (hholds : capture.Holds content path file (.ofChunks heard) w.desk)
      (hchunks : heard ++ rest.chunks = t.chunks) (hending : rest.ending = t.ending) :
      Captured c e content path file t (.listening start session (some capture) rest) w
  | closing (start : Moment) (session : Session) (capture : Capture File) (w : World Net Desk)
      (hholds : capture.Holds content path file (.ofChunks t.chunks) w.desk) :
      Captured c e content path file t (.closing start session (.ran (some capture) t.ending)) w
  | settling (start : Moment) (capture : Capture File) (w : World Net Desk)
      (hholds : capture.Holds content path file (.ofChunks t.chunks) w.desk) :
      Captured c e content path file t (.settling start (.ran (some capture) t.ending)) w
  | done (result : RunResult) (w : World Net Desk)
      (hbegun : content file w.desk <+: (RemoteOutput.ofChunks t.chunks).combined)
      (hcomplete : ∀ given, result.capturePath = some given →
        given = path ∧ content file w.desk = (RemoteOutput.ofChunks t.chunks).combined)
      (houtput : result.output = t.output?) :
      Captured c e content path file t (.done result) w

namespace Errand

variable {e : Errand}

/-- The output of a result is what the command ended with. -/
theorem output_resultOf (start stop : Moment) (capture : Except RunError (Option String))
    (t : Transcript) : (e.resultOf start stop capture t.ending).output = t.output? := by
  unfold resultOf Transcript.output?
  cases t.ending with
  | error error => rfl
  | ok outcome =>
    cases capture with
    | error error => rfl
    | ok path =>
      simp only
      split <;> rfl

/-- A result gives a path only if the capture file is complete. -/
theorem eq_ok_of_capturePath_resultOf {start stop : Moment}
    {capture : Except RunError (Option String)} {ending : Except SessionError CommandOutcome}
    {path : String} (h : (e.resultOf start stop capture ending).capturePath = some path) :
    capture = .ok (some path) := by
  unfold resultOf at h
  cases capture with
  | error error => cases ending <;> cases h
  | ok given =>
    cases ending with
    | error error => exact congrArg Except.ok h
    | ok outcome =>
      simp only at h
      split at h <;> exact congrArg Except.ok h

end Errand

section Files

variable {c : Connector Net Session} {ws : Workstation Desk File} {e : Errand}
  {content : File → Desk → Bytes} {path : String} {file : File} {t : Transcript}
  {stage : Stage Session File} {w : World Net Desk}

theorem content_foldl_note (hfiles : ws.KeepsFiles content) (file : File) (notes : List LogEvent)
    (desk : Desk) :
    content file (notes.foldl (fun desk note => ws.note note desk) desk) = content file desk := by
  induction notes generalizing desk with
  | nil => rfl
  | cons note notes ih => exact (ih _).trans (hfiles.note file note desk)

/-- When everything is settled, the file is complete or the result does not give its path. -/
theorem captured_settle (hfiles : ws.KeepsFiles content) {start : Moment} {capture : Capture File}
    (hholds : capture.Holds content path file (.ofChunks t.chunks) w.desk) :
    Captured c e content path file t
      (e.settle ws start (.ran (some capture) t.ending) w : Stage Session File × World Net Desk).1
      (e.settle ws start (.ran (some capture) t.ending) w : Stage Session File × World Net Desk).2
    := by
  obtain ⟨hbegun, hcomplete⟩ := hholds.finish hfiles
  rcases hfinish : capture.finish ws w.desk with ⟨answer, desk⟩
  rw [hfinish] at hbegun hcomplete
  simp only [Errand.settle, hfinish, Errand.report]
  refine .done _ _ ?_ ?_ (Errand.output_resultOf _ _ _ t)
  · rw [hfiles.note]
    exact hbegun
  · intro given hgiven
    have hok := Errand.eq_ok_of_capturePath_resultOf hgiven
    cases answer with
    | error error => cases hok
    | ok written =>
      cases hok
      rw [hfiles.note]
      exact hcomplete given rfl

/-- Every step keeps the file as it should be. -/
theorem Captured.advance (hfiles : ws.KeepsFiles content)
    (h : Captured c e content path file t stage w) :
    Captured c e content path file t (stage.advance c ws e w).1 (stage.advance c ws e w).2 := by
  cases h with
  | ready start session capture w hholds hrun =>
    refine .listening start _ capture _ [] _ hholds ?_ ?_
    · rw [hrun]
      rfl
    · rw [hrun]
  | listening start session capture rest heard w hholds hchunks hending =>
    simp only [Stage.advance, Errand.listen]
    split
    · next hnone =>
      rw [hnone, List.append_nil] at hchunks
      subst hchunks
      rw [hending]
      exact .closing start session capture w hholds
    · next chunk chunks hmore =>
      obtain ⟨capture', hcapture', hholds'⟩ := hholds.hear hfiles e chunk
      rw [hmore] at hchunks
      rw [hcapture']
      refine .listening start session capture' _ (heard ++ [chunk]) _ ?_ ?_ hending
      · rw [RemoteOutput.ofChunks_append]
        exact hholds'
      · rw [List.append_assoc]
        exact hchunks
  | closing start session capture w hholds =>
    refine .settling start capture _ (hholds.of_content_eq ?_)
    exact content_foldl_note hfiles file _ w.desk
  | settling start capture w hholds => exact captured_settle hfiles hholds
  | done result w hbegun hcomplete houtput => exact .done result w hbegun hcomplete houtput

theorem Captured.after (hfiles : ws.KeepsFiles content)
    (h : Captured c e content path file t stage w) (n : Nat) :
    Captured c e content path file t (Stage.after c ws e n (stage, w)).1
      (Stage.after c ws e n (stage, w)).2 := by
  induction n with
  | zero => exact h
  | succ n ih => exact ih.advance hfiles

/-- The file never holds anything but a beginning of what belongs into it. -/
theorem Captured.prefix_combined (h : Captured c e content path file t stage w) :
    content file w.desk <+: (RemoteOutput.ofChunks t.chunks).combined := by
  cases h with
  | ready start session capture w hholds hrun =>
    exact hholds.written.trans (List.nil_prefix)
  | listening start session capture rest heard w hholds hchunks hending =>
    rw [← hchunks, RemoteOutput.ofChunks_append]
    have hmore := (RemoteOutput.ofChunks heard).stdout_prefix_foldl rest.chunks
    exact (hholds.written.trans hmore).trans (List.prefix_append _ _)
  | closing start session capture w hholds =>
    exact hholds.written.trans (List.prefix_append _ _)
  | settling start capture w hholds => exact hholds.written.trans (List.prefix_append _ _)
  | done result w hbegun hcomplete houtput => exact hbegun

/-! ## Before the capture file -/

/-- The capture file that the last step created. -/
def Stage.created? : Stage Session File → Option (Capture File)
  | .ready _ _ capture => capture
  | _ => none

theorem Stage.eq_ready_of_created {capture : Capture File} (h : stage.created? = some capture) :
    ∃ start session, stage = .ready start session (some capture) := by
  cases stage with
  | ready start session created =>
    obtain rfl : created = some capture := h
    exact ⟨start, session, rfl⟩
  | _ => cases h

/-- An errand that created a capture file with its last step has the file of its job, empty. -/
theorem holds_of_advance_eq_ready (hfiles : ws.KeepsFiles content) {start : Moment}
    {session : Session} {capture : Capture File} {w' : World Net Desk}
    (h : stage.advance c ws e w = (.ready start session (some capture), w')) :
    e.job.capture = .file capture.path ∧
      capture.Holds content capture.path capture.file {} w'.desk := by
  cases stage with
  | connected start session =>
    simp only [Stage.advance, Errand.openCapture] at h
    split at h
    · cases h
    · next path hpath =>
      split at h
      · next created desk hcreate =>
        cases h
        have hholds := Capture.holds_of_create hfiles hcreate
        rw [hholds.path_eq]
        exact ⟨hpath, hholds⟩
      · cases h
  | connecting start =>
    simp only [Stage.advance, Errand.connect] at h
    split at h <;> cases h
  | listening start session capture transcript =>
    simp only [Stage.advance, Errand.listen] at h
    split at h <;> cases h
  | settling start aftermath =>
    simp only [Stage.advance, Errand.settle] at h
    split at h <;> cases h
  | _ => cases h

theorem holds_of_after_eq_ready (hfiles : ws.KeepsFiles content) {n : Nat} {start : Moment}
    {session : Session} {capture : Capture File} {w' : World Net Desk}
    (h : Stage.after c ws e n (.waiting, w) = (.ready start session (some capture), w')) :
    e.job.capture = .file capture.path ∧
      capture.Holds content capture.path capture.file {} w'.desk := by
  cases n with
  | zero => cases h
  | succ n => exact holds_of_advance_eq_ready hfiles h

/-- The capture file that is left to complete. -/
def Aftermath.capture? : Aftermath File → Option (Capture File)
  | .uncaptured _ _ => none
  | .ran capture _ => capture

/-- The capture file that an errand has. -/
def Stage.capture? : Stage Session File → Option (Capture File)
  | .ready _ _ capture | .listening _ _ capture _ => capture
  | .closing _ _ aftermath | .settling _ aftermath => aftermath.capture?
  | _ => none

/-- An errand that has no capture file, and no result that gives the path of one. -/
def Stage.Uncaptured (stage : Stage Session File) : Prop :=
  stage.capture? = none ∧ ∀ result, stage.result? = some result → result.capturePath = none

theorem Stage.uncaptured_of_result?_eq_none (hcapture : stage.capture? = none)
    (hresult : stage.result? = none) : stage.Uncaptured := by
  refine ⟨hcapture, ?_⟩
  intro result h
  rw [hresult] at h
  cases h

theorem Stage.uncaptured_done {result : RunResult} (h : result.capturePath = none) :
    (Stage.done result : Stage Session File).Uncaptured := by
  refine ⟨rfl, ?_⟩
  intro given hgiven
  cases hgiven
  exact h

variable (c ws e w) in
/-- An errand comes to a capture file only by creating one. -/
theorem Stage.Uncaptured.advance (h : stage.Uncaptured) :
    (stage.advance c ws e w).1.Uncaptured ∨
      ∃ start session capture,
        (stage.advance c ws e w).1 = .ready start session (some capture) := by
  obtain ⟨hcapture, hresult⟩ := h
  cases stage with
  | waiting => exact .inl (uncaptured_of_result?_eq_none rfl rfl)
  | connecting start =>
    left
    simp only [Stage.advance, Errand.connect]
    split
    · exact uncaptured_of_result?_eq_none rfl rfl
    · exact uncaptured_of_result?_eq_none rfl rfl
    · exact uncaptured_done rfl
  | connected start session =>
    simp only [Stage.advance, Errand.openCapture]
    split
    · exact .inl (uncaptured_of_result?_eq_none rfl rfl)
    · split
      · exact .inr ⟨_, _, _, rfl⟩
      · exact .inl (uncaptured_of_result?_eq_none rfl rfl)
  | ready start session capture =>
    obtain rfl : capture = none := hcapture
    exact .inl (uncaptured_of_result?_eq_none rfl rfl)
  | listening start session capture transcript =>
    obtain rfl : capture = none := hcapture
    left
    simp only [Stage.advance, Errand.listen]
    split
    · exact uncaptured_of_result?_eq_none rfl rfl
    · exact uncaptured_of_result?_eq_none rfl rfl
  | closing start session aftermath =>
    exact .inl (uncaptured_of_result?_eq_none hcapture rfl)
  | settling start aftermath =>
    left
    cases aftermath with
    | uncaptured path error => exact uncaptured_done rfl
    | ran capture ending =>
      obtain rfl : capture = none := hcapture
      refine uncaptured_done ?_
      cases hpath : (e.resultOf start (ws.now w.desk) (.ok none) ending).capturePath with
      | none => rfl
      | some path => cases Errand.eq_ok_of_capturePath_resultOf hpath
  | done result => exact .inl ⟨hcapture, hresult⟩
  | dead => exact .inl ⟨hcapture, hresult⟩

variable (c ws e w) in
/-- An errand created its capture file with one of its steps, or has none. -/
theorem uncaptured_or_exists_ready (n : Nat) :
    (Stage.after c ws e n (.waiting, w)).1.Uncaptured ∨
      ∃ m, m ≤ n ∧ ∃ start session capture,
        (Stage.after c ws e m (.waiting, w)).1 = .ready start session (some capture) := by
  induction n with
  | zero => exact .inl (Stage.uncaptured_of_result?_eq_none rfl rfl)
  | succ n ih =>
    rcases ih with hnone | ⟨m, hle, hready⟩
    · rcases hnone.advance c ws e (Stage.after c ws e n (.waiting, w)).2 with hstill | hready
      · exact .inl hstill
      · exact .inr ⟨n + 1, Nat.le_refl _, hready⟩
    · exact .inr ⟨m, Nat.le_succ_of_le hle, hready⟩

/-- A result that gives a path is that of an errand that created a capture file. -/
theorem exists_ready_of_after {n : Nat} {result : RunResult} {w' : World Net Desk} {given : String}
    (h : Stage.after c ws e n (.waiting, w) = (.done result, w'))
    (hgiven : result.capturePath = some given) :
    ∃ m, m ≤ n ∧ ∃ start session capture w₁,
      Stage.after c ws e m (.waiting, w) = (.ready start session (some capture), w₁) := by
  rcases uncaptured_or_exists_ready c ws e w n with hnone | hready
  · rw [h] at hnone
    rw [hnone.2 result rfl] at hgiven
    cases hgiven
  · obtain ⟨m, hle, start, session, capture, hstage⟩ := hready
    exact ⟨m, hle, start, session, capture, _, Prod.ext hstage rfl⟩

end Files

/-! ## The capture file -/

/-- Whatever the session passes on and whatever becomes of the writes: from the moment the capture
file is created, it holds a beginning of all standard output followed by all standard error.  A
result that gives a path gives that of the job, and then the file holds all of it, which is also the
output of the result if it has any and the sessions are faithful, as those of scripted hosts and of
the ssh client are. -/
theorem Errand.capture_file_exact (c : Connector Net Session) (ws : Workstation Desk File)
    (content : File → Desk → Bytes) (hfiles : ws.KeepsFiles content) (e : Errand)
    (w : World Net Desk) :
    (∀ m start session capture w₁,
      Stage.after c ws e m (.waiting, w) = (.ready start session (some capture), w₁) →
      e.job.capture = .file capture.path ∧
      ∀ n stage w₂, Stage.after c ws e (m + n) (.waiting, w) = (stage, w₂) →
        let heard := RemoteOutput.ofChunks (c.run session e.command w₁.net).1.chunks
        content capture.file w₂.desk <+: heard.combined ∧
        ∀ result given, stage = .done result → result.capturePath = some given →
          given = capture.path ∧ content capture.file w₂.desk = heard.combined ∧
          (c.IsFaithful → ∀ output, result.output = some output →
            content capture.file w₂.desk = output.combined)) ∧
    (∀ n result w₂ given, Stage.after c ws e n (.waiting, w) = (.done result, w₂) →
      result.capturePath = some given →
      ∃ m, m ≤ n ∧ ∃ start session capture w₁,
        Stage.after c ws e m (.waiting, w) = (.ready start session (some capture), w₁)) ∧
    (∃ n, Stage.after c ws e n (.waiting, w) = Stage.complete c ws e .waiting w) ∧
    (∀ m : MockScript, m.connector.IsFaithful) ∧
    (∀ (Net' Master : Type) (client : SshClient Net' Master) (o : SshOptions),
      (Ssh.connector client o).IsFaithful) := by
  refine ⟨?_, fun n result w₂ given h hgiven => exists_ready_of_after h hgiven,
    Stage.exists_after_eq_complete c ws e .waiting w, MockScript.isFaithful_connector,
    fun _ _ client o => Ssh.isFaithful_connector client o⟩
  intro m start session capture w₁ hready
  obtain ⟨hjob, hholds⟩ := holds_of_after_eq_ready hfiles hready
  refine ⟨hjob, ?_⟩
  intro n stage w₂ hafter
  have hcaptured := (Captured.ready (c := c) (e := e) start session capture w₁ hholds rfl).after
    hfiles n
  rw [← hready, ← Stage.after_add, hafter] at hcaptured
  refine ⟨hcaptured.prefix_combined, ?_⟩
  intro result given hdone hgiven
  subst hdone
  cases hcaptured with
  | done result w hbegun hcomplete houtput =>
    obtain ⟨rfl, hall⟩ := hcomplete given hgiven
    refine ⟨rfl, hall, ?_⟩
    intro hfaithful output hout
    rw [houtput] at hout
    rw [hall, hfaithful session e.command w₁.net output hout]

/-- A benchmark whose output goes to the console and into a file. -/
def benchErrand : Errand where
  phase := .leader
  target := ⟨3, "c", "ec2-user", none, 22⟩
  job := { name := "bench", template := { command := "bench" }, capture := .file "out.txt" }
  echo := true

/-- Hosts that write something to both streams and are then lost. -/
def lostScript : MockScript := { default := .dropAfter ⟨[1, 2], [3]⟩ "gone" }

/-- A file with something in it, before the run. -/
def staleWorld : World MockRecord LocalDesk := ⟨{}, { files := ⟨[], [(["out.txt"], [9])]⟩ }⟩

/-- The connection is lost, and the file holds what came before that, and nothing from before the
run. -/
theorem Errand.capture_file_exact_lost :
    ∃ result w₂, Stage.after lostScript.connector LocalDesk.workstation benchErrand 9
        (.waiting, staleWorld) = (.done result, w₂) ∧
      result.status = .failed ∧ result.capturePath = some "out.txt" ∧
      LocalDesk.content (.regular ["out.txt"]) w₂.desk = [1, 2, 3] := by
  obtain ⟨hfile, _, _, hmock, _⟩ := Errand.capture_file_exact lostScript.connector
    LocalDesk.workstation LocalDesk.content LocalDesk.keepsFiles benchErrand staleWorld
  have hthree : (Stage.after lostScript.connector LocalDesk.workstation benchErrand 3
      (.waiting, staleWorld)).1.created?
        = some { path := "out.txt", file := .regular ["out.txt"] } := by decide +kernel
  have hnine : (Stage.after lostScript.connector LocalDesk.workstation benchErrand 9
      (.waiting, staleWorld)).1.result?.map (fun r => (r.status, r.capturePath, r.output))
        = some (.failed, some "out.txt", some ⟨[1, 2], [3]⟩) := by decide +kernel
  obtain ⟨start, session, hready⟩ := Stage.eq_ready_of_created hthree
  rcases hdone : Stage.after lostScript.connector LocalDesk.workstation benchErrand 9
    (.waiting, staleWorld) with ⟨stage, w₂⟩
  rw [hdone] at hnine
  cases stage with
  | done result =>
    obtain ⟨hstatus, hpath, houtput⟩ :
        result.status = .failed ∧ result.capturePath = some "out.txt" ∧
          result.output = some ⟨[1, 2], [3]⟩ := by simpa [Stage.result?] using hnine
    obtain ⟨_, hall⟩ := hfile 3 start session _ _ (Prod.ext hready rfl)
    obtain ⟨_, _, hsame⟩ := (hall 6 _ w₂ hdone).2 result "out.txt" rfl hpath
    exact ⟨result, w₂, rfl, hstatus, hpath, hsame (hmock lostScript) _ houtput⟩
  | _ => cases hnine

end RemoteFleet
