import RemoteFleet.Proofs.Execution.CaptureFile
import RemoteFleet.Proofs.Execution.Consistency
import RemoteFleet.Proofs.Execution.Outcome

/-!
# Commands that fail on their hosts

When a command is over, its exit code and the capture file are both looked at, and the capture file
first.  So the code of a command that failed is in the result as long as the file could be kept, and
not otherwise: then the result says what happened to the file, and the process ends with 1.

`Errand.KeepsFile` says what keeping the file takes: every chunk of standard output is written as it
arrives, what was held back is written behind it, and the file is on disk.  `hearChunks_eq` and
`hearChunks_fails` compare it with a capture, which remembers its first failure and goes on.
-/

namespace RemoteFleet

variable {Net Session Desk File : Type}

/-! ## Keeping the capture file -/

namespace Errand

section Writing

variable (ws : Workstation Desk File) (e : Errand)

/-- The desk with a chunk on the console, if the errand has an echo. -/
def echoed (chunk : Chunk) (desk : Desk) : Desk := if e.echo then (ws.print chunk desk).2 else desk

/-- The desk when all chunks are taken and all standard output is in the file, if no write fails. -/
def writeAll (file : File) : List Chunk → Desk → Option Desk
  | [], desk => some desk
  | ⟨.stderr, bytes⟩ :: chunks, desk => writeAll file chunks (echoed ws e ⟨.stderr, bytes⟩ desk)
  | ⟨.stdout, bytes⟩ :: chunks, desk =>
    match ws.append file bytes (echoed ws e ⟨.stdout, bytes⟩ desk) with
    | (none, desk) => writeAll file chunks desk
    | (some _, _) => none

/-- Whether what is left to do when the chunks are taken succeeds: writing what was held back, and
waiting until the file is on disk. -/
def Completes (held : Bytes) (file : File) (desk : Desk) : Prop :=
  let released := if held = [] then (none, desk) else ws.append file held desk
  released.1 = none ∧ (ws.sync file released.2).1 = none

instance (held : Bytes) (file : File) (desk : Desk) : Decidable (Completes ws held file desk) :=
  inferInstanceAs (Decidable (_ ∧ _))

/-- Whether nothing that is done to the file fails: writing standard output as it arrives, and
completing the file with standard error when the session is closed. -/
def KeepsFile (closing : Closing) (chunks : List Chunk) (file : File) (desk : Desk) : Prop :=
  ∃ written ∈ e.writeAll ws file chunks desk,
    Completes ws (RemoteOutput.ofChunks chunks).stderr file (e.noted ws closing written)

instance (closing : Closing) (chunks : List Chunk) (file : File) (desk : Desk) :
    Decidable (e.KeepsFile ws closing chunks file desk) :=
  inferInstanceAs (Decidable (∃ written ∈ e.writeAll ws file chunks desk, _))

end Writing

variable {ws : Workstation Desk File} {e : Errand} {capture : Capture File} {bytes : Bytes}
  {desk after : Desk}

theorem hear_stderr :
    e.hear ws ⟨.stderr, bytes⟩ (some capture) desk =
      (some { capture with held := capture.held ++ bytes }, e.echoed ws ⟨.stderr, bytes⟩ desk) :=
  rfl

theorem hear_stdout (hok : capture.failure = none)
    (hwrite : ws.append capture.file bytes (e.echoed ws ⟨.stdout, bytes⟩ desk) = (none, after)) :
    e.hear ws ⟨.stdout, bytes⟩ (some capture) desk = (some capture, after) := by
  rw [echoed] at hwrite
  simp only [hear, Capture.take, hok, hwrite]

theorem hear_stdout_fails (hok : capture.failure = none) {error : FileError}
    (hwrite : ws.append capture.file bytes (e.echoed ws ⟨.stdout, bytes⟩ desk)
      = (some error, after)) :
    e.hear ws ⟨.stdout, bytes⟩ (some capture) desk =
      (some { capture with failure := some error },
        ws.note (.captureFailed capture.path error) after) := by
  rw [echoed] at hwrite
  simp only [hear, Capture.take, hok, hwrite]

/-- A capture that failed stays so. -/
theorem failure_take_ne_none (hfailure : capture.failure ≠ none) (chunk : Chunk) (desk : Desk) :
    (capture.take ws chunk desk).1.failure ≠ none := by
  unfold Capture.take
  split
  · exact hfailure
  · exact hfailure
  · next hnone => exact absurd hnone hfailure

theorem hearChunks_of_failure (hfailure : capture.failure ≠ none) (chunks : List Chunk)
    (desk : Desk) :
    ∃ failed, (e.hearChunks ws chunks (some capture) desk).1 = some failed ∧
      failed.failure ≠ none := by
  induction chunks generalizing capture desk with
  | nil => exact ⟨capture, rfl, hfailure⟩
  | cons chunk chunks ih =>
    have hhear : (e.hear ws chunk (some capture) desk).1
        = some (capture.take ws chunk (e.echoed ws chunk desk)).1 := rfl
    rw [hearChunks_cons, hhear]
    exact ih (failure_take_ne_none hfailure chunk _) _

/-- If every write succeeds, the capture has taken everything. -/
theorem hearChunks_eq (hok : capture.failure = none) {chunks : List Chunk} {written : Desk}
    (hwritten : e.writeAll ws capture.file chunks desk = some written) (out : RemoteOutput)
    (hheld : capture.held = out.stderr) :
    e.hearChunks ws chunks (some capture) desk =
      (some { capture with held := (chunks.foldl RemoteOutput.add out).stderr }, written) := by
  induction chunks generalizing capture desk out with
  | nil =>
    cases hwritten
    rw [List.foldl_nil, ← hheld]
    rfl
  | cons chunk chunks ih =>
    obtain ⟨stream, bytes⟩ := chunk
    rw [hearChunks_cons, List.foldl_cons]
    cases stream with
    | stderr =>
      rw [hear_stderr]
      exact @ih { capture with held := capture.held ++ bytes } _ hok hwritten
        (out.add ⟨.stderr, bytes⟩) (congrArg (· ++ bytes) hheld)
    | stdout =>
      rw [writeAll] at hwritten
      split at hwritten
      · next desk' hwrite =>
        rw [hear_stdout hok hwrite]
        exact ih hok hwritten (out.add ⟨.stdout, bytes⟩) hheld
      · cases hwritten

/-- If a write fails, the capture remembers that. -/
theorem hearChunks_fails (hok : capture.failure = none) {chunks : List Chunk}
    (hwritten : e.writeAll ws capture.file chunks desk = none) :
    ∃ failed, (e.hearChunks ws chunks (some capture) desk).1 = some failed ∧
      failed.failure ≠ none := by
  induction chunks generalizing capture desk with
  | nil => cases hwritten
  | cons chunk chunks ih =>
    obtain ⟨stream, bytes⟩ := chunk
    rw [hearChunks_cons]
    cases stream with
    | stderr =>
      rw [hear_stderr]
      exact ih hok hwritten
    | stdout =>
      rw [writeAll] at hwritten
      split at hwritten
      · next desk' hwrite =>
        rw [hear_stdout hok hwrite]
        exact ih hok hwritten
      · next error desk' hwrite =>
        rw [hear_stdout_fails hok hwrite]
        exact hearChunks_of_failure (Option.some_ne_none error) chunks _

/-- A capture that has not failed is completed if what is left to do succeeds. -/
theorem finishFile_some_iff (path : String) (file : File) (held : Bytes) (desk : Desk) :
    (∃ given, (finishFile ws (some ⟨path, file, held, none⟩) desk).1 = .ok given) ↔
      Completes ws held file desk := by
  simp only [finishFile, Capture.finish, Capture.release, Completes]
  rcases (if held = [] then (none, desk) else ws.append file held desk) with ⟨_ | error, between⟩
  · rcases hsync : ws.sync file between with ⟨_ | error, last⟩ <;> simp [hsync, Except.map]
  · simp [Except.map]

/-- The capture file is complete in the end if nothing failed that was done to it. -/
theorem finishFile_eq_ok_iff (hok : capture.failure = none) (hheld : capture.held = [])
    (closing : Closing) (chunks : List Chunk) :
    (∃ given, (finishFile ws (e.hearChunks ws chunks (some capture) desk).1
      (e.noted ws closing (e.hearChunks ws chunks (some capture) desk).2)).1 = .ok given) ↔
      e.KeepsFile ws closing chunks capture.file desk := by
  cases hwritten : e.writeAll ws capture.file chunks desk with
  | none =>
    obtain ⟨failed, hfailed, hfailure⟩ := hearChunks_fails hok hwritten
    obtain ⟨error, herror⟩ := Option.ne_none_iff_exists'.1 hfailure
    rw [hfailed]
    simp [finishFile, Capture.finish, Capture.release, herror, KeepsFile, hwritten, Except.map]
  | some written =>
    rw [hearChunks_eq hok hwritten {} hheld, hok, finishFile_some_iff]
    simp [KeepsFile, hwritten, RemoteOutput.ofChunks]

/-! ## The capture of a job -/

theorem hearChunks_none (chunks : List Chunk) (desk : Desk) :
    (e.hearChunks ws chunks (none : Option (Capture File)) desk).1 = none := by
  induction chunks generalizing desk with
  | nil => rfl
  | cons chunk chunks ih => exact ih _

/-- A capture file that was just created is the job's, and nothing has been taken yet. -/
theorem fresh_of_openFile {opened : Option (Capture File)}
    (h : e.openFile ws desk = (.ok opened, after)) :
    e.Owns opened ∧ ∀ held, opened = some held → held.failure = none ∧ held.held = [] := by
  unfold openFile at h
  cases hjob : e.job.capture with
  | off =>
    rw [hjob] at h
    cases h
    exact ⟨e.owns_none, by simp⟩
  | file path =>
    rcases hcreate : ws.create path desk with ⟨_ | file, desk'⟩ <;>
      simp only [hjob, Capture.create, hcreate, Except.map] at h <;> cases h
    refine ⟨?_, ?_⟩ <;> rintro held ⟨⟩
    · exact hjob
    · exact ⟨rfl, rfl⟩

theorem Owns.hearChunks {opened : Option (Capture File)} (h : e.Owns opened) (chunks : List Chunk)
    (desk : Desk) : e.Owns (e.hearChunks ws chunks opened desk).1 := by
  induction chunks generalizing opened desk with
  | nil => exact h
  | cons chunk chunks ih => exact ih (h.hear chunk desk) _

/-- A capture file that is not complete is the job's. -/
theorem eq_capture_of_finishFile {opened : Option (Capture File)} (h : e.Owns opened)
    {error : RunError} (herror : (finishFile ws opened desk).1 = .error error) :
    ∃ path reason, e.job.capture = .file path ∧ error = .capture path reason := by
  cases opened with
  | none => cases herror
  | some held =>
    rcases held.finish_answer ws desk with hfinish | ⟨reason, hfinish⟩
    all_goals
      change (held.finish ws desk).1.map some = .error error at herror
      rw [hfinish] at herror
      cases herror
    exact ⟨held.path, reason, h held rfl, rfl⟩

/-! ## The result -/

variable {c : Connector Net Session} {w : World Net Desk}

/-- The result of a command that failed on its host names the command's code, unless the capture
file is not complete. -/
theorem resultOf_failed {outcome : CommandOutcome} (hcode : outcome.exitCode ≠ 0)
    (start stop : Moment) (kept : Except RunError (Option String)) :
    e.resultOf start stop kept (.ok outcome) =
      match kept with
      | .ok path => e.failed start stop
          (.remoteExecution e.target.address outcome.exitCode (outcome.output.tail 20))
          (some outcome.output) path
      | .error error => e.failed start stop error (some outcome.output) none := by
  have hfailed : outcome.success = false := by simpa [CommandOutcome.success] using hcode
  cases kept with
  | error error => rfl
  | ok path =>
    simp only [resultOf, hfailed]
    rfl

/-- A command that fails on its host makes a failed result with its output.  The result and the
process end with the command's code if the job has no capture file, or one that could be kept;
otherwise with what happened to the file, and 1. -/
theorem remote_code_reported_iff {session session' : Session} {net net' : Net}
    {opened : Option (Capture File)} {transcript : Transcript} {outcome : CommandOutcome}
    (hconnect : c.connect e.target w.net = (.opened session, net))
    (hopen : e.openFile ws (e.begun ws w.desk) = (.ok opened, desk))
    (hrun : c.run session e.command net = (transcript, session', net'))
    (hending : transcript.ending = .ok outcome) (hcode : outcome.exitCode ≠ 0) :
    ∃ result, (e.execute c ws w).1 = some result ∧ result.status = .failed ∧
      result.output = some outcome.output ∧
      ((result.exitCode = some outcome.exitCode ∧
        result.error = some (.remoteExecution e.target.address outcome.exitCode
          (outcome.output.tail 20)) ∧
        result.processCode = outcome.exitCode) ↔
        ∀ held, opened = some held →
          e.KeepsFile ws (c.close session' net').1 transcript.chunks held.file desk) ∧
      ∀ held, opened = some held →
        ¬e.KeepsFile ws (c.close session' net').1 transcript.chunks held.file desk →
        ∃ path reason, e.job.capture = .file path ∧ result.error = some (.capture path reason) ∧
          result.exitCode = none ∧ result.processCode = 1 ∧ result.capturePath = none := by
  let heard := e.hearChunks ws transcript.chunks opened desk
  let kept := (finishFile ws heard.1 (e.noted ws (c.close session' net').1 heard.2)).1
  obtain ⟨howns, hfresh⟩ := fresh_of_openFile hopen
  have hkeeps : (∃ path, kept = .ok path) ↔ ∀ held, opened = some held →
      e.KeepsFile ws (c.close session' net').1 transcript.chunks held.file desk := by
    cases opened with
    | none =>
      refine iff_of_true ⟨none, ?_⟩ (by simp)
      simp only [kept, heard, hearChunks_none, finishFile]
    | some held =>
      obtain ⟨hok, hheld⟩ := hfresh held rfl
      rw [finishFile_eq_ok_iff hok hheld]
      simp
  obtain ⟨stop, hresult⟩ : ∃ stop, (e.execute c ws w).1
      = some (e.resultOf (ws.now w.desk) stop kept (.ok outcome)) := by
    simp only [execute_of_ran hconnect hopen, hrun, conclude, settled, hending]
    exact ⟨_, rfl⟩
  refine ⟨_, hresult, ?_⟩
  rw [resultOf_failed hcode]
  cases hkept : kept with
  | ok path =>
    have hall := hkeeps.1 ⟨path, hkept⟩
    refine ⟨rfl, rfl, iff_of_true ⟨rfl, rfl, ?_⟩ hall, fun held hheld hnot => ?_⟩
    · simp [RunResult.processCode, failed, RunError.exitCode, hcode]
    · exact absurd (hall held hheld) hnot
  | error error =>
    have hnot : ¬∀ held, opened = some held →
        e.KeepsFile ws (c.close session' net').1 transcript.chunks held.file desk := by
      rw [← hkeeps, hkept]
      simp
    obtain ⟨path, reason, hpath, rfl⟩ :=
      eq_capture_of_finishFile (howns.hearChunks transcript.chunks desk) hkept
    refine ⟨rfl, rfl, iff_of_false ?_ hnot, fun held _ _ => ?_⟩
    · rintro ⟨hexit, _⟩
      cases hexit
    · exact ⟨path, reason, hpath, rfl, rfl, rfl, rfl⟩

/-- Hosts whose commands write something to both streams and fail. -/
def failingScript : MockScript := { default := .exit 3 ⟨[111, 107, 10], [33, 10]⟩ }

theorem remote_code_reported_bench :
    ∃ result, (benchErrand.execute failingScript.connector LocalDesk.workstation staleWorld).1
        = some result ∧
      result.status = .failed ∧ result.exitCode = some 3 ∧ result.processCode = 3 := by
  have hopened : (benchErrand.openFile LocalDesk.workstation
      (benchErrand.begun LocalDesk.workstation staleWorld.desk)).1.toOption
        = some (some { path := "out.txt", file := .regular ["out.txt"] }) := by decide +kernel
  have hkeeps : benchErrand.KeepsFile LocalDesk.workstation {}
      [⟨.stdout, [111, 107, 10]⟩, ⟨.stderr, [33, 10]⟩] (.regular ["out.txt"])
      (benchErrand.openFile LocalDesk.workstation
        (benchErrand.begun LocalDesk.workstation staleWorld.desk)).2 := by decide +kernel
  rcases hopen : benchErrand.openFile LocalDesk.workstation
    (benchErrand.begun LocalDesk.workstation staleWorld.desk) with ⟨_ | opened, desk⟩ <;>
    rw [hopen] at hopened hkeeps <;> cases hopened
  obtain ⟨result, hresult, hstatus, _, hcode, _⟩ :=
    remote_code_reported_iff (c := failingScript.connector) (w := staleWorld) rfl hopen rfl rfl
      (by decide)
  obtain ⟨hexit, _, hprocess⟩ := hcode.2 (by rintro _ ⟨⟩; exact hkeeps)
  exact ⟨result, hresult, hstatus, hexit, hprocess⟩

/-- A benchmark with a capture file that takes nothing. -/
def fullErrand : Errand where
  phase := .leader
  target := ⟨1, "10.0.0.1", "ec2-user", none, 22⟩
  job := { name := "bench", template := { command := "bench" }, capture := .file "/dev/full" }
  echo := false

/-- The command fails with 3, and the result says that the file cannot be written. -/
theorem remote_code_hidden :
    (failingScript.connector.run ⟨fullErrand.target, false⟩ fullErrand.command
      (failingScript.connector.connect fullErrand.target {}).2).1.ending
        = .ok ⟨3, ⟨[111, 107, 10], [33, 10]⟩⟩ ∧
    (fullErrand.execute failingScript.connector LocalDesk.workstation ⟨{}, {}⟩).1.map
        (fun r => (r.status, r.exitCode, r.error, r.processCode))
      = some (.failed, none,
          some (.capture "/dev/full" "No space left on device (os error 28)"), 1) ∧
    ¬∃ result, (fullErrand.execute failingScript.connector LocalDesk.workstation ⟨{}, {}⟩).1
        = some result ∧ result.exitCode = some 3 := by
  have hresult : (fullErrand.execute failingScript.connector LocalDesk.workstation ⟨{}, {}⟩).1.map
        (fun r => (r.status, r.exitCode, r.error, r.processCode))
      = some (.failed, none,
          some (.capture "/dev/full" "No space left on device (os error 28)"), 1) := by
    decide +kernel
  refine ⟨rfl, hresult, ?_⟩
  rintro ⟨result, hsome, hcode⟩
  rw [hsome] at hresult
  have hnone := congrArg (·.2.1) (Option.some.inj hresult)
  cases hcode.symm.trans hnone

end Errand

end RemoteFleet
