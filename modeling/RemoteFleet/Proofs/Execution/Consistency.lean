import RemoteFleet.Proofs.Execution.CaptureFile

/-!
# Results whose fields agree

A result says how its errand ended in several fields: a status, a code, an error, the path of the
capture file, the output.  They are filled in by hand wherever a result is made, and whoever reads a
result relies on their agreement, which `RunResult.Consistent` spells out.

Two fields depend on more than the result.  A path is that of the job's capture file, because the
capture that an errand holds is (`Errand.Owns`).  The output is what the command ended with, if it
came to an end: `Stage.ending?` is what is to be seen of that, and `Stage.Accords` says of a stage
what there was to see before it.  `Accords.advance` carries it over every step.
-/

namespace RemoteFleet

/-! ## Results -/

/-- The address that an error names. -/
def RunError.address? : RunError → Option String
  | .connection address _ | .remoteExecution address _ _ | .cancelled address => some address
  | .capture _ _ => none

/-- The fields of a result agree with each other. -/
structure RunResult.Consistent (r : RunResult) : Prop where
  succeeded_iff_error : r.status = .succeeded ↔ r.error = none
  succeeded_iff_exitCode : r.status = .succeeded ↔ r.exitCode = some 0
  succeeded_iff_processCode : r.status = .succeeded ↔ r.processCode = 0
  cancelled_iff : r.status = .cancelled ↔ ∃ address, r.error = some (.cancelled address)
  /-- A code other than 0 is that of a remote command. -/
  exitCode_iff : ∀ code, r.exitCode = some code ∧ code ≠ 0 ↔
    ∃ address tail, r.error = some (.remoteExecution address code tail)
  address : ∀ error address, r.error = some error → error.address? = some address →
    address = r.address
  /-- A capture file whose path is given could be kept. -/
  captured : ∀ path, r.capturePath = some path →
    ∀ file reason, r.error ≠ some (.capture file reason)

theorem RunResult.consistent_cancelled (phase : Phase) (target : RemoteTarget) (job : String)
    (now : Timestamp) : (cancelled phase target job now).Consistent where
  succeeded_iff_error := by simp [cancelled]
  succeeded_iff_exitCode := by simp [cancelled]
  succeeded_iff_processCode := by simp [cancelled, processCode, RunError.exitCode]
  cancelled_iff := by simp [cancelled]
  exitCode_iff code := by simp [cancelled]
  address error address herror haddress := by
    cases herror
    cases haddress
    rfl
  captured path hpath := by cases hpath

namespace Errand

variable {e : Errand}

theorem consistent_succeeded (start stop : Moment) (output : RemoteOutput)
    (capturePath : Option String) : (e.succeeded start stop output capturePath).Consistent where
  succeeded_iff_error := by simp [succeeded]
  succeeded_iff_exitCode := by simp [succeeded]
  succeeded_iff_processCode := by simp [succeeded, RunResult.processCode, RunResult.succeeded]
  cancelled_iff := by simp [succeeded]
  exitCode_iff code := by simp [succeeded, eq_comm]
  address error address herror := by cases herror
  captured path _ file reason herror := by cases herror

/-- A failure is consistent if its error fits. -/
theorem consistent_failed (start stop : Moment) {error : RunError} (output : Option RemoteOutput)
    {capturePath : Option String}
    (haddress : ∀ address, error.address? = some address → address = e.target.address)
    (hcode : ∀ address tail, error ≠ .remoteExecution address 0 tail)
    (hlive : ∀ address, error ≠ .cancelled address)
    (hcaptured : ∀ path, capturePath = some path → ∀ file reason, error ≠ .capture file reason) :
    (e.failed start stop error output capturePath).Consistent where
  succeeded_iff_error := by simp [failed]
  succeeded_iff_exitCode := by
    cases error with
    | remoteExecution address code tail =>
      have hne : code ≠ 0 := fun hzero => hcode address tail (by rw [hzero])
      simp [failed, hne]
    | _ => simp [failed]
  succeeded_iff_processCode := by simp [failed, RunResult.processCode, error.exitCode_ne_zero]
  cancelled_iff := by simp [failed, hlive]
  exitCode_iff code := by
    cases error with
    | remoteExecution address code' tail =>
      have hne : code' ≠ 0 := fun hzero => hcode address tail (by rw [hzero])
      simp only [failed, Option.some.injEq, RunError.remoteExecution.injEq, exists_and_left,
        exists_eq', and_true]
      constructor
      · rintro ⟨hcode, _⟩
        exact ⟨address, rfl, hcode⟩
      · rintro ⟨_, _, hcode⟩
        exact ⟨hcode, hcode ▸ hne⟩
    | _ => simp [failed]
  address found address herror hnamed := by
    cases herror
    exact haddress address hnamed
  captured path hpath file reason herror :=
    hcaptured path hpath file reason (Option.some.inj herror)

/-- A failure of the session names the target, and leaves a capture file that was kept. -/
theorem consistent_lost (start stop : Moment) (error : SessionError) (output : Option RemoteOutput)
    (capturePath : Option String) :
    (e.failed start stop (e.connectionError error) output capturePath).Consistent := by
  refine consistent_failed start stop output ?_ nofun nofun nofun
  intro address haddress
  cases haddress
  rfl

/-- A failure of the capture file. -/
theorem consistent_uncaptured (start stop : Moment) (path reason : String)
    (output : Option RemoteOutput) :
    (e.failed start stop (.capture path reason) output none).Consistent :=
  consistent_failed start stop output nofun nofun nofun nofun

/-- The result of a command that is over is consistent, if an error that comes of the capture file
says so. -/
theorem consistent_resultOf (start stop : Moment) {capture : Except RunError (Option String)}
    (hcapture : ∀ error, capture = .error error → ∃ path reason, error = .capture path reason)
    (ending : Except SessionError CommandOutcome) :
    (e.resultOf start stop capture ending).Consistent := by
  cases ending with
  | error error => exact consistent_lost start stop error _ _
  | ok outcome =>
    cases capture with
    | error error =>
      obtain ⟨path, reason, rfl⟩ := hcapture error rfl
      exact consistent_uncaptured start stop path reason _
    | ok path =>
      simp only [resultOf]
      split
      · exact consistent_succeeded start stop outcome.output path
      · next hfailed =>
        have hcode : outcome.exitCode ≠ 0 := by simpa [CommandOutcome.success] using hfailed
        refine consistent_failed start stop _ ?_ ?_ nofun nofun
        · intro address haddress
          cases haddress
          rfl
        · intro address tail herror
          exact hcode (RunError.remoteExecution.inj herror).2.1

end Errand

/-! ## Errands -/

namespace Errand

/-- The output of a command that ended. -/
def outputOf? (ending : Except SessionError CommandOutcome) : Option RemoteOutput :=
  Transcript.output? { ending }

/-- A capture is one of the job's file. -/
def Owns {File : Type} (e : Errand) (capture : Option (Capture File)) : Prop :=
  ∀ held, capture = some held → e.job.capture = .file held.path

theorem owns_none {File : Type} (e : Errand) : e.Owns (none : Option (Capture File)) := nofun

/-- A result that an errand can have when its command has ended as is listed. -/
structure Yields (e : Errand) (endings : List (Except SessionError CommandOutcome))
    (r : RunResult) : Prop where
  consistent : r.Consistent
  capturePath : ∀ path, r.capturePath = some path → e.job.capture = .file path
  once : endings.length ≤ 1
  output : r.output = endings.head?.bind outputOf?

/-- Output comes with an outcome, or with a connection that was lost. -/
theorem outputOf?_head?_iff {endings : List (Except SessionError CommandOutcome)}
    (h : endings.length ≤ 1) {output : RemoteOutput} :
    endings.head?.bind outputOf? = some output ↔
      (∃ outcome, .ok outcome ∈ endings ∧ outcome.output = output) ∨
        ∃ address reason, .error (.transport address reason output) ∈ endings := by
  match endings, h with
  | [], _ => simp
  | [.ok outcome], _ => simp [outputOf?, Transcript.output?]
  | [.error error], _ =>
    cases error <;> simp [outputOf?, Transcript.output?, SessionError.output?, eq_comm]

end Errand

namespace Stage

variable {Net Session Desk File : Type}

/-- What the command ends with, if that is seen with the next step. -/
def ending? : Stage Session File → Option (Except SessionError CommandOutcome)
  | .listening _ _ _ ⟨_, [], ending⟩ => some ending
  | _ => none

/-- A stage that an errand can be at when its command has ended as is listed. -/
def Accords (e : Errand) (endings : List (Except SessionError CommandOutcome)) :
    Stage Session File → Prop
  | .ready _ _ capture | .listening _ _ capture _ => endings = [] ∧ e.Owns capture
  | .closing _ _ (.ran capture ending) | .settling _ (.ran capture ending) =>
    endings = [ending] ∧ e.Owns capture
  | .done result => e.Yields endings result
  | _ => endings = []

end Stage

section Steps

variable {Net Session Desk File : Type} {c : Connector Net Session} {ws : Workstation Desk File}
  {e : Errand}

theorem Capture.path_take (held : Capture File) (chunk : Chunk) (desk : Desk) :
    (held.take ws chunk desk).1.path = held.path := by
  unfold take
  split
  · rfl
  · rfl
  · split <;> rfl

/-- A chunk is added to the capture that there is. -/
theorem Errand.Owns.hear {capture : Option (Capture File)} (h : e.Owns capture) (chunk : Chunk)
    (desk : Desk) : e.Owns (e.hear ws chunk capture desk).1 := by
  cases capture with
  | none => exact owns_none e
  | some held =>
    intro held' hheld'
    cases hheld'
    exact (h held rfl).trans (congrArg CapturePolicy.file (held.path_take chunk _).symm)

/-- Completing a capture gives its path, or an error about it. -/
theorem Capture.finish_answer (ws : Workstation Desk File) (held : Capture File) (desk : Desk) :
    (held.finish ws desk).1 = .ok held.path ∨
      ∃ reason, (held.finish ws desk).1 = .error (.capture held.path reason) := by
  unfold finish
  split
  · exact .inr ⟨_, rfl⟩
  · split
    · exact .inr ⟨_, rfl⟩
    · exact .inl rfl

/-- What is settled is a result of the errand. -/
theorem Errand.yields_settle {start : Moment} {capture : Option (Capture File)}
    {ending : Except SessionError CommandOutcome} (h : e.Owns capture) (w : World Net Desk) :
    (e.settle ws start (.ran capture ending) w : Stage Session File × World Net Desk).1.Accords e
      [ending] := by
  cases capture with
  | none =>
    refine ⟨consistent_resultOf start _ (by simp) ending, ?_, Nat.le_refl 1,
      output_resultOf start _ _ { ending }⟩
    intro path hpath
    cases eq_ok_of_capturePath_resultOf hpath
  | some held =>
    rcases hfinish : held.finish ws w.desk with ⟨answer, desk⟩
    have hanswer := Capture.finish_answer ws held w.desk
    rw [hfinish] at hanswer
    simp only [settle, hfinish]
    refine ⟨consistent_resultOf start _ ?_ ending, ?_, Nat.le_refl 1,
      output_resultOf start _ _ { ending }⟩
    · intro error herror
      rcases hanswer with rfl | ⟨reason, rfl⟩
      · cases herror
      · cases herror
        exact ⟨held.path, reason, rfl⟩
    · intro path hpath
      have hok := eq_ok_of_capturePath_resultOf hpath
      rcases hanswer with rfl | ⟨reason, rfl⟩
      · cases hok
        exact h held rfl
      · cases hok

/-- A step goes on to a stage that the errand can be at, with what is seen by it. -/
theorem Stage.Accords.advance {endings : List (Except SessionError CommandOutcome)}
    {stage stage' : Stage Session File} {w w' : World Net Desk} (h : stage.Accords e endings)
    (hadvance : stage.advance c ws e w = (stage', w')) :
    stage'.Accords e (endings ++ stage.ending?.toList) := by
  cases stage with
  | waiting =>
    cases hadvance
    simpa [Accords, ending?] using h
  | connecting start =>
    obtain rfl : endings = [] := h
    simp only [Stage.advance, Errand.connect] at hadvance
    split at hadvance
    · cases hadvance
      rfl
    · cases hadvance
      rfl
    · cases hadvance
      refine ⟨Errand.consistent_lost start _ _ none none, ?_, Nat.zero_le 1, rfl⟩
      intro path hpath
      cases hpath
  | connected start session =>
    obtain rfl : endings = [] := h
    simp only [Stage.advance, Errand.openCapture] at hadvance
    split at hadvance
    · cases hadvance
      exact ⟨rfl, e.owns_none⟩
    · next path hcapture =>
      rcases hcreate : ws.create path w.desk with ⟨_ | file, desk⟩ <;>
        rw [Capture.create, hcreate] at hadvance <;> cases hadvance
      · rfl
      · refine ⟨rfl, ?_⟩
        intro held hheld
        cases hheld
        exact hcapture
  | ready start session capture =>
    cases hadvance
    simpa [Accords, ending?] using h
  | listening start session capture transcript =>
    obtain ⟨rfl, howns⟩ := h
    obtain ⟨delayMs, chunks, ending⟩ := transcript
    cases chunks with
    | nil =>
      cases hadvance
      exact ⟨rfl, howns⟩
    | cons chunk chunks =>
      cases hadvance
      exact ⟨rfl, howns.hear chunk w.desk⟩
  | closing start session aftermath =>
    cases hadvance
    cases aftermath <;> simpa [Accords, ending?] using h
  | settling start aftermath =>
    cases aftermath with
    | uncaptured path error =>
      obtain rfl : endings = [] := h
      cases hadvance
      refine ⟨Errand.consistent_uncaptured start _ path _ none, ?_, Nat.zero_le 1, rfl⟩
      intro kept hkept
      cases hkept
    | ran capture ending =>
      obtain ⟨rfl, howns⟩ := h
      have hsettled : (e.settle ws start (.ran capture ending) w : Stage Session File × _).1.Accords
          e [ending] := Errand.yields_settle howns w
      simp only [Stage.advance] at hadvance
      rw [hadvance] at hsettled
      simpa [ending?] using hsettled
  | done result =>
    cases hadvance
    simpa [Accords, ending?] using h
  | dead =>
    cases hadvance
    simpa [Accords, ending?] using h

end Steps

end RemoteFleet
