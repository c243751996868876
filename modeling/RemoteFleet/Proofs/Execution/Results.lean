import RemoteFleet.Execution.Stage

/-!
# What an errand gives

An errand ends in a result at two of its steps only: when the session is refused, and when
everything is settled.  `Errand.Gives` lists the results that can come of an errand, and
`gives_of_advance` says that no step makes another; `died_of_advance` says that an errand ends
without a result only when the attempt to connect dies.  `RunResult.subject` is what a result says
about where it comes from, and it is that of its errand.
-/

namespace RemoteFleet

/-- The errand that a result is about: its phase, the host's index and address, and the job. -/
def RunResult.subject (r : RunResult) : Phase × UInt32 × String × String :=
  (r.phase, r.index, r.address, r.job)

namespace Errand

/-- What the results of an errand are about. -/
def subject (e : Errand) : Phase × UInt32 × String × String :=
  (e.phase, e.target.index, e.target.address, e.job.name)

/-- The results that can come of an errand. -/
inductive Gives (e : Errand) : RunResult → Prop where
  /-- The session could not be opened. -/
  | refused (start stop : Moment) (error : SessionError) :
      Gives e (e.failed start stop (e.connectionError error) none none)
  /-- The capture file could not be created. -/
  | uncaptured (start stop : Moment) (path : String) (error : FileError) :
      Gives e (e.failed start stop (.capture path error.message) none none)
  /-- The command ran. -/
  | ran (start stop : Moment) (capture : Except RunError (Option String))
      (ending : Except SessionError CommandOutcome) :
      Gives e (e.resultOf start stop capture ending)

variable {Net Session Desk File : Type} {c : Connector Net Session} {ws : Workstation Desk File}
  {e : Errand}

theorem subject_resultOf (start stop : Moment) (capture : Except RunError (Option String))
    (ending : Except SessionError CommandOutcome) :
    (e.resultOf start stop capture ending).subject = e.subject := by
  unfold resultOf
  split
  · rfl
  · split
    · rfl
    · split <;> rfl

theorem Gives.subject_eq {r : RunResult} (h : e.Gives r) : r.subject = e.subject := by
  cases h with
  | refused start stop error => rfl
  | uncaptured start stop path error => rfl
  | ran start stop capture ending => exact subject_resultOf start stop capture ending

theorem gives_of_connect {start : Moment} {w w' : World Net Desk} {r : RunResult}
    (h : e.connect c ws start w = ((.done r : Stage Session File), w')) : e.Gives r := by
  unfold connect at h
  split at h
  · cases h
  · cases h
  · cases h
    exact .refused _ _ _

theorem gives_of_settle {start : Moment} {aftermath : Aftermath File} {w w' : World Net Desk}
    {r : RunResult} (h : e.settle ws start aftermath w = ((.done r : Stage Session File), w')) :
    e.Gives r := by
  unfold settle at h
  split at h
  · cases h
    exact .uncaptured _ _ _ _
  · cases h
    exact .ran _ _ _ _
  · cases h
    exact .ran _ _ _ _

/-- A step that ends an errand gives one of its results. -/
theorem gives_of_advance {stage : Stage Session File} {w w' : World Net Desk} {r : RunResult}
    (hgoes : stage.isOver = false) (h : stage.advance c ws e w = (.done r, w')) : e.Gives r := by
  cases stage with
  | waiting => cases h
  | connecting start => exact gives_of_connect h
  | connected start session =>
    simp only [Stage.advance, openCapture] at h
    split at h
    · cases h
    · split at h <;> cases h
  | ready start session capture => cases h
  | listening start session capture transcript =>
    simp only [Stage.advance, listen] at h
    split at h <;> cases h
  | closing start session aftermath => cases h
  | settling start aftermath => exact gives_of_settle h
  | done result => cases hgoes
  | dead => cases hgoes

/-- An errand dies only with its attempt to connect. -/
theorem died_of_advance {stage : Stage Session File} {w w' : World Net Desk}
    (hgoes : stage.isOver = false) (h : stage.advance c ws e w = (.dead, w')) :
    (c.connect e.target w.net).1 = .died := by
  cases stage with
  | waiting => cases h
  | connecting start =>
    simp only [Stage.advance, connect] at h
    split at h
    · cases h
    · next hconnect => rw [hconnect]
    · cases h
  | connected start session =>
    simp only [Stage.advance, openCapture] at h
    split at h
    · cases h
    · split at h <;> cases h
  | ready start session capture => cases h
  | listening start session capture transcript =>
    simp only [Stage.advance, listen] at h
    split at h <;> cases h
  | closing start session aftermath => cases h
  | settling start aftermath =>
    simp only [Stage.advance, settle] at h
    split at h <;> cases h
  | done result => cases hgoes
  | dead => cases hgoes

end Errand

end RemoteFleet
