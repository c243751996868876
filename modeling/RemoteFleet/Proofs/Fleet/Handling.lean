import RemoteFleet.Proofs.Fleet.Leading

/-!
# What becomes of a session

A session is opened, one command is run in it, and it is closed.  `handled` lists what an actor does
about its session in the course of events; an attempt to connect that fails opens none and is not
listed.  What has been done is read off the stage of the errand (`Stage.Handled`), and once there is
a result the list is complete (`Errand.Handles`): nothing was opened, or the session had its command
and was closed (`Errand.wholeSession`), or it was closed without a command because the capture file
could not be created.

So whoever has opened a session by some moment has done with it by the end of the run, whatever else
happens in between (`handled_of_isOver`).
-/

namespace RemoteFleet

variable {Net Session Desk File : Type}

/-! ## Errands -/

namespace Errand

/-- The calls about a session from its opening to its closing. -/
def wholeSession (e : Errand) : List SessionCall :=
  [.connect e.target, .run e.target e.command, .close e.target]

/-- The calls about a session that was given up because there was no capture file. -/
def emptySession (e : Errand) : List SessionCall := [.connect e.target, .close e.target]

/-- The result says that the capture file of the job could not be kept. -/
def LacksCapture (e : Errand) (r : RunResult) : Prop :=
  ∃ path reason, e.job.capture = .file path ∧ r.error = some (.capture path reason)

/-- An errand that made these calls about its session can have this result. -/
def Handles (e : Errand) (calls : List SessionCall) (r : RunResult) : Prop :=
  calls = [] ∨ calls = e.wholeSession ∨ calls = e.emptySession ∧ e.LacksCapture r

end Errand

namespace Stage

/-- The call about a session that the next step makes.  Connecting is one if it succeeds. -/
def handles? (c : Connector Net Session) (e : Errand) (w : World Net Desk) :
    Stage Session File → Option SessionCall
  | .connecting _ =>
    match (c.connect e.target w.net).1 with
    | .opened _ => some (.connect e.target)
    | _ => none
  | stage => stage.call? e

/-- An errand that made these calls about its session can be at this stage. -/
def Handled (e : Errand) (calls : List SessionCall) : Stage Session File → Prop
  | .waiting | .connecting _ | .dead => calls = []
  | .connected _ _ | .ready _ _ _ => calls = [.connect e.target]
  | .listening _ _ _ _ | .closing _ _ (.ran _ _) =>
    calls = [.connect e.target, .run e.target e.command]
  | .closing _ _ (.uncaptured path _) =>
    calls = [.connect e.target] ∧ e.job.capture = .file path
  | .settling _ (.ran _ _) => calls = e.wholeSession
  | .settling _ (.uncaptured path _) => calls = e.emptySession ∧ e.job.capture = .file path
  | .done r => e.Handles calls r

/-- A step goes on to a stage that the errand can be at, with the call that it makes. -/
theorem Handled.advance {c : Connector Net Session} {ws : Workstation Desk File} {e : Errand}
    {calls : List SessionCall} {stage stage' : Stage Session File} {w w' : World Net Desk}
    (h : stage.Handled e calls) (hadvance : stage.advance c ws e w = (stage', w')) :
    stage'.Handled e (calls ++ (stage.handles? c e w).toList) := by
  cases stage with
  | waiting =>
    cases hadvance
    obtain rfl : calls = [] := h
    rfl
  | connecting start =>
    obtain rfl : calls = [] := h
    simp only [Stage.advance, Errand.connect] at hadvance
    rcases hattempt : c.connect e.target w.net with ⟨session | error | _, net⟩ <;>
      rw [hattempt] at hadvance <;> cases hadvance <;> simp only [handles?, hattempt]
    · rfl
    · exact .inl rfl
    · rfl
  | connected start session =>
    obtain rfl : calls = [.connect e.target] := h
    simp only [Stage.advance, Errand.openCapture] at hadvance
    split at hadvance
    · cases hadvance
      rfl
    · next path hcapture =>
      rcases hcreate : Capture.create ws path w.desk with ⟨error | capture, desk⟩ <;>
        rw [hcreate] at hadvance <;> cases hadvance
      · exact ⟨rfl, hcapture⟩
      · rfl
  | ready start session capture =>
    obtain rfl : calls = [.connect e.target] := h
    cases hadvance
    rfl
  | listening start session capture transcript =>
    obtain rfl : calls = [.connect e.target, .run e.target e.command] := h
    simp only [Stage.advance, Errand.listen] at hadvance
    split at hadvance <;> cases hadvance <;> rfl
  | closing start session aftermath =>
    cases hadvance
    cases aftermath with
    | uncaptured path error =>
      obtain ⟨rfl, hcapture⟩ := h
      exact ⟨rfl, hcapture⟩
    | ran capture ending =>
      obtain rfl : calls = [.connect e.target, .run e.target e.command] := h
      rfl
  | settling start aftermath =>
    rw [show (settling start aftermath : Stage Session File).handles? c e w = none from rfl,
      Option.toList_none, List.append_nil]
    cases aftermath with
    | uncaptured path error =>
      obtain ⟨rfl, hcapture⟩ := h
      cases hadvance
      exact .inr (.inr ⟨rfl, path, error.message, hcapture, rfl⟩)
    | ran capture ending =>
      obtain rfl : calls = e.wholeSession := h
      cases capture <;> cases hadvance <;> exact .inr (.inl rfl)
  | done r =>
    cases hadvance
    simpa [handles?, call?] using h
  | dead =>
    cases hadvance
    obtain rfl : calls = [] := h
    rfl

end Stage

/-! ## Actors -/

/-- An actor that made these calls about its session can have come so far. -/
def Standing.Handled (o : FleetOrders) (actor : Actor) (calls : List SessionCall) :
    Standing Session File → Prop
  | .waiting => calls = []
  | .working e stage => o.errand? actor = some e ∧ stage.Handled e calls
  | .ended (some r) | .known r => calls = [] ∨ ∃ e, o.errand? actor = some e ∧ e.Handles calls r
  | .ended none => True
  | .lost => actor = .leader → calls = []

namespace FleetRun

/-- The call about its session that an actor makes with an event. -/
def handles? (actor : Actor) (c : Connector Net Session) (s : FleetRun Net Session Desk File)
    (event : FleetEvent) : Option SessionCall :=
  (s.stepOf? actor event).bind fun (e, stage) => stage.handles? c e s.world

/-- The calls about its session that an actor makes in the course of events. -/
def handled (actor : Actor) (c : Connector Net Session) (ws : Workstation Desk File)
    (o : FleetOrders) (s : FleetRun Net Session Desk File) (events : List FleetEvent) :
    List SessionCall :=
  s.observe (handles? actor c) c ws o events

variable {c : Connector Net Session} {ws : Workstation Desk File} {o : FleetOrders}
  {s : FleetRun Net Session Desk File} {events : List FleetEvent}

/-- A passage goes on to where the actor can have come. -/
theorem handled_of_passes (haccounted : Accounted s) (hunled : Unled s) {actor : Actor}
    {x y : Standing Session File} {m : FleetMove} {calls : List SessionCall}
    (hx : s.Stands actor x) (h : x.Handled o actor calls)
    (hpasses : Passes c ws o s.world actor m x y) :
    y.Handled o actor (calls ++ (s.handles? actor c (.move m)).toList) := by
  have hidle : (m.actor? = some actor → x.step? = none) →
      calls ++ (s.handles? actor c (.move m)).toList = calls := by
    intro hidle
    rw [handles?, stepOf?_of_idle haccounted hunled hx hidle]
    exact List.append_nil calls
  have hworking : ∀ e stage, x = .working e stage → m.actor? = some actor →
      s.handles? actor c (.move m) = stage.handles? c e s.world := by
    rintro e stage rfl hactor
    rw [handles?, stepOf?_of_working haccounted hunled hx hactor]
    rfl
  cases hpasses with
  | stays hstep hdie =>
    rw [hidle hstep]
    exact h
  | started _ e herrand =>
    rw [hidle fun _ => rfl]
    exact ⟨herrand, h⟩
  | withheld _ phase target job now =>
    rw [hidle fun _ => rfl]
    exact .inl h
  | advanced _ _ e stage stage' world hactor hadvance hgoes =>
    rw [hworking e stage rfl hactor]
    exact ⟨h.1, h.2.advance hadvance⟩
  | ended slot e stage stage' world hadvance hover =>
    rw [hworking e stage rfl rfl]
    have hend := h.2.advance hadvance
    cases stage' with
    | done r => exact .inr ⟨e, h.1, hend⟩
    | dead => trivial
    | _ => cases hover
  | died slot e stage => trivial
  | joined slot result =>
    rw [hidle fun _ => rfl]
    exact h
  | buried slot => exact fun hleader => by cases hleader
  | leaderDone e stage result world hadvance =>
    rw [hworking e stage rfl rfl]
    exact .inr ⟨e, h.1, h.2.advance hadvance⟩
  | leaderDied e stage world hadvance =>
    rw [hworking e stage rfl rfl]
    exact fun _ => h.2.advance hadvance

/-- Workers whose job has no capture file do not lack one. -/
theorem eq_leader_of_lacksCapture (hcapture : o.plan.job.capture = .off) {actor : Actor}
    {e : Errand} (herrand : o.errand? actor = some e) {r : RunResult} (h : e.LacksCapture r) :
    actor = .leader := by
  cases actor with
  | leader => rfl
  | worker slot =>
    obtain ⟨target, _, rfl⟩ := Option.map_eq_some_iff.1 herrand
    obtain ⟨path, _, hfile, _⟩ := h
    cases hcapture.symm.trans hfile

/-! ## Along a run -/

section Run

variable {flags : CancelFlags} {world : World Net Desk} {stream : Option ResultStream}

/-- Along a run, every actor has come as far as its calls allow. -/
theorem handled_of_follow (h : (initial o flags world stream).follow c ws o events = some s)
    {actor : Actor} {x : Standing Session File} (hx : s.Stands actor x) :
    x.Handled o actor ((initial o flags world stream).handled actor c ws o events) := by
  refine stands_induction (P := fun events actor x => x.Handled o actor
    ((initial o flags world stream).handled actor c ws o events)) h ?_ ?_ ?_ actor x hx
  · exact fun _ => rfl
  · intro before u token actor x hfollow hbefore
    rw [handled, observe_append_singleton hfollow]
    simp only [handles?, stepOf?, Option.bind_none, Option.toList_none, List.append_nil]
    exact hbefore
  · intro before u m actor x y hfollow hx hpasses hbefore
    rw [handled, observe_append_singleton hfollow]
    exact handled_of_passes (accounted_of_follow hfollow) (unled_of_follow hfollow) hx hbefore
      hpasses

/-- At the end of a run in which no task dies everybody's result is known, but for a leader that got
no answer when it called. -/
theorem exists_stands_of_isOver (hnone : (initial o flags world stream).LosesNone c ws o events)
    (h : (initial o flags world stream).follow c ws o events = some s)
    (hover : s.duty.isOver = true) {actor : Actor} {e : Errand}
    (herrand : o.errand? actor = some e) :
    (∃ r, s.result? actor = some r ∧ s.Stands actor (.known r)) ∨
      actor = .leader ∧ s.Stands actor .lost := by
  have hphase : s.duty.inWorkerPhase = false := by
    cases hduty : s.duty <;> simp_all [Duty.isOver, Duty.inWorkerPhase]
  cases actor with
  | worker slot =>
    obtain ⟨hwaiting, htasks, hended⟩ := (staffed_of_follow h).allDone hphase
    obtain ⟨target, htarget, _⟩ := Option.map_eq_some_iff.1 herrand
    have hslot : slot < s.slots.length := by
      rw [(placed_of_follow h).length_slots]
      exact (List.getElem?_eq_some_iff.1 htarget).1
    rcases (gathered_of_follow hnone h).filled slot hslot with hopen | ⟨r, hr⟩
    · simp [openPlaces, hwaiting, htasks, hended] at hopen
    · exact .inl ⟨r, by rw [result?, hr]; rfl, .known slot r hr⟩
  | leader =>
    obtain ⟨⟨target, job⟩, hleader, _⟩ := Option.map_eq_some_iff.1 herrand
    cases hduty : s.duty with
    | finished report =>
      obtain ⟨r, _, hr⟩ := exists_leader_of_report h hduty hleader
      exact .inl ⟨r, hr, .leaderKnown r hr⟩
    | crashed => exact .inr ⟨rfl, .leaderLost hduty⟩
    | _ => simp [hduty, Duty.isOver] at hover

/-- By the end of a run in which no task dies, whoever opened a session ran its command there and
closed it; or closed it, and its result says that there was no capture file. -/
theorem handled_of_isOver (hnone : (initial o flags world stream).LosesNone c ws o events)
    (h : (initial o flags world stream).follow c ws o events = some s)
    (hover : s.duty.isOver = true) {actor : Actor} {e : Errand}
    (herrand : o.errand? actor = some e)
    (hopened : (initial o flags world stream).handled actor c ws o events ≠ []) :
    (initial o flags world stream).handled actor c ws o events = e.wholeSession ∨
      (initial o flags world stream).handled actor c ws o events = e.emptySession ∧
        ∃ r, s.result? actor = some r ∧ e.LacksCapture r := by
  rcases exists_stands_of_isOver hnone h hover herrand with ⟨r, hr, hknown⟩ | ⟨rfl, hlost⟩
  · rcases handled_of_follow h hknown with hnil | ⟨e', herrand', hhandles⟩
    · exact absurd hnil hopened
    · cases herrand.symm.trans herrand'
      rcases hhandles with hnil | hwhole | ⟨hempty, hlacks⟩
      · exact absurd hnil hopened
      · exact .inl hwhole
      · exact .inr ⟨hempty, r, hr, hlacks⟩
  · exact absurd (handled_of_follow h hlost rfl) hopened

end Run

end FleetRun

end RemoteFleet
