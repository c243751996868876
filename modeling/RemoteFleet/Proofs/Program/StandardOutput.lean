import RemoteFleet.Proofs.Encoding.RoundTrip
import RemoteFleet.Proofs.Program.ExitStatus

/-!
# What a run shows on standard output

Two things write to the console: an errand that copies the output of its host, and the program when
it reports.  When the report is wanted as JSON nothing is copied, so a whole run leaves standard
output as it was (`shown_run`), whatever the hosts print, and what the program writes after it is
all there is.

What standard output has shown is a view of the desk: it grows by what is printed to it, and by
nothing else (`Workstation.Shows`).
-/

namespace RemoteFleet

variable {Net Session Desk File : Type}

/-- A view of what standard output has shown.  Printing adds a beginning of the bytes, and all of
them if no error is given; nothing else that happens on the workstation adds to it. -/
structure Workstation.Shows (ws : Workstation Desk File) (shown : Desk → Bytes) : Prop where
  create : ∀ path desk, shown (ws.create path desk).2 = shown desk
  append : ∀ file bytes desk, shown (ws.append file bytes desk).2 = shown desk
  sync : ∀ file desk, shown (ws.sync file desk).2 = shown desk
  note : ∀ event desk, shown (ws.note event desk) = shown desk
  newRunId : ∀ desk, shown (ws.newRunId desk).2 = shown desk
  stderr : ∀ bytes desk, shown (ws.print ⟨.stderr, bytes⟩ desk).2 = shown desk
  stdout : ∀ bytes desk, ∃ taken, taken <+: bytes ∧
    shown (ws.print ⟨.stdout, bytes⟩ desk).2 = shown desk ++ taken ∧
    ((ws.print ⟨.stdout, bytes⟩ desk).1 = none → taken = bytes)

/-- The console of a workstation in memory takes everything. -/
theorem LocalDesk.shows : workstation.Shows fun desk => desk.console.stdout where
  create path desk := by
    simp only [workstation, create]
    split <;> rfl
  append file bytes desk := by
    simp only [workstation, append]
    split <;> rfl
  sync file desk := rfl
  note event desk := rfl
  newRunId desk := rfl
  stderr bytes desk := rfl
  stdout bytes desk := ⟨bytes, List.prefix_refl bytes, rfl, fun _ => rfl⟩

variable {c : Connector Net Session} {ws : Workstation Desk File} {shown : Desk → Bytes}

/-! ## Errands that copy nothing -/

theorem Workstation.Shows.of_notes (h : ws.Shows shown) {desk desk' : Desk}
    (hnotes : ws.Notes desk desk') : shown desk' = shown desk := by
  rcases hnotes with rfl | ⟨event, rfl⟩
  · rfl
  · exact h.note event desk

theorem Workstation.Shows.foldl_note (h : ws.Shows shown) (notes : List LogEvent) (desk : Desk) :
    shown (notes.foldl (fun desk note => ws.note note desk) desk) = shown desk := by
  induction notes generalizing desk with
  | nil => rfl
  | cons note notes ih => exact (ih _).trans (h.note note desk)

namespace Capture

theorem shown_create (h : ws.Shows shown) (path : String) (desk : Desk) :
    shown (create ws path desk).2 = shown desk :=
  h.create path desk

theorem shown_take (h : ws.Shows shown) (chunk : Chunk) (capture : Capture File) (desk : Desk) :
    shown (capture.take ws chunk desk).2 = shown desk := by
  rw [take]
  split
  · rfl
  · rfl
  · have happend := h.append capture.file chunk.bytes desk
    split
    · next hnone => rwa [hnone] at happend
    · next hsome =>
      rw [hsome] at happend
      exact (h.note _ _).trans happend

theorem shown_release (h : ws.Shows shown) (capture : Capture File) (desk : Desk) :
    shown (capture.release ws desk).2 = shown desk := by
  rw [release]
  split
  · rfl
  · split
    · rfl
    · exact h.append capture.file capture.held desk

theorem shown_finish (h : ws.Shows shown) (capture : Capture File) (desk : Desk) :
    shown (capture.finish ws desk).2 = shown desk := by
  have hrelease := shown_release h capture desk
  rw [finish]
  split
  · next hfailed => rwa [hfailed] at hrelease
  · next released hdone =>
    rw [hdone] at hrelease
    have hsync := (h.sync capture.file released).trans hrelease
    split
    · next hfailed => rwa [hfailed] at hsync
    · next hsynced => rwa [hsynced] at hsync

end Capture

/-- An errand that does not copy its host's output leaves standard output as it was. -/
theorem Stage.shown_advance (h : ws.Shows shown) {e : Errand} (hecho : e.echo = false)
    {stage stage' : Stage Session File} {w w' : World Net Desk}
    (hadvance : stage.advance c ws e w = (stage', w')) : shown w'.desk = shown w.desk := by
  obtain rfl : (stage.advance c ws e w).2 = w' := congrArg Prod.snd hadvance
  cases stage with
  | waiting => exact h.note _ _
  | connecting start =>
    simp only [advance, Errand.connect]
    split
    · rfl
    · rfl
    · exact h.note _ _
  | connected start session =>
    simp only [advance, Errand.openCapture]
    split
    · rfl
    · next path _ =>
      have hcreate := Capture.shown_create h path w.desk
      split
      · next hok => rwa [hok] at hcreate
      · next herror => rwa [herror] at hcreate
  | ready start session capture => rfl
  | listening start session capture transcript =>
    simp only [advance, Errand.listen]
    split
    · rfl
    · next chunk chunks _ =>
      simp only [Errand.hear, hecho]
      cases capture with
      | none => rfl
      | some capture => exact Capture.shown_take h chunk capture w.desk
  | closing start session aftermath => exact h.foldl_note _ _
  | settling start aftermath =>
    cases aftermath with
    | uncaptured path error => exact h.note _ _
    | ran capture ending =>
      cases capture with
      | none => exact h.note _ _
      | some capture => exact (h.note _ _).trans (Capture.shown_finish h capture w.desk)
  | done result => rfl
  | dead => rfl

/-! ## Runs that copy nothing -/

namespace FleetRun

variable {o : FleetOrders} {s t : FleetRun Net Session Desk File} {events : List FleetEvent}

theorem shown_send (h : ws.Shows shown) {result : RunResult} (hsend : s.send ws o result = some t) :
    shown t.world.desk = shown s.world.desk := by
  unfold send at hsend
  split at hsend
  · cases hsend
    rfl
  · split at hsend
    · split at hsend
      · cases hsend
        rfl
      · cases hsend
    · split at hsend
      · cases hsend
        rfl
      · cases hsend
        exact h.note _ _

theorem shown_finish (h : ws.Shows shown) (s : FleetRun Net Session Desk File) :
    shown (s.finish ws o).world.desk = shown s.world.desk :=
  (h.note _ _).trans (h.newRunId _)

/-- No event of a run that copies nothing adds to standard output. -/
theorem shown_step (h : ws.Shows shown) (hecho : o.echo = false) (hplaced : Placed c o s)
    {event : FleetEvent} (hstep : s.step c ws o event = some t) :
    shown t.world.desk = shown s.world.desk := by
  cases event with
  | cancel token =>
    cases hstep
    rfl
  | move m =>
    have hlead : ∀ errand stage, s.duty = .lead errand stage → errand.echo = false := by
      intro errand stage hduty
      have hfits := hplaced.duty
      rw [hduty] at hfits
      obtain ⟨_, _, target, job, _, rfl⟩ := hfits
      exact hecho
    have htask : ∀ task ∈ s.tasks, task.errand.echo = false := by
      intro task hmem
      obtain ⟨_, target, _, herrand⟩ := hplaced.tasks task hmem
      rw [herrand]
      exact hecho
    cases change_of_move hstep with
    | announced now desk hduty hnotes => exact h.of_notes hnotes
    | buried slot ended desk hduty hended hnotes => exact h.of_notes hnotes
    | leaderWithheld target job now desk hduty _ _ _ _ _ hnotes => exact h.of_notes hnotes
    | sentWorker result desk flags stream hduty hsend => exact (shown_send h hsend :)
    | sentLeader result desk flags stream hduty hsend => exact (shown_send h hsend :)
    | led errand stage stage' world hduty hadvance hgoes =>
      exact Stage.shown_advance h (hlead errand stage hduty) hadvance
    | leaderDone errand stage result world hduty hadvance =>
      exact Stage.shown_advance h (hlead errand stage hduty) hadvance
    | leaderDied errand stage world hduty hadvance =>
      exact Stage.shown_advance h (hlead errand stage hduty) hadvance
    | advanced before after task stage world htasks hadvance hgoes =>
      exact Stage.shown_advance h (htask task (by simp [htasks])) hadvance
    | ended before after task stage world htasks hadvance hover =>
      exact Stage.shown_advance h (htask task (by simp [htasks])) hadvance
    | reported report desk hduty hworkers hleader hstart =>
      -- What the change says of the desk is not enough here: the report's number comes from it.
      simp only [step, move, coordinate, hduty, Option.some.injEq] at hstep
      have hsame := shown_finish (o := o) h s
      rwa [hstep] at hsame
    | _ => rfl

theorem shown_follow (h : ws.Shows shown) (hecho : o.echo = false) {flags : CancelFlags}
    {world : World Net Desk} {stream : Option ResultStream}
    (hfollow : (initial o flags world stream).follow c ws o events = some s) :
    shown s.world.desk = shown world.desk := by
  refine follow_induction (P := fun _ s => shown s.world.desk = shown world.desk) hfollow rfl ?_
  intro before u event v _ hu hstep hshown
  exact (shown_step h hecho (placed_of_follow hu) hstep).trans hshown

end FleetRun

theorem Dispatcher.shown_run {d : Dispatcher Net Session Desk File} (h : d.workstation.Shows shown)
    (hecho : d.echo = false) (env : Surroundings) (roster : HostRoster) (plan : FleetPlan)
    (flags : CancelFlags) (world : World Net Desk) :
    shown (d.run env roster plan flags world).2.2.desk = shown world.desk := by
  cases horders : d.orders roster plan d.token with
  | error e => simp only [run, horders]
  | ok o =>
    obtain ⟨events, s, hplayed, hrun⟩ := d.run_follows env flags world horders
    have hquiet : o.echo = false := by
      obtain ⟨targets, _, rfl⟩ := Text.map_eq_ok_iff.1 horders
      exact hecho
    rw [hrun]
    exact FleetRun.shown_follow h hquiet hplayed.follows

/-! ## What the program writes -/

namespace Program

variable {p : Program Net Session Desk File} {options : RunOptions} {text : String}
  {world : World Net Desk} {next : World Net Desk → Int32 × World Net Desk}

/-- What is printed on standard output is shown, or a beginning of it if the console fails. -/
theorem shown_print_stdout (h : p.workstation.Shows shown)
    (hnext : ∀ w, shown (next w).2.desk = shown w.desk) :
    ∃ taken, taken <+: Text.encode text ∧
      shown (p.print .stdout text world next).2.desk = shown world.desk ++ taken ∧
      (p.Takes .stdout text world.desk → taken = Text.encode text) := by
  obtain ⟨taken, hprefix, hshown, hall⟩ := h.stdout (Text.encode text) world.desk
  refine ⟨taken, hprefix, ?_, hall⟩
  rw [print]
  split
  · next desk hprint =>
    rw [hprint] at hshown
    exact (hnext _).trans hshown
  · next e desk hprint =>
    rw [hprint] at hshown
    exact (h.note _ _).trans hshown

theorem shown_print_stderr (h : p.workstation.Shows shown)
    (hnext : ∀ w, shown (next w).2.desk = shown w.desk) :
    shown (p.print .stderr text world next).2.desk = shown world.desk := by
  have hshown := h.stderr (Text.encode text) world.desk
  rw [print]
  split
  · next desk hprint =>
    rw [hprint] at hshown
    exact (hnext _).trans hshown
  · next e desk hprint =>
    rw [hprint] at hshown
    exact (h.note _ _).trans hshown

theorem shown_conclude (h : p.workstation.Shows shown) (report : FleetReport)
    (leaderFailed : Bool) (world : World Net Desk) :
    ∃ taken, taken <+: Text.encode (reportText options report) ∧
      shown (p.conclude options report leaderFailed world).2.desk = shown world.desk ++ taken ∧
      (p.Takes .stdout (reportText options report) world.desk →
        taken = Text.encode (reportText options report)) := by
  refine shown_print_stdout h fun w => ?_
  split
  · exact shown_print_stderr h fun _ => rfl
  · rfl

/-- The report that a run of the program comes to, and the desk on which it is written. -/
def reported? (p : Program Net Session Desk File) (options : RunOptions) (env : Surroundings)
    (world : World Net Desk) : Option (FleetReport × Desk) :=
  match options.load (p.read world.desk) with
  | .error _ => none
  | .ok inv =>
    match p.launch options env inv world with
    | (.ok report, _, world) => some (report, world.desk)
    | (.error (.leaderFailed report), _, world) => some (report, world.desk)
    | _ => none

/-- With the report as JSON, the run itself shows nothing. -/
theorem shown_launch (h : p.workstation.Shows shown) (hjson : options.json = true)
    (env : Surroundings) (inv : Invocation) (world : World Net Desk) :
    shown (p.launch options env inv world).2.2.desk = shown world.desk := by
  have hquiet : (p.dispatcher inv (!options.quiet && !options.json)).echo = false := by
    simp [dispatcher, hjson]
  exact (Dispatcher.shown_run
    (d := p.dispatcher inv (!options.quiet && !options.json)) h hquiet env inv.roster inv.plan flags
    _).trans (h.note _ _)

/-- As JSON, a report is all that a run writes on standard output, and without one it writes
nothing. -/
theorem shown_run (h : p.workstation.Shows shown) (hjson : options.json = true)
    (env : Surroundings) (world : World Net Desk) :
    (p.reported? options env world = none →
      shown (p.run options env world).2.desk = shown world.desk) ∧
    ∀ report desk, p.reported? options env world = some (report, desk) →
      ∃ taken, taken <+: Text.encode report.document ∧
        shown (p.run options env world).2.desk = shown world.desk ++ taken ∧
        (p.Takes .stdout report.document desk → taken = Text.encode report.document) := by
  have hconclude (report : FleetReport) (leaderFailed : Bool) (left : World Net Desk) :
      ∃ taken, taken <+: Text.encode report.document ∧
        shown (p.conclude options report leaderFailed left).2.desk = shown left.desk ++ taken ∧
        (p.Takes .stdout report.document left.desk → taken = Text.encode report.document) := by
    have htext : reportText options report = report.document := by rw [reportText, if_pos hjson]
    exact htext ▸ shown_conclude h report leaderFailed left
  rw [reported?, run]
  cases hload : options.load (p.read world.desk) with
  | error e => exact ⟨fun _ => h.note _ _, by simp⟩
  | ok inv =>
    have hleft := shown_launch h hjson env inv world
    simp only
    generalize p.launch options env inv world = launched at hleft ⊢
    obtain ⟨outcome, kept, left⟩ := launched
    simp only at hleft ⊢
    cases outcome with
    | ok report =>
      refine ⟨by simp, ?_⟩
      rintro _ _ ⟨⟩
      obtain ⟨taken, hprefix, hall⟩ := hconclude report false left
      rw [hleft] at hall
      exact ⟨taken, hprefix, hall⟩
    | error failure =>
      cases failure with
      | leaderFailed report =>
        refine ⟨by simp, ?_⟩
        rintro _ _ ⟨⟩
        obtain ⟨taken, hprefix, hall⟩ := hconclude report true left
        rw [hleft] at hall
        exact ⟨taken, hprefix, hall⟩
      | config e => exact ⟨fun _ => (h.note _ _).trans hleft, by simp⟩
      | crashed => exact ⟨fun _ => hleft, by simp⟩

end Program

/-! ## The data model -/

/-- A value comes back from its JSON, and from the text of that, on one line or over several. -/
def Json.ReadsBack {α : Type} (read : Json → Option α) (j : Json) (a : α) : Prop :=
  read j = some a ∧ decode? read j.compact = some a ∧ decode? read j.pretty = some a

theorem Json.Keeps.readsBack {α : Type} {read : Json → Option α} {j : Json} {a : α}
    (h : Keeps read j a) : ReadsBack read j a :=
  ⟨h.reads, h.compact, h.pretty⟩

/-- The text of a report is one JSON value, and nothing else but the end of its line. -/
theorem FleetReport.read?_document (r : FleetReport) :
    Json.read? r.document.toList = some r.toJson := by
  have hline : Json.IsSpaces ['\n'] := by
    intro c hc
    rw [List.mem_singleton.1 hc]
    rfl
  have hread := (r.keeps_toJson.readable.isText_pretty 0).read?_append hline
  simpa [document, Json.pretty] using hread

/-- Writing as JSON loses nothing but the output of commands, and what a run with the report as JSON
shows on standard output is the text of its report, whatever the hosts print.

Every value of the data model comes back from its JSON form and from its text, for all years and
all characters.  A report is written as one JSON document.  The whole of that is shown if the
console takes it, and a beginning of it if the console fails; a run that comes to no report shows
nothing. -/
theorem Program.json_reads_back (p : Program Net Session Desk File) :
    (∀ e : HostEntry, Json.ReadsBack HostEntry.ofJson? e.toJson e) ∧
    (∀ c : Credentials, Json.ReadsBack Credentials.ofJson? c.toJson c) ∧
    (∀ t : RemoteTarget, Json.ReadsBack RemoteTarget.ofJson? t.toJson t) ∧
    (∀ t : CommandTemplate, Json.ReadsBack CommandTemplate.ofJson? t.toJson t) ∧
    (∀ c : CapturePolicy, Json.ReadsBack CapturePolicy.ofJson? c.toJson c) ∧
    (∀ job : CommandJob, Json.ReadsBack CommandJob.ofJson? job.toJson job) ∧
    (∀ e : RunError, Json.ReadsBack RunError.ofJson? e.toJson e) ∧
    (∀ r : RunResult, Json.ReadsBack RunResult.ofJson? r.toJson r.withoutOutput) ∧
    (∀ r : FleetReport, Json.ReadsBack FleetReport.ofJson? r.toJson r.withoutOutput ∧
      Json.read? r.document.toList = some r.toJson ∧
      Json.decode? FleetReport.ofJson? r.document = some r.withoutOutput) ∧
    ∀ shown : Desk → Bytes, p.workstation.Shows shown →
      ∀ (request : Request) (env : Surroundings) (world : World Net Desk),
        request.subcommand = .run → request.options.json = true →
        (p.reported? request.options env world = none →
          shown (p.perform request env world).2.desk = shown world.desk) ∧
        ∀ report desk, p.reported? request.options env world = some (report, desk) →
          ∃ taken, taken <+: Text.encode report.document ∧
            shown (p.perform request env world).2.desk = shown world.desk ++ taken ∧
            (p.Takes .stdout report.document desk → taken = Text.encode report.document) := by
  refine ⟨fun e => e.keeps_toJson.readsBack, fun c => c.keeps_toJson.readsBack,
    fun t => t.keeps_toJson.readsBack, fun t => t.keeps_toJson.readsBack,
    fun c => c.keeps_toJson.readsBack, fun job => job.keeps_toJson.readsBack,
    fun e => e.keeps_toJson.readsBack, fun r => r.keeps_toJson.readsBack,
    fun r => ⟨r.keeps_toJson.readsBack, r.read?_document, ?_⟩, ?_⟩
  · rw [Json.decode?, r.read?_document]
    exact r.keeps_toJson.reads
  · intro shown hshows request env world hrun hjson
    have hperform : (p.perform request env world).2 = (p.run request.options env world).2 := by
      simp only [perform, hrun]
    rw [hperform]
    exact shown_run hshows hjson env world

/-! ### Two hosts that print something -/

/-- Two hosts, a job for both, and the report as JSON. -/
def pairOptions : RunOptions := { hosts := some "1=a,2=b", job := some "uptime", json := true }

/-- A program whose hosts print two bytes. -/
def loudProgram : Program MockRecord MockSession LocalDesk FileStore.OpenFile :=
  { tameProgram with
    connector := fun _ => MockScript.connector { default := .succeed ⟨[104, 105], []⟩ } }

/-- Both hosts print something, and standard output shows the report alone. -/
theorem Program.json_reads_back_pair :
    LocalDesk.workstation.Shows (fun desk => desk.console.stdout) ∧
    ∃ report desk, loudProgram.reported? pairOptions {} ⟨{}, {}⟩ = some (report, desk) ∧
      report.workers.map (·.output) = [some ⟨[104, 105], []⟩, some ⟨[104, 105], []⟩] ∧
      Json.decode? FleetReport.ofJson? report.document = some report.withoutOutput ∧
      (loudProgram.perform ⟨.run, false, pairOptions⟩ {} ⟨{}, {}⟩).2.desk.console.stdout
        = Text.encode report.document := by
  have hplayed : (loudProgram.launchWithin pairOptions {} 60 ⟨{}, {}⟩).map (fun played =>
      played.1.toOption.map (·.workers.map (·.output)))
      = some (some [some ⟨[104, 105], []⟩, some ⟨[104, 105], []⟩]) := by decide +kernel
  obtain ⟨⟨outcome, desk⟩, hwithin, houtcome⟩ := Option.map_eq_some_iff.1 hplayed
  obtain ⟨report, hreport, houtput⟩ := Option.map_eq_some_iff.1 houtcome
  obtain ⟨inv, kept, net, hload, hlaunched⟩ := launch_of_launchWithin hwithin
  have hreported : loudProgram.reported? pairOptions {} ⟨{}, {}⟩ = some (report, desk) := by
    have hended : outcome = .ok report := eq_ok_of_toOption hreport
    simp only [reported?, hload, hlaunched, hended]
  obtain ⟨_, _, _, _, _, _, _, _, hreports, hshown⟩ := loudProgram.json_reads_back
  obtain ⟨taken, _, hstdout, hall⟩ := (hshown _ LocalDesk.shows ⟨.run, false, pairOptions⟩ {}
    ⟨{}, {}⟩ rfl rfl).2 report desk hreported
  refine ⟨LocalDesk.shows, report, desk, hreported, houtput, (hreports report).2.2, ?_⟩
  rw [hall rfl] at hstdout
  exact hstdout

end RemoteFleet
