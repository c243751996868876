import Mathlib.Tactic.TFAE
import RemoteFleet.Program
import RemoteFleet.Proofs.Config.Resolution
import RemoteFleet.Proofs.Fleet.Places
import RemoteFleet.Proofs.Fleet.Schedule

/-!
# What the exit status says

A result counts as a success by its status, and its code comes from its error.  Nothing makes the
two agree.  So the code of a report is 0 only because no result failed, and the code of a failed
result is never 0 (`RunResult.processCode_ne_zero`), whatever stands in its other fields.

* `FleetReport.exitCode_eq_zero_iff`, `processExitCode_eq_zero_iff`: no failure is lost on the way
  from the results to the code, nor from the code to the exit status.
* `FleetReport.exists_firstFailure`: the code is that of the first failure.
* `answer_of_takes`, `answer_of_not_takes`: the program exits with the code that what came of a run
  asks for if the console takes what is said about it, and else with that of an error.
* `exists_performed`: a request to run something plays a fleet's run to its end, and the program
  answers what came of that.
* `Program.exit_status`: so this is what the program exits with, for whatever comes of a run.
-/

namespace RemoteFleet

/-! ## Codes -/

theorem processExitCode_eq_zero_iff {code : Int32} : processExitCode code = 0 ↔ code = 0 := by
  rw [processExitCode]
  split
  · next hzero => simp [hzero]
  · next hzero =>
    -- Nothing from 1 to 255 is cut down to the byte 0.
    have hbyte : code.toInt.toNat.toUInt8 = 0 → ¬(1 ≤ code ∧ code ≤ 255) := by
      rintro hbyte ⟨hlow, hhigh⟩
      have hlow : 1 ≤ code.toInt := Int32.le_iff_toInt_le.1 hlow
      have hhigh : code.toInt ≤ 255 := Int32.le_iff_toInt_le.1 hhigh
      have hmod : code.toInt.toNat % 256 = 0 := congrArg UInt8.toNat hbyte
      omega
    split
    · next hrange => exact ⟨fun h => absurd hrange (hbyte h), fun h => absurd h hzero⟩
    · simp [hzero]

theorem RunResult.processCode_ne_zero {r : RunResult} (h : r.status ≠ .succeeded) :
    r.processCode ≠ 0 := by
  rw [processCode]
  split
  · next e _ => exact e.exitCode_ne_zero
  · have hfailed : r.succeeded = false := decide_eq_false h
    rw [hfailed]
    decide

namespace FleetReport

variable {report : FleetReport}

theorem allSucceeded_iff :
    report.allSucceeded = true ↔ ∀ r ∈ report.results, r.status = .succeeded := by
  simp [allSucceeded, RunResult.succeeded]

theorem firstFailure?_eq_none_iff :
    report.firstFailure? = none ↔ ∀ r ∈ report.results, r.status = .succeeded := by
  simp [firstFailure?, RunResult.succeeded]

theorem failedCount_eq_zero_iff :
    report.failedCount = 0 ↔ ∀ r ∈ report.results, r.status = .succeeded := by
  simp [failedCount, RunResult.succeeded]

/-- The code is that of the first failure, workers before the leader. -/
theorem exists_firstFailure (h : ¬∀ r ∈ report.results, r.status = .succeeded) :
    ∃ before r after, report.workers ++ report.leader.toList = before ++ r :: after ∧
      (∀ r' ∈ before, r'.status = .succeeded) ∧ r.status ≠ .succeeded ∧
      report.exitCode = r.processCode ∧ r.processCode ≠ 0 := by
  rw [← firstFailure?_eq_none_iff] at h
  obtain ⟨r, hr⟩ := Option.ne_none_iff_exists'.1 h
  obtain ⟨hstatus, before, after, hresults, hbefore⟩ := List.find?_eq_some_iff_append.1 hr
  have hfailed : r.status ≠ .succeeded := by
    simpa [RunResult.succeeded] using hstatus
  refine ⟨before, r, after, hresults, fun r' hr' => ?_, hfailed, ?_,
    RunResult.processCode_ne_zero hfailed⟩
  · simpa [RunResult.succeeded] using hbefore r' hr'
  · rw [exitCode, hr]

theorem exitCode_eq_zero_iff :
    report.exitCode = 0 ↔ ∀ r ∈ report.results, r.status = .succeeded := by
  constructor
  · intro hzero
    by_contra h
    obtain ⟨_, r, _, _, _, _, hcode, hne⟩ := exists_firstFailure h
    exact hne (hcode.symm.trans hzero)
  · intro h
    rw [exitCode, firstFailure?_eq_none_iff.2 h]

/-- The ways to ask a report whether everything succeeded all give the same answer. -/
theorem success_tfae (report : FleetReport) :
    [report.exitCode = 0, processExitCode report.exitCode = 0, report.failedCount = 0,
      report.firstFailure? = none, report.allSucceeded = true,
      ∀ r ∈ report.results, r.status = .succeeded].TFAE := by
  tfae_have 1 ↔ 6 := exitCode_eq_zero_iff
  tfae_have 2 ↔ 1 := processExitCode_eq_zero_iff
  tfae_have 3 ↔ 6 := failedCount_eq_zero_iff
  tfae_have 4 ↔ 6 := firstFailure?_eq_none_iff
  tfae_have 5 ↔ 6 := allSucceeded_iff
  tfae_finish

end FleetReport

/-- A leader's failure that counts for the whole run is among the results. -/
theorem FleetRun.failed_of_leaderFailed {Net Session Desk File : Type} {o : FleetOrders}
    {s : FleetRun Net Session Desk File} {report : FleetReport}
    (h : s.outcome o = .error (.leaderFailed report)) :
    ¬∀ r ∈ report.results, r.status = .succeeded := by
  rw [outcome] at h
  split at h
  · cases h
  · split at h
    · next hfatal =>
      cases h
      obtain ⟨_, hleader⟩ := Bool.and_eq_true_iff.1 hfatal
      obtain ⟨leader, hsome, hstatus⟩ := (Option.any_eq_true _ _).1 hleader
      intro hall
      have hmem : leader ∈ report.results :=
        List.mem_append_right _ (Option.mem_toList.2 hsome)
      have hfailed : leader.status = .failed := of_decide_eq_true hstatus
      rw [hall leader hmem] at hfailed
      cases hfailed
    · cases h

/-- The code that what comes of a run asks for. -/
def outcomeCode : Except FleetFailure FleetReport → Int32
  | .ok report => report.exitCode
  | .error failure => failure.exitCode

namespace Program

variable {Net Session Desk File : Type} (p : Program Net Session Desk File)

/-! ## Writing to the console -/

/-- Whether the console takes a text. -/
def Takes (stream : OutputStream) (text : String) (desk : Desk) : Prop :=
  (p.workstation.print ⟨stream, Text.encode text⟩ desk).1 = none

/-- Whether the console takes a report, and after it what is said about the leader. -/
def TakesAll (options : RunOptions) (report : FleetReport) (desk : Desk) : Prop :=
  p.Takes .stdout (reportText options report) desk ∧
    ∀ leader, report.leader = some leader → p.Takes .stderr (leader.describe ++ "\n")
      (p.workstation.print ⟨.stdout, Text.encode (reportText options report)⟩ desk).2

variable {p} {options : RunOptions} {report : FleetReport} {world : World Net Desk}
  {next : World Net Desk → Int32 × World Net Desk} {stream : OutputStream} {text : String}

theorem print_of_takes (h : p.Takes stream text world.desk) :
    p.print stream text world next = next
      { world with desk := (p.workstation.print ⟨stream, Text.encode text⟩ world.desk).2 } := by
  rw [Takes] at h
  rw [print]
  split
  · next desk hprint => rw [hprint]
  · next e desk hprint =>
    rw [hprint] at h
    cases h

/-- A text that the console does not take ends the program with an error. -/
theorem print_of_not_takes (h : ¬p.Takes stream text world.desk) :
    (p.print stream text world next).1 = 1 := by
  rw [Takes] at h
  rw [print]
  split
  · next desk hprint =>
    rw [hprint] at h
    exact absurd rfl h
  · rfl

theorem print_ne_zero (h : ∀ w, (next w).1 ≠ 0) : (p.print stream text world next).1 ≠ 0 := by
  by_cases htakes : p.Takes stream text world.desk
  · rw [print_of_takes htakes]
    exact h _
  · rw [print_of_not_takes htakes]
    decide

theorem conclude_eq_zero_iff :
    (p.conclude options report false world).1 = 0 ↔
      report.exitCode = 0 ∧ p.Takes .stdout (reportText options report) world.desk := by
  by_cases htakes : p.Takes .stdout (reportText options report) world.desk
  · rw [conclude, print_of_takes htakes]
    exact (and_iff_left htakes).symm
  · rw [conclude, print_of_not_takes htakes]
    exact ⟨fun h => absurd h (by decide), fun h => absurd h.2 htakes⟩

/-- A failure stays one, whatever becomes of the console. -/
theorem conclude_ne_zero (h : report.exitCode ≠ 0) (leaderFailed : Bool) :
    (p.conclude options report leaderFailed world).1 ≠ 0 := by
  rw [conclude]
  refine print_ne_zero fun w => ?_
  split
  · exact print_ne_zero fun w => h
  · exact h

theorem conclude_of_takesAll (h : p.TakesAll options report world.desk) :
    (p.conclude options report true world).1 = report.exitCode := by
  obtain ⟨hreport, hleader⟩ := h
  rw [conclude, print_of_takes hreport]
  split
  · next leader _ hsome => rw [print_of_takes (hleader leader hsome)]
  · rfl

/-! ## Answers -/

variable (p) in
/-- Whether the console takes all that is said about what comes of a run. -/
def TakesAnswer (options : RunOptions) (outcome : Except FleetFailure FleetReport) (desk : Desk) :
    Prop :=
  match outcome with
  | .ok report => p.Takes .stdout (reportText options report) desk
  | .error (.leaderFailed report) => p.TakesAll options report desk
  | .error (.config _) | .error .crashed => True

variable {outcome : Except FleetFailure FleetReport}

theorem answer_of_takes (h : p.TakesAnswer options outcome world.desk) :
    (p.answer options outcome world).1 = outcomeCode outcome := by
  cases outcome with
  | ok report => rw [answer, conclude, print_of_takes h, outcomeCode]
  | error failure =>
    cases failure with
    | leaderFailed report => exact conclude_of_takesAll h
    | config e => rfl
    | crashed => rfl

variable {o : FleetOrders} {s : FleetRun Net Session Desk File}

theorem answer_eq_zero_iff :
    (p.answer options (s.outcome o) world).1 = 0 ↔
      ∃ report, (s.outcome o = .ok report ∨ s.outcome o = .error (.leaderFailed report)) ∧
        (∀ r ∈ report.results, r.status = .succeeded) ∧
        p.Takes .stdout (reportText options report) world.desk := by
  cases houtcome : s.outcome o with
  | ok report =>
    simp only [answer, conclude_eq_zero_iff, FleetReport.exitCode_eq_zero_iff]
    simp
  | error failure =>
    cases failure with
    | config e => exact absurd houtcome (s.outcome_ne_config o e)
    | crashed => simp [answer, FleetFailure.exitCode]
    | leaderFailed report =>
      have hfailed := FleetRun.failed_of_leaderFailed houtcome
      have hcode : report.exitCode ≠ 0 := mt FleetReport.exitCode_eq_zero_iff.1 hfailed
      simp only [answer, conclude_ne_zero hcode, false_iff]
      rintro ⟨report', hreport, hall, _⟩
      rcases hreport with hreport | hreport
      · cases hreport
      · cases hreport
        exact hfailed hall

theorem processExitCode_answer_of_leaderFailed (h : s.outcome o = .error (.leaderFailed report))
    (htakes : p.TakesAll options report world.desk) :
    processExitCode (p.answer options (s.outcome o) world).1
      = processExitCode (FleetFailure.leaderFailed report).exitCode := by
  rw [h]
  exact congrArg processExitCode (answer_of_takes htakes)

/-! ## Requests to run something -/

/-- What the program reads can be run. -/
theorem validate_of_load {read : TextReader} {inv : Invocation}
    (h : options.load read = .ok inv) : inv.plan.validate inv.roster = .ok () := by
  rw [RunOptions.load, Text.bind_eq_ok_iff] at h
  obtain ⟨f, _, hresolve⟩ := h
  exact (RunOptions.checked_of_resolve hresolve).1

/-- The state in which the run of an invocation begins. -/
def begin (p : Program Net Session Desk File) (inv : Invocation) (o : FleetOrders)
    (world : World Net Desk) : FleetRun Net Session Desk File :=
  .initial o flags (p.note (.rosterLoaded inv.roster.size inv.credentials.user inv.plan.selection)
    world) none

/-- What a request to run an invocation does: the fleet's run is played to its end, and the program
answers what came of that. -/
structure Performed (p : Program Net Session Desk File) (request : Request) (env : Surroundings)
    (inv : Invocation) (world : World Net Desk) (o : FleetOrders) (events : List FleetEvent)
    (s : FleetRun Net Session Desk File) : Prop where
  orders : (p.dispatcher inv (!request.options.quiet && !request.options.json)).orders inv.roster
    inv.plan token = .ok o
  played : FleetRun.Played (p.connector inv.ssh) p.workstation o env (p.begin inv o world) events s
  launched : p.launch request.options env inv world = (s.outcome o, s.flags, s.world)
  answered : p.perform request env world
    = (processExitCode (p.answer request.options (s.outcome o) s.world).1,
      (p.answer request.options (s.outcome o) s.world).2)

/-- What is launched is the schedule's run. -/
theorem launch_of_play {env : Surroundings} {inv : Invocation}
    (horders : (p.dispatcher inv (!options.quiet && !options.json)).orders inv.roster inv.plan token
      = .ok o)
    (hplay : (p.begin inv o world).play (p.connector inv.ssh) p.workstation o env {} = s) :
    p.launch options env inv world = (s.outcome o, s.flags, s.world) := by
  have horders' : (p.dispatcher inv (!options.quiet && !options.json)).orders inv.roster inv.plan
      (p.dispatcher inv (!options.quiet && !options.json)).token = .ok o := horders
  rw [launch, Dispatcher.run, horders', ← hplay]
  rfl

theorem performed_of_play {request : Request} (hrun : request.subcommand = .run)
    {env : Surroundings} {inv : Invocation}
    (hload : request.options.load (p.read world.desk) = .ok inv)
    (horders : (p.dispatcher inv (!request.options.quiet && !request.options.json)).orders
      inv.roster inv.plan token = .ok o)
    (hplay : (p.begin inv o world).play (p.connector inv.ssh) p.workstation o env {} = s)
    {events : List FleetEvent}
    (hplayed : FleetRun.Played (p.connector inv.ssh) p.workstation o env (p.begin inv o world)
      events s) :
    p.Performed request env inv world o events s := by
  have hlaunched := launch_of_play horders hplay
  refine ⟨horders, hplayed, hlaunched, ?_⟩
  simp only [perform, hrun, run, hload, hlaunched]

theorem exists_orders_of_load {inv : Invocation} (echo : Bool)
    (h : options.load (p.read world.desk) = .ok inv) :
    ∃ o, (p.dispatcher inv echo).orders inv.roster inv.plan token = .ok o :=
  (p.dispatcher inv echo).exists_orders_of_validate (validate_of_load h) token

/-- A request to run something with settings that are in order is performed. -/
theorem exists_performed {request : Request} (hrun : request.subcommand = .run)
    (env : Surroundings) {inv : Invocation}
    (hload : request.options.load (p.read world.desk) = .ok inv) :
    ∃ o events s, p.Performed request env inv world o events s := by
  obtain ⟨o, horders⟩ := exists_orders_of_load (!request.options.quiet && !request.options.json)
    hload
  obtain ⟨events, hplayed⟩ := (FleetRun.paced_begin (p.begin inv o world)).exists_played
    (c := p.connector inv.ssh)
  exact ⟨o, events, _, performed_of_play hrun hload horders rfl hplayed⟩

/-- What comes of a launch, if the schedule ends within a number of moves. -/
def launchWithin (p : Program Net Session Desk File) (options : RunOptions) (env : Surroundings)
    (moves : Nat) (world : World Net Desk) : Option (Except FleetFailure FleetReport × Desk) :=
  (options.load (p.read world.desk)).toOption.bind fun inv =>
    ((p.dispatcher inv (!options.quiet && !options.json)).orders inv.roster inv.plan
      token).toOption.bind fun o =>
        (FleetRun.playWithin (p.connector inv.ssh) p.workstation o env moves {}
          (p.begin inv o world)).map fun s => (s.outcome o, s.world.desk)

theorem launch_of_launchWithin {env : Surroundings} {moves : Nat} {desk : Desk}
    (h : p.launchWithin options env moves world = some (outcome, desk)) :
    ∃ inv kept net, options.load (p.read world.desk) = .ok inv ∧
      p.launch options env inv world = (outcome, kept, ⟨net, desk⟩) := by
  obtain ⟨inv, hinv, horders⟩ := Option.bind_eq_some_iff.1 h
  obtain ⟨o, ho, hplay⟩ := Option.bind_eq_some_iff.1 horders
  obtain ⟨s, hs, heq⟩ := Option.map_eq_some_iff.1 hplay
  cases heq
  exact ⟨inv, s.flags, s.world.net, eq_ok_of_toOption hinv,
    launch_of_play (eq_ok_of_toOption ho) (FleetRun.play_of_playWithin hs)⟩

end Program

/-- Whatever the fields of its results, a report asks for the exit status 0 if and only if every
result succeeded, and else for that of its first failure.

So a request to run something, which plays a fleet's run to its end, exits with 0 if and only if
that came to a report of which every result succeeded and which the console took.  A configuration
error gives 2, and a leader's failure its own code if the console takes everything that is said
about it. -/
theorem Program.exit_status {Net Session Desk File : Type} (p : Program Net Session Desk File) :
    (∀ report : FleetReport,
      [report.exitCode = 0, processExitCode report.exitCode = 0, report.failedCount = 0,
        report.firstFailure? = none, report.allSucceeded = true,
        ∀ r ∈ report.results, r.status = .succeeded].TFAE ∧
      ((¬∀ r ∈ report.results, r.status = .succeeded) →
        ∃ before r after, report.workers ++ report.leader.toList = before ++ r :: after ∧
          (∀ r' ∈ before, r'.status = .succeeded) ∧ r.status ≠ .succeeded ∧
          report.exitCode = r.processCode ∧ r.processCode ≠ 0)) ∧
    (∀ (options : RunOptions) (o : FleetOrders) (s : FleetRun Net Session Desk File),
      (processExitCode (p.answer options (s.outcome o) s.world).1 = 0 ↔
        ∃ report, (s.outcome o = .ok report ∨ s.outcome o = .error (.leaderFailed report)) ∧
          (∀ r ∈ report.results, r.status = .succeeded) ∧
          p.Takes .stdout (reportText options report) s.world.desk) ∧
      ∀ report, s.outcome o = .error (.leaderFailed report) →
        p.TakesAll options report s.world.desk →
        processExitCode (p.answer options (s.outcome o) s.world).1 =
          processExitCode (FleetFailure.leaderFailed report).exitCode) ∧
    (∀ (options : RunOptions) (e : ConfigError) (world : World Net Desk),
      processExitCode (p.answer options (.error (.config e)) world).1 = 2) ∧
    ∀ (request : Request) (env : Surroundings) (world : World Net Desk),
      request.subcommand = .run →
      (∀ e, request.options.load (p.read world.desk) = .error e →
        (p.perform request env world).1 = 2) ∧
      ∀ inv, request.options.load (p.read world.desk) = .ok inv →
        ∃ o events s, p.Performed request env inv world o events s ∧
          ((p.perform request env world).1 = 0 ↔
            ∃ report, (s.outcome o = .ok report ∨ s.outcome o = .error (.leaderFailed report)) ∧
              (∀ r ∈ report.results, r.status = .succeeded) ∧
              p.Takes .stdout (reportText request.options report) s.world.desk) ∧
          (∀ e, s.outcome o ≠ .error (.config e)) ∧
          (∀ report, s.outcome o = .error (.leaderFailed report) →
            p.TakesAll request.options report s.world.desk →
            (p.perform request env world).1 =
              processExitCode (FleetFailure.leaderFailed report).exitCode) := by
  refine ⟨fun report => ⟨report.success_tfae, FleetReport.exists_firstFailure⟩, ?_, ?_, ?_⟩
  · intro options o s
    exact ⟨processExitCode_eq_zero_iff.trans answer_eq_zero_iff,
      fun _ => processExitCode_answer_of_leaderFailed⟩
  · intro options e world
    rfl
  · intro request env world hrun
    constructor
    · intro e hload
      simp only [perform, hrun, run, hload, fail]
      rfl
    · intro inv hload
      obtain ⟨o, events, s, hperformed⟩ := exists_performed hrun env hload
      refine ⟨o, events, s, hperformed, ?_⟩
      rw [hperformed.answered]
      exact ⟨processExitCode_eq_zero_iff.trans answer_eq_zero_iff, s.outcome_ne_config o,
        fun _ => processExitCode_answer_of_leaderFailed⟩

/-- A program whose hosts do what they are asked, and that can read no file. -/
def tameProgram : Program MockRecord MockSession LocalDesk FileStore.OpenFile :=
  ⟨fun _ => MockScript.connector {}, LocalDesk.workstation, fun _ _ => .error .notFound⟩

/-- A program of whose hosts one fails with a code. -/
def harshProgram : Program MockRecord MockSession LocalDesk FileStore.OpenFile :=
  { tameProgram with connector := fun _ => MockScript.connector { hosts := [("b", .exit 3 {})] } }

/-- A worker and a leader. -/
def ledOptions : RunOptions :=
  { hosts := some "1=a,2=b", select := some "1", job := some "uptime", leader := some 2,
    leaderJob := some "bench" }

/-- A roster file that is not there, a run in which everybody succeeds, one whose leader fails, and
one in which a worker dies. -/
theorem Program.exit_status_tame :
    (tameProgram.perform ⟨.run, false, { roster := some "fleet.toml" }⟩ {} ⟨{}, {}⟩).1 = 2 ∧
    (tameProgram.perform ⟨.run, false, ledOptions⟩ {} ⟨{}, {}⟩).1 = 0 ∧
    (harshProgram.perform ⟨.run, false, ledOptions⟩ {} ⟨{}, {}⟩).1 = 3 ∧
    ∃ s report, (FleetRun.initial trioOrders ⟨1, []⟩ ⟨{}, {}⟩ none).follow trioDispatcher.connector
        trioDispatcher.workstation trioOrders (trioMoves.map .move) = some s ∧
      s.outcome trioOrders = .ok report ∧
      processExitCode (tameProgram.answer {} (s.outcome trioOrders) s.world).1 = 255 ∧
      ∃ before r after, report.workers ++ report.leader.toList = before ++ r :: after ∧
        (∀ r' ∈ before, r'.status = .succeeded) ∧ r.status ≠ .succeeded ∧
        report.exitCode = r.processCode ∧ r.processCode ≠ 0 := by
  obtain ⟨hreports, hanswers, _, hperforms⟩ := tameProgram.exit_status
  have hmissing : RunOptions.load { roster := some "fleet.toml" } (tameProgram.read {}) =
      .error (.unreadable "fleet.toml" .notFound) := rfl
  have hsucceeds : (tameProgram.perform ⟨.run, false, ledOptions⟩ {} ⟨{}, {}⟩).1 = 0 := by
    have hplayed : (tameProgram.launchWithin ledOptions {} 60 ⟨{}, {}⟩).map (fun played =>
        played.1.toOption.map (·.results.map (·.status)))
        = some (some [.succeeded, .succeeded]) := by decide +kernel
    obtain ⟨⟨outcome, desk⟩, hwithin, hreports⟩ := Option.map_eq_some_iff.1 hplayed
    obtain ⟨report, hreport, hall⟩ := Option.map_eq_some_iff.1 hreports
    obtain ⟨inv, kept, net, hload, hlaunched⟩ := launch_of_launchWithin hwithin
    obtain ⟨o, events, s, hperformed, hzero, _⟩ := (hperforms ⟨.run, false, ledOptions⟩ {} ⟨{}, {}⟩
      rfl).2 inv hload
    obtain ⟨hsame, _⟩ := Prod.mk.inj (hperformed.launched.symm.trans hlaunched)
    refine hzero.2 ⟨report, .inl (hsame.trans (eq_ok_of_toOption hreport)), fun r hr => ?_, rfl⟩
    have hstatus := List.mem_map_of_mem (f := (·.status)) hr
    rw [hall] at hstatus
    simpa using hstatus
  have hfails : (harshProgram.perform ⟨.run, false, ledOptions⟩ {} ⟨{}, {}⟩).1 = 3 := by
    have hplayed : (harshProgram.launchWithin ledOptions {} 60 ⟨{}, {}⟩).map (fun played =>
        match played.1 with
        | .error (.leaderFailed report) => some report.exitCode
        | _ => none) = some (some 3) := by decide +kernel
    obtain ⟨⟨outcome, desk⟩, hwithin, hcode⟩ := Option.map_eq_some_iff.1 hplayed
    obtain ⟨inv, kept, net, hload, hlaunched⟩ := launch_of_launchWithin hwithin
    obtain ⟨_, _, _, hperforms⟩ := harshProgram.exit_status
    obtain ⟨o, events, s, hperformed, _, _, hleader⟩ := (hperforms ⟨.run, false, ledOptions⟩ {}
      ⟨{}, {}⟩ rfl).2 inv hload
    obtain ⟨hsame, _⟩ := Prod.mk.inj (hperformed.launched.symm.trans hlaunched)
    split at hcode
    · next _ report houtcome =>
      rw [hleader report (hsame.trans houtcome) ⟨rfl, fun _ _ => rfl⟩, FleetFailure.exitCode,
        Option.some.inj hcode]
      rfl
    · cases hcode
  have hrun : ((FleetRun.initial trioOrders ⟨1, []⟩ ⟨{}, {}⟩ none).follow trioDispatcher.connector
      trioDispatcher.workstation trioOrders (trioMoves.map .move)).map (fun s =>
        ((s.outcome trioOrders).toOption.isSome,
          processExitCode (tameProgram.answer {} (s.outcome trioOrders) s.world).1))
        = some (true, 255) := by rfl
  obtain ⟨s, hs, hend⟩ := Option.map_eq_some_iff.1 hrun
  obtain ⟨hsome, hstatus⟩ := Prod.mk.inj hend
  obtain ⟨report, hreport⟩ := Option.isSome_iff_exists.1 hsome
  have houtcome := eq_ok_of_toOption hreport
  refine ⟨(hperforms _ {} ⟨{}, {}⟩ rfl).1 _ hmissing, hsucceeds, hfails, s, report, hs, houtcome,
    hstatus, (hreports report).2 fun hall => ?_⟩
  have hzero := (hanswers {} trioOrders s).1.2 ⟨report, .inl houtcome, hall, rfl⟩
  rw [hstatus] at hzero
  cases hzero

end RemoteFleet
