import RemoteFleet.Proofs.Config.Resolution
import RemoteFleet.Proofs.Execution.Lifecycle
import RemoteFleet.Proofs.Fleet.Attempts
import RemoteFleet.Proofs.Ssh.Connecting
import RemoteFleet.Workstation.Local

/-!
# Deadlines beyond the end of time

An attempt to connect is given up at a deadline: five seconds more than the time that a connection
may take, from when the master was started.  Neither the span nor the point in time has room for
every number of seconds, while a flag or a key may set any of them.

* A span that is too long leads beyond the end of time as well, so that one condition is left
  (`deadline?_eq_none_iff`).
* Where there is no deadline the attempt dies, and nowhere else (`connect_eq_died_iff`).
* No number of seconds is refused when the settings are put together
  (`RunOptions.resolve_with_seconds`).

What does not hold is that every attempt is answered.  `RunOptions.connect_answers_iff` says which
are, and what comes of it for a run if one is not: in a worker's task and in the leader's phase.
-/

namespace RemoteFleet

variable {Net Master Desk File : Type}

namespace Ssh

/-- When the master of an attempt is started, if it is. -/
def startedAt? (client : SshClient Net Master) (o : SshOptions) (target : RemoteTarget)
    (process : SshProcess Net) : Option Nat :=
  let (socket, process) := newSocket client o target process
  match client.startMaster o.program (masterArguments o target socket) process.net with
  | (.error _, _) => none
  | (.ok _, net) => some (client.nowMs net)

/-- An attempt that has no deadline, because that would be beyond the end of time. -/
def Overruns (client : SshClient Net Master) (o : SshOptions) (target : RemoteTarget)
    (process : SshProcess Net) : Prop :=
  ∃ nowMs ∈ startedAt? client o target process,
    endOfTime ≤ nowMs / 1000 + (o.connectTimeoutSecs.toNat + 5)

/-- There is no deadline exactly if it would be beyond the end of time.  A span that is too long
would lead there too. -/
theorem deadline?_eq_none_iff {o : SshOptions} {nowMs : Nat} :
    deadline? o nowMs = none ↔ endOfTime ≤ nowMs / 1000 + (o.connectTimeoutSecs.toNat + 5) := by
  have hspan : patienceSecs o = o.connectTimeoutSecs.toNat + 5 := rfl
  have hsecs : (nowMs + patienceMs o) / 1000 = nowMs / 1000 + (o.connectTimeoutSecs.toNat + 5) := by
    rw [patienceMs, hspan]
    omega
  have hroom : endOfTime ≤ endOfSpans := by decide
  unfold deadline?
  rw [hsecs, hspan]
  by_cases hlate : endOfTime ≤ nowMs / 1000 + (o.connectTimeoutSecs.toNat + 5)
  · rw [if_neg fun hfits => Nat.not_lt.2 hlate hfits.2]
    exact iff_of_true rfl hlate
  · have hfits : o.connectTimeoutSecs.toNat + 5 < endOfSpans := by omega
    rw [if_pos ⟨hfits, Nat.lt_of_not_le hlate⟩]
    exact iff_of_false (Option.some_ne_none _) hlate

variable {client : SshClient Net Master} {o : SshOptions} {target : RemoteTarget}
  {process : SshProcess Net}

theorem connect_eq_died_iff :
    (connect client o target process).1 = .died ↔ Overruns client o target process := by
  rcases hsocket : newSocket client o target process with ⟨socket, fresh⟩
  rw [connect_of_newSocket hsocket]
  rcases hstart : client.startMaster o.program (masterArguments o target socket) fresh.net with
    ⟨error | master, started⟩
  · simp [openSession, Overruns, startedAt?, hsocket, hstart]
  · have hovers : Overruns client o target process ↔
        deadline? o (client.nowMs started) = none := by
      rw [deadline?_eq_none_iff]
      simp [Overruns, startedAt?, hsocket, hstart]
    rw [hovers]
    cases hdeadline : deadline? o (client.nowMs started) with
    | none => simp [openSession, hstart, hdeadline]
    | some deadline =>
      rw [openSession_of_started hstart hdeadline]
      rcases awaitConnection client o target socket master deadline (pollLimit o) started with
        ⟨error | _, left⟩ <;> simp [attemptOf]

/-- An attempt that does not die is answered by a session or by an error. -/
theorem answers_iff_not_overruns :
    ((∃ session, (connect client o target process).1 = .opened session) ∨
        ∃ error, (connect client o target process).1 = .refused error) ↔
      ¬Overruns client o target process := by
  rw [← connect_eq_died_iff]
  cases (connect client o target process).1 <;> simp

end Ssh

/-- The same invocation with another time that a connection may take. -/
def Invocation.withSeconds (inv : Invocation) (secs : UInt64) : Invocation :=
  { inv with ssh := { inv.ssh with connectTimeoutSecs := secs } }

namespace RunOptions

/-- Whatever number of seconds a flag or, without a flag, the file says: it is accepted. -/
theorem resolve_with_seconds {options : RunOptions} {f : RosterFile} {inv : Invocation}
    (h : options.resolve f = .ok inv) (secs : UInt64) :
    { options with connectTimeout := some secs }.resolve f = .ok (inv.withSeconds secs) ∧
      { options with connectTimeout := none }.resolve
        { f with ssh := { f.ssh with connectTimeoutSecs := secs } } =
          .ok (inv.withSeconds secs) := by
  obtain ⟨roster, hroster, selection, hselection, job, hjob, leader, hleader, plan, hplan, hvalid,
    rfl⟩ := resolve_eq_ok_iff.1 h
  constructor
  · exact resolve_eq_ok_iff.2 ⟨roster, hroster, selection, hselection, job, hjob, leader, hleader,
      plan, hplan, hvalid, rfl⟩
  · exact resolve_eq_ok_iff.2 ⟨roster, hroster, selection, hselection, job, hjob, leader, hleader,
      plan, hplan, hvalid, rfl⟩

/-- Which attempts to connect are answered, with any settings that are accepted: those whose
deadlines come before the end of time.  For the others no errand has a result.  If nobody makes a
task die, a run comes to its report exactly if the leader's attempt is answered, and no worker's
task dies exactly if those of the workers are. -/
theorem connect_answers_iff (client : SshClient Net Master) (ws : Workstation Desk File)
    {options : RunOptions} {read : TextReader} {inv : Invocation}
    (hload : options.load read = .ok inv) :
    (∃ f, options.source read = .ok f ∧ ∀ secs,
      { options with connectTimeout := some secs }.load read = .ok (inv.withSeconds secs) ∧
      { options with connectTimeout := none }.resolve
        { f with ssh := { f.ssh with connectTimeoutSecs := secs } } =
          .ok (inv.withSeconds secs)) ∧
    (∀ target process,
      ((∃ session, (Ssh.connect client inv.ssh target process).1 = .opened session) ∨
          ∃ error, (Ssh.connect client inv.ssh target process).1 = .refused error) ↔
        ¬Ssh.Overruns client inv.ssh target process) ∧
    (∀ (e : Errand) (world : World (SshProcess Net) Desk),
      (∃ r, (e.execute (Ssh.connector client inv.ssh) ws world).1 = some r) ↔
        ¬Ssh.Overruns client inv.ssh e.target world.net) ∧
    ∀ o flags world stream events s made,
      (∀ slot, .move (.die slot) ∉ events) →
      (FleetRun.initial o flags world stream).follow (Ssh.connector client inv.ssh) ws o events
        = some s →
      s.duty.isOver = true →
      (FleetRun.initial o flags world stream).attempts (Ssh.connector client inv.ssh) ws o events
        = made →
      ((∃ report, s.report? = some report) ↔ ∀ a ∈ made, a.errand.phase = .leader →
        ¬Ssh.Overruns client inv.ssh a.errand.target a.net) ∧
      ((FleetRun.initial o flags world stream).deaths (Ssh.connector client inv.ssh) ws o events
        = [] ↔ ∀ a ∈ made, a.errand.phase = .worker →
          ¬Ssh.Overruns client inv.ssh a.errand.target a.net) := by
  refine ⟨?_, fun _ _ => Ssh.answers_iff_not_overruns, ?_, ?_⟩
  · obtain ⟨f, hsource, hresolve⟩ := Text.bind_eq_ok_iff.1 hload
    refine ⟨f, hsource, fun secs => ?_⟩
    obtain ⟨hflag, hkey⟩ := resolve_with_seconds hresolve secs
    exact ⟨Text.bind_eq_ok_iff.2 ⟨f, hsource, hflag⟩, hkey⟩
  · intro e world
    rw [← Ssh.connect_eq_died_iff, ← Option.isSome_iff_exists, Option.isSome_iff_ne_none]
    exact not_congr Errand.execute_eq_none_iff
  · rintro o flags world stream events s made halive hfollow hover rfl
    have hdies (a : ConnectAttempt (SshProcess Net)) : a.Dies (Ssh.connector client inv.ssh) ↔
        Ssh.Overruns client inv.ssh a.errand.target a.net := Ssh.connect_eq_died_iff
    refine ⟨?_, ?_⟩
    · rw [← Option.isSome_iff_exists, FleetRun.isSome_report?_iff hover, ne_eq,
        FleetRun.duty_eq_crashed_iff hfollow]
      simp only [hdies, not_exists, not_and]
    · rw [FleetRun.deaths_eq_nil_iff halive hfollow]
      simp only [hdies]

end RunOptions

/-! ### The longest time, and more than that -/

/-- A file that has a connection take almost as long as there is time. -/
def lastingFile : String :=
  "[ssh]\nprogram = \"./ssh\"\nconnect_timeout_secs = 9223372036854775802\ncontrol_dir = \".\"\n"
    ++ "[[hosts]]\nindex = 1\naddress = \"a\"\n"

/-- A job for all hosts, and one for the first as the leader. -/
def lastingFlags : RunOptions :=
  { roster := some "fleet.toml", job := some "uptime", leader := some 1, leaderJob := some "bench" }

/-- The same with the longest time that a flag can say. -/
def endlessFlags : RunOptions := { lastingFlags with connectTimeout := some 0xFFFFFFFFFFFFFFFF }

/-- The settings that come of the file, and of the file and those flags. -/
def lastingOptions : SshOptions :=
  { program := "./ssh", connectTimeoutSecs := 9223372036854775802, controlDir := some "." }

def endlessOptions : SshOptions := { lastingOptions with connectTimeoutSecs := 0xFFFFFFFFFFFFFFFF }

/-- A host and a machine with a client that connects to it at once. -/
def nearHost : RemoteTarget := ⟨1, "a", "ec2-user", none, 22⟩

def readyNet : SshProcess ScriptedNet where
  net := { files := .empty, client := some ["ssh"] }

theorem RunOptions.exists_load_lasting :
    ∃ inv, lastingFlags.load (fun _ => .ok lastingFile) = .ok inv ∧ inv.ssh = lastingOptions := by
  have hload : (lastingFlags.load fun _ => .ok lastingFile).toOption.map (·.ssh) =
      some lastingOptions := by
    decide +kernel
  obtain ⟨inv, hinv, hssh⟩ := Option.map_eq_some_iff.1 hload
  exact ⟨inv, eq_ok_of_toOption hinv, hssh⟩

/-- With an accepted time the attempt is answered, and with one second more it is not. -/
theorem RunOptions.connect_answers_iff_lasting :
    ∃ inv later, lastingFlags.load (fun _ => .ok lastingFile) = .ok inv ∧
      inv.ssh = lastingOptions ∧
      ((∃ session,
          (Ssh.connect ScriptedNet.sshClient inv.ssh nearHost readyNet).1 = .opened session) ∨
        ∃ error, (Ssh.connect ScriptedNet.sshClient inv.ssh nearHost readyNet).1 = .refused error) ∧
      { lastingFlags with connectTimeout := some 9223372036854775803 }.load
        (fun _ => .ok lastingFile) = .ok later ∧
      ¬∃ session,
        (Ssh.connect ScriptedNet.sshClient later.ssh nearHost readyNet).1 = .opened session := by
  obtain ⟨⟨roster, credentials, _, plan⟩, hload, rfl⟩ := exists_load_lasting
  have hfits : ¬Ssh.Overruns ScriptedNet.sshClient lastingOptions nearHost readyNet := by
    rintro ⟨nowMs, hstarted, hlate⟩
    obtain rfl : 0 = nowMs := Option.some.inj hstarted
    exact absurd hlate (by decide)
  have hmore : Ssh.Overruns ScriptedNet.sshClient
      { lastingOptions with connectTimeoutSecs := 9223372036854775803 } nearHost readyNet :=
    ⟨0, rfl, by decide⟩
  obtain ⟨⟨_, _, haccepted⟩, hanswered, -, -⟩ :=
    connect_answers_iff ScriptedNet.sshClient LocalDesk.workstation hload
  obtain ⟨-, hlater, -, -⟩ := connect_answers_iff ScriptedNet.sshClient LocalDesk.workstation
    (haccepted 9223372036854775803).1
  exact ⟨_, _, hload, rfl, (hanswered nearHost readyNet).2 hfits, (haccepted _).1,
    fun hopened => (hlater nearHost readyNet).1 (.inl hopened) hmore⟩

/-- A worker's task that dies, and then the leader's errand. -/
def endlessMoves : List FleetEvent :=
  [.coordinate, .coordinate, .advance 0, .advance 0, .coordinate, .coordinate, .coordinate,
    .coordinate].map .move

/-- The longest time that a flag can say is accepted.  The worker's task dies, and then the run ends
without a report. -/
theorem RunOptions.connect_unanswered :
    ∃ inv targets o s, endlessFlags.load (fun _ => .ok lastingFile) = .ok inv ∧
      inv.ssh = endlessOptions ∧
      (Ssh.connect ScriptedNet.sshClient inv.ssh nearHost readyNet).1 = .died ∧
      inv.plan.resolve inv.roster inv.credentials = .ok targets ∧
      o = ⟨inv.plan, targets, false, ⟨0, []⟩⟩ ∧
      (FleetRun.initial o ⟨1, []⟩ ⟨readyNet, {}⟩ none).follow
        (Ssh.connector ScriptedNet.sshClient inv.ssh) LocalDesk.workstation o endlessMoves
          = some s ∧
      (FleetRun.initial o ⟨1, []⟩ ⟨readyNet, {}⟩ none).deaths
        (Ssh.connector ScriptedNet.sshClient inv.ssh) LocalDesk.workstation o endlessMoves = [0] ∧
      s.duty.isOver = true ∧ s.report? = none := by
  have hrun : ((endlessFlags.load fun _ => .ok lastingFile).toOption.bind fun inv =>
      (inv.plan.resolve inv.roster inv.credentials).toOption.bind fun targets =>
        let o : FleetOrders := ⟨inv.plan, targets, false, ⟨0, []⟩⟩
        let first := FleetRun.initial o ⟨1, []⟩ ⟨readyNet, {}⟩ none
        let c := Ssh.connector ScriptedNet.sshClient inv.ssh
        (first.follow c LocalDesk.workstation o endlessMoves).map fun s =>
          (inv.ssh, first.deaths c LocalDesk.workstation o endlessMoves, s.duty.isOver,
            s.report?)) =
      some (endlessOptions, [0], true, none) := by
    decide +kernel
  obtain ⟨inv, hload, hrun⟩ := Option.bind_eq_some_iff.1 hrun
  obtain ⟨targets, hresolve, hrun⟩ := Option.bind_eq_some_iff.1 hrun
  obtain ⟨s, hfollow, hend⟩ := Option.map_eq_some_iff.1 hrun
  obtain ⟨hssh, hend⟩ := Prod.mk.inj hend
  obtain ⟨hdeaths, hend⟩ := Prod.mk.inj hend
  obtain ⟨hover, hreport⟩ := Prod.mk.inj hend
  have hlate : Ssh.Overruns ScriptedNet.sshClient endlessOptions nearHost readyNet :=
    ⟨0, rfl, by decide⟩
  have hdied : (Ssh.connect ScriptedNet.sshClient inv.ssh nearHost readyNet).1 = .died := by
    rw [hssh]
    exact Ssh.connect_eq_died_iff.2 hlate
  exact ⟨inv, targets, _, s, eq_ok_of_toOption hload, hssh, hdied, eq_ok_of_toOption hresolve, rfl,
    hfollow, hdeaths, hover, hreport⟩

end RemoteFleet
