import Mathlib.Data.Nat.Find
import RemoteFleet.Proofs.Ssh.Recording
import RemoteFleet.Ssh.Scripted

/-!
# Waiting for a connection

While a master connects, it is asked again and again whether it has ended, whether the connection
stands, and whether the time is over.  `poll` says what one such round finds, and `verdict` what
becomes of the attempt if that is something.

* The attempt goes by the first round that finds something (`awaitConnection_decided`), whatever the
  limit on the number of rounds is, as long as it allows for that one.
* Every round moves the clock on (`nowMs_pollNet`), so that the deadline comes and there is such a
  round (`exists_first_decided`).  It is this that bounds the number of rounds, not the limit.
* What is asked in all is a number of `roundCalls`, and then `lastCalls` (`connect_recorded`).

What is relied on about the machine is listed in `SshClient.Lawful`.
-/

namespace RemoteFleet

variable {Net Master : Type}

/-- What is relied on about a machine: `running` says which masters run, and `there` which control
sockets are there. -/
structure SshClient.Lawful (client : SshClient Net Master) (running : Master → Net → Prop)
    (there : String → Net → Prop) : Prop where
  /-- Sleep takes its time. -/
  nowMs_sleepMs : ∀ ms net, client.nowMs net + ms ≤ client.nowMs (client.sleepMs ms net)
  /-- The clock is not turned back. -/
  nowMs_masterStatus : ∀ master net,
    client.nowMs net ≤ client.nowMs (client.masterStatus master net).2
  nowMs_call : ∀ program arguments net,
    client.nowMs net ≤ client.nowMs (client.call program arguments net).2
  /-- A master that has ended does not run. -/
  ended : ∀ master net status, (client.masterStatus master net).1 = .ok (some status) →
    ¬running master (client.masterStatus master net).2
  /-- Nor does one that was killed. -/
  killed : ∀ master net, ¬running master (client.killMaster master net)
  /-- Neither comes back by reading what it had to say, or when a file is removed. -/
  masterErrors : ∀ master net, ¬running master net →
    ¬running master (client.masterErrors master net).2
  removeSocket : ∀ master socket net, ¬running master net →
    ¬running master (client.removeSocket socket net)
  /-- A socket that was removed is gone. -/
  removed : ∀ socket net, ¬there socket (client.removeSocket socket net)

/-- The session of an attempt, if it was opened. -/
def Attempt.session? {Session : Type} : Attempt Session → Option Session
  | .opened session => some session
  | _ => none

namespace Ssh

/-- What one round of questions finds.  The later ones are asked only if the earlier ones find
nothing. -/
structure Poll where
  /-- How the master ended, if it has. -/
  ended : Option ExitStatus
  /-- Whether the connection stands. -/
  stands : Bool
  /-- Whether the time is over. -/
  late : Bool
  deriving DecidableEq

/-- Whether something was found. -/
def Poll.decides (p : Poll) : Bool := p.ended.isSome || p.stands || p.late

section Client

variable (client : SshClient Net Master) (o : SshOptions) (target : RemoteTarget) (socket : String)
  (master : Master) (deadline : Nat)

/-- The machine after both questions to the client. -/
def askedNet (net : Net) : Net :=
  (check client o.program socket target (client.masterStatus master net).2).2

/-- What a round of questions finds. -/
def poll (net : Net) : Poll where
  ended := (client.masterStatus master net).1.toOption.join
  stands := (check client o.program socket target (client.masterStatus master net).2).1
  late := deadline ≤ client.nowMs (askedNet client o target socket master net)

/-- The machine after a number of rounds that find nothing. -/
def pollNet : Nat → Net → Net
  | 0, net => net
  | rounds + 1, net =>
    pollNet rounds (client.sleepMs pollMs (askedNet client o target socket master net))

/-- What becomes of the attempt with a round that finds something. -/
def verdict (p : Poll) (net : Net) : Except SessionError Unit × Net :=
  match p.ended, p.stands with
  | some status, _ =>
    let (errors, left) := client.masterErrors master (client.masterStatus master net).2
    (.error (.connect target.address (endReason errors status)), client.removeSocket socket left)
  | none, true => (.ok (), askedNet client o target socket master net)
  | none, false =>
    giveUp client o target socket master (askedNet client o target socket master net)

/-- Whether round `k` is the first to find something, and it is always known till then whether the
master has ended. -/
structure DecidedBy (k : Nat) (net : Net) : Prop where
  answered : ∀ round ≤ k, ∀ e,
    (client.masterStatus master (pollNet client o target socket master round net)).1 ≠ .error e
  nothing : ∀ round < k, (poll client o target socket master deadline
    (pollNet client o target socket master round net)).decides = false
  decides : (poll client o target socket master deadline
    (pollNet client o target socket master k net)).decides = true

/-! ## One round after the other -/

section Rounds

variable {client o target socket master deadline}

theorem masterStatus_of_ended {net : Net} {status : ExitStatus}
    (h : (poll client o target socket master deadline net).ended = some status) :
    (client.masterStatus master net).1 = .ok (some status) := by
  rcases hstatus : (client.masterStatus master net).1 with _ | ended
  · simp [poll, hstatus, Except.toOption] at h
  · have heq : ended = some status := by simpa [poll, hstatus, Except.toOption] using h
    rw [heq]

/-- A round that finds something is the last. -/
theorem awaitConnection_succ (net : Net)
    (hasked : ∀ e, (client.masterStatus master net).1 ≠ .error e) (limit : Nat) :
    awaitConnection client o target socket master deadline (limit + 1) net =
      if (poll client o target socket master deadline net).decides then
        verdict client o target socket master (poll client o target socket master deadline net) net
      else
        awaitConnection client o target socket master deadline limit
          (client.sleepMs pollMs (askedNet client o target socket master net)) := by
  rcases hstatus : client.masterStatus master net with ⟨e | _ | status, asked⟩
  · exact absurd (congrArg Prod.fst hstatus) (hasked e)
  · rcases hcheck : check client o.program socket target asked with ⟨_ | _, left⟩
    · by_cases hlate : deadline ≤ client.nowMs left <;>
        simp [awaitConnection, verdict, Poll.decides, poll, askedNet, hstatus, hcheck, hlate,
          Except.toOption]
    · simp [awaitConnection, verdict, Poll.decides, poll, askedNet, hstatus, hcheck,
        Except.toOption]
  · simp [awaitConnection, verdict, Poll.decides, poll, hstatus, Except.toOption]

/-- What is decided later is decided after the first round. -/
theorem DecidedBy.after_first {k : Nat} {net : Net}
    (h : DecidedBy client o target socket master deadline (k + 1) net) :
    DecidedBy client o target socket master deadline k
      (client.sleepMs pollMs (askedNet client o target socket master net)) where
  answered round hround := h.answered (round + 1) (Nat.succ_le_succ hround)
  nothing round hround := h.nothing (round + 1) (Nat.succ_lt_succ hround)
  decides := h.decides

/-- The attempt goes by the first round that finds something, whatever the limit is on the number of
rounds, if only it allows for that one. -/
theorem awaitConnection_decided {k limit : Nat} {net : Net}
    (h : DecidedBy client o target socket master deadline k net) (hlimit : k < limit) :
    awaitConnection client o target socket master deadline limit net =
      verdict client o target socket master (poll client o target socket master deadline
        (pollNet client o target socket master k net))
        (pollNet client o target socket master k net) := by
  induction k generalizing limit net with
  | zero =>
    obtain _ | limit := limit
    · exact absurd hlimit (Nat.lt_irrefl 0)
    · rw [awaitConnection_succ net (h.answered 0 (Nat.le_refl 0))]
      exact if_pos h.decides
  | succ k ih =>
    obtain _ | limit := limit
    · exact absurd hlimit (Nat.not_lt_zero _)
    · have hfirst : (poll client o target socket master deadline net).decides = false :=
        h.nothing 0 (Nat.succ_pos k)
      rw [awaitConnection_succ net (h.answered 0 (Nat.zero_le _)), hfirst,
        if_neg Bool.false_ne_true]
      exact ih h.after_first (Nat.lt_of_succ_lt_succ hlimit)

section Clock

variable {running : Master → Net → Prop} {there : String → Net → Prop}
  (hlawful : client.Lawful running there)
include hlawful

variable (o target socket master) in
theorem nowMs_askedNet (net : Net) :
    client.nowMs net ≤ client.nowMs (askedNet client o target socket master net) :=
  Nat.le_trans (hlawful.nowMs_masterStatus master net)
    (hlawful.nowMs_call o.program (checkArguments socket target) _)

variable (o target socket master) in
/-- Every round takes its time. -/
theorem nowMs_pollNet (rounds : Nat) (net : Net) :
    client.nowMs net + rounds * pollMs ≤
      client.nowMs (pollNet client o target socket master rounds net) := by
  induction rounds generalizing net with
  | zero => simp [pollNet]
  | succ rounds ih =>
    have hasked := nowMs_askedNet o target socket master hlawful net
    have hslept := hlawful.nowMs_sleepMs pollMs (askedNet client o target socket master net)
    have hlater := ih (client.sleepMs pollMs (askedNet client o target socket master net))
    rw [pollNet, Nat.succ_mul]
    omega

/-- The time is over at last, so some round is the first to find something. -/
theorem exists_first_decided {net : Net} {rounds : Nat}
    (hdeadline : deadline ≤ client.nowMs net + rounds * pollMs) :
    ∃ k ≤ rounds,
      (poll client o target socket master deadline
        (pollNet client o target socket master k net)).decides = true ∧
      ∀ j < k, (poll client o target socket master deadline
        (pollNet client o target socket master j net)).decides = false := by
  have hlast : (poll client o target socket master deadline
      (pollNet client o target socket master rounds net)).decides = true := by
    have hslept := nowMs_pollNet o target socket master hlawful rounds net
    have hasked := nowMs_askedNet o target socket master hlawful
      (pollNet client o target socket master rounds net)
    have hlate : deadline ≤ client.nowMs (askedNet client o target socket master
        (pollNet client o target socket master rounds net)) := by omega
    simp [Poll.decides, poll, hlate]
  have hexists : ∃ k, (poll client o target socket master deadline
      (pollNet client o target socket master k net)).decides = true := ⟨rounds, hlast⟩
  exact ⟨Nat.find hexists, Nat.find_min' hexists hlast, Nat.find_spec hexists,
    fun j hj => Bool.eq_false_iff.2 (Nat.find_min hexists hj)⟩

end Clock

end Rounds

/-! ## The record -/

/-- What is asked in a round that finds nothing. -/
def roundCalls : List (ClientCall Master) :=
  [.masterStatus master, .call o.program (checkArguments socket target), .sleep pollMs]

/-- What is asked in the last round, and to clear away what is left of the attempt. -/
def lastCalls (p : Poll) : List (ClientCall Master) :=
  match p.ended, p.stands with
  | some _, _ => [.masterStatus master, .masterErrors master, .removeSocket socket]
  | none, true => [.masterStatus master, .call o.program (checkArguments socket target)]
  | none, false =>
    [.masterStatus master, .call o.program (checkArguments socket target), .killMaster master,
      .removeSocket socket]

theorem poll_recorded (net : Net × List (ClientCall Master)) :
    poll client.recorded o target socket master deadline net =
      poll client o target socket master deadline net.1 :=
  rfl

theorem pollNet_recorded (rounds : Nat) (net : Net) (calls : List (ClientCall Master)) :
    pollNet client.recorded o target socket master rounds (net, calls) =
      (pollNet client o target socket master rounds net,
        calls ++ (List.replicate rounds (roundCalls o target socket master)).flatten) := by
  induction rounds generalizing net calls with
  | zero => simp [pollNet]
  | succ rounds ih =>
    have hround : client.recorded.sleepMs pollMs
        (askedNet client.recorded o target socket master (net, calls)) =
          (client.sleepMs pollMs (askedNet client o target socket master net),
            calls ++ roundCalls o target socket master) := by
      simp [askedNet, roundCalls]
    rw [pollNet, hround, ih, List.replicate_succ, List.flatten_cons, List.append_assoc]
    rfl

theorem verdict_recorded (p : Poll) (net : Net) (calls : List (ClientCall Master)) :
    verdict client.recorded o target socket master p (net, calls) =
      ((verdict client o target socket master p net).1,
        (verdict client o target socket master p net).2,
        calls ++ lastCalls o target socket master p) := by
  obtain ⟨_ | status, _ | _, late⟩ := p <;> simp [verdict, lastCalls, giveUp, askedNet]

variable {client o target socket master deadline}

theorem DecidedBy.recorded {k : Nat} {net : Net}
    (h : DecidedBy client o target socket master deadline k net)
    (calls : List (ClientCall Master)) :
    DecidedBy client.recorded o target socket master deadline k (net, calls) where
  answered round hround e := by
    rw [SshClient.masterStatus_recorded, pollNet_recorded]
    exact h.answered round hround e
  nothing round hround := by
    rw [poll_recorded, pollNet_recorded]
    exact h.nothing round hround
  decides := by
    rw [poll_recorded, pollNet_recorded]
    exact h.decides

/-- What is asked in all the rounds up to one that decides. -/
theorem awaitConnection_recorded {k limit : Nat} {net : Net}
    (h : DecidedBy client o target socket master deadline k net) (hlimit : k < limit)
    (calls : List (ClientCall Master)) :
    awaitConnection client.recorded o target socket master deadline limit (net, calls) =
      ((awaitConnection client o target socket master deadline limit net).1,
        (awaitConnection client o target socket master deadline limit net).2,
        calls ++ (List.replicate k (roundCalls o target socket master)).flatten
          ++ lastCalls o target socket master (poll client o target socket master deadline
            (pollNet client o target socket master k net))) := by
  rw [awaitConnection_decided (h.recorded calls) hlimit, awaitConnection_decided h hlimit,
    poll_recorded, pollNet_recorded, verdict_recorded]

end Client

/-! ## Connecting -/

/-- The rounds that fit into the time, and one more. -/
theorem pollLimit_eq (o : SshOptions) :
    pollLimit o = 10 * (o.connectTimeoutSecs.toNat + 5) + 1 := by
  simp only [pollLimit, patienceMs, patienceSecs, graceSecs, pollMs]
  omega

theorem patienceMs_eq (o : SshOptions) :
    patienceMs o = 10 * (o.connectTimeoutSecs.toNat + 5) * pollMs := by
  simp only [patienceMs, patienceSecs, graceSecs, pollMs]
  omega

theorem eq_of_deadline? {o : SshOptions} {nowMs deadline : Nat}
    (h : deadline? o nowMs = some deadline) : deadline = nowMs + patienceMs o := by
  unfold deadline? at h
  split at h
  · exact (Option.some.inj h).symm
  · cases h

/-- A reason for the end of a master is what it had to say, without the blanks around it, or if that
is nothing, how it ended. -/
structure IsEndReason (errors : Bytes) (status : ExitStatus) (reason : String) : Prop where
  words : ∀ text, Text.decode? errors = some text → Text.trim text.toList ≠ [] →
    reason = String.ofList (Text.trim text.toList)
  silent : (∀ text, Text.decode? errors = some text → Text.trim text.toList = []) →
    reason = "ssh master exited with " ++ status.display

theorem isEndReason_endReason (errors : Bytes) (status : ExitStatus) :
    IsEndReason errors status (endReason errors status) := by
  constructor
  · intro text htext hwords
    simp [endReason, htext, hwords]
  · intro hsilent
    cases htext : Text.decode? errors with
    | none => simp [endReason, htext]
    | some text => simp [endReason, htext, hsilent text htext]

/-- The attempt, when it is known what becomes of a master that was started. -/
def attemptOf (o : SshOptions) (target : RemoteTarget) (socket : String) (master : Master) :
    Except SessionError Unit × Net → Attempt (SshSession Master) × Net
  | (.error e, net) => (.refused e, net)
  | (.ok (), net) => (.opened ⟨target, o.program, socket, o.commandTimeoutSecs, some master⟩, net)

section Attempts

variable {client : SshClient Net Master} {o : SshOptions} {target : RemoteTarget} {socket : String}
  {net started : Net} {master : Master} {deadline : Nat}

theorem openSession_of_started
    (hstart : client.startMaster o.program (masterArguments o target socket) net =
      (.ok master, started))
    (hdeadline : deadline? o (client.nowMs started) = some deadline) :
    openSession client o target socket net = attemptOf o target socket master
      (awaitConnection client o target socket master deadline (pollLimit o) started) := by
  simp only [openSession, hstart, hdeadline]
  rfl

/-- An attempt goes on from the socket that it was given. -/
theorem connect_of_newSocket {process fresh : SshProcess Net}
    (hsocket : newSocket client o target process = (socket, fresh)) :
    connect client o target process =
      ((openSession client o target socket fresh.net).1,
        { fresh with net := (openSession client o target socket fresh.net).2 }) := by
  simp only [connect, hsocket]

/-- A session has the socket that it was opened with. -/
theorem socket_of_openSession {session : SshSession Master}
    (h : (openSession client o target socket net).1 = .opened session) :
    session.socket = socket := by
  rcases hstart : client.startMaster o.program (masterArguments o target socket) net with
    ⟨error | master, started⟩
  · simp [openSession, hstart] at h
  · cases hdeadline : deadline? o (client.nowMs started) with
    | none => simp [openSession, hstart, hdeadline] at h
    | some deadline =>
      rw [openSession_of_started hstart hdeadline] at h
      rcases hawait : awaitConnection client o target socket master deadline (pollLimit o) started
        with ⟨error | _, left⟩
      · rw [hawait] at h
        cases h
      · rw [hawait] at h
        cases h
        rfl

/-- That is the next control socket. -/
theorem socket_of_connect {process : SshProcess Net} {session : SshSession Master}
    (h : (connect client o target process).1.session? = some session) :
    session.socket = (newSocket client o target process).1 := by
  rcases hsocket : newSocket client o target process with ⟨socket, fresh⟩
  rw [connect_of_newSocket hsocket] at h
  cases hattempt : (openSession client o target socket fresh.net).1 with
  | opened opened =>
    rw [hattempt] at h
    obtain rfl := Option.some.inj h
    exact socket_of_openSession hattempt
  | refused error =>
    rw [hattempt] at h
    cases h
  | died =>
    rw [hattempt] at h
    cases h

/-- What is asked in the whole attempt. -/
theorem connect_recorded {process fresh : SshProcess Net} {k : Nat}
    (hsocket : newSocket client o target process = (socket, fresh))
    (hstart : client.startMaster o.program (masterArguments o target socket) fresh.net =
      (.ok master, started))
    (hdeadline : deadline? o (client.nowMs started) = some deadline)
    (h : DecidedBy client o target socket master deadline k started) (hlimit : k < pollLimit o) :
    connect client.recorded o target (process.withRecord []) =
      ((connect client o target process).1, (connect client o target process).2.withRecord
        (.startMaster o.program (masterArguments o target socket) ::
          ((List.replicate k (roundCalls o target socket master)).flatten
            ++ lastCalls o target socket master (poll client o target socket master deadline
              (pollNet client o target socket master k started))))) := by
  have hsocket' : newSocket client.recorded o target (process.withRecord []) =
      (socket, fresh.withRecord []) := by
    rw [newSocket_recorded, hsocket]
  have hstart' : client.recorded.startMaster o.program (masterArguments o target socket)
      (fresh.withRecord []).net =
        (.ok master, started, [.startMaster o.program (masterArguments o target socket)]) := by
    rw [SshClient.startMaster_recorded, SshProcess.withRecord, hstart]
    rfl
  have hloop := awaitConnection_recorded h hlimit
    [.startMaster o.program (masterArguments o target socket)]
  rw [connect_of_newSocket hsocket', connect_of_newSocket hsocket,
    openSession_of_started hstart' hdeadline, hloop, openSession_of_started hstart hdeadline]
  rcases awaitConnection client o target socket master deadline (pollLimit o) started with
    ⟨_ | _, left⟩ <;> rfl

end Attempts

/-- An attempt to connect goes by the first round of questions that finds something, and that is not
later than the time allows for.  If the master has ended the attempt is refused, for the reason that
the master gave; or else if the connection stands, there is a session; or else the time is over.
Without a session the master does not run any more and its socket is gone. -/
theorem connect_decides {client : SshClient Net Master} (o : SshOptions) (target : RemoteTarget)
    {running : Master → Net → Prop} {there : String → Net → Prop}
    (hlawful : client.Lawful running there)
    {process fresh : SshProcess Net} {started : Net} {socket : String} {master : Master}
    {deadline : Nat} (hsocket : newSocket client o target process = (socket, fresh))
    (hstart : client.startMaster o.program (masterArguments o target socket) fresh.net =
      (.ok master, started))
    (hdeadline : deadline? o (client.nowMs started) = some deadline)
    (hasked : ∀ k, (∀ j < k, (poll client o target socket master deadline
        (pollNet client o target socket master j started)).decides = false) →
      ∀ e, (client.masterStatus master
        (pollNet client o target socket master k started)).1 ≠ .error e) :
    ∃ k asked p attempt left,
      k + 1 ≤ 10 * (o.connectTimeoutSecs.toNat + 5) + 1 ∧
      (∀ j < k, (poll client o target socket master deadline
        (pollNet client o target socket master j started)).decides = false) ∧
      asked = pollNet client o target socket master k started ∧
      p = poll client o target socket master deadline asked ∧ p.decides = true ∧
      connect client o target process = (attempt, left) ∧
      connect client.recorded o target (process.withRecord []) = (attempt, left.withRecord
        (.startMaster o.program (masterArguments o target socket) ::
          ((List.replicate k (roundCalls o target socket master)).flatten
            ++ lastCalls o target socket master p))) ∧
      match p with
      | ⟨some status, _, _⟩ =>
        (∃ reason, attempt = .refused (.connect target.address reason) ∧
          IsEndReason (client.masterErrors master (client.masterStatus master asked).2).1 status
            reason) ∧
        ¬running master left.net ∧ ¬there socket left.net
      | ⟨none, true, _⟩ =>
        attempt = .opened ⟨target, o.program, socket, o.commandTimeoutSecs, some master⟩
      | ⟨none, false, late⟩ =>
        late = true ∧ attempt = .refused (.timeout target.address (patienceMs o).toUInt64) ∧
        ¬running master left.net ∧ ¬there socket left.net := by
  have hover : deadline ≤
      client.nowMs started + 10 * (o.connectTimeoutSecs.toNat + 5) * pollMs := by
    rw [eq_of_deadline? hdeadline, patienceMs_eq]
  obtain ⟨k, hk, hdecides, hnothing⟩ := exists_first_decided hlawful hover
  have hlimit : k < pollLimit o := by
    rw [pollLimit_eq]
    omega
  have hdecided : DecidedBy client o target socket master deadline k started :=
    ⟨fun round hround => hasked round fun j hj => hnothing j (Nat.lt_of_lt_of_le hj hround),
      hnothing, hdecides⟩
  have hplain := connect_of_newSocket hsocket
  rw [openSession_of_started hstart hdeadline] at hplain
  have hrecorded := connect_recorded hsocket hstart hdeadline hdecided hlimit
  rw [awaitConnection_decided hdecided hlimit] at hplain
  generalize hp : poll client o target socket master deadline
    (pollNet client o target socket master k started) = p at *
  rcases hconnect : connect client o target process with ⟨attempt, left⟩
  rw [hconnect] at hplain hrecorded
  refine ⟨k, _, p, attempt, left, by omega, hnothing, rfl, hp.symm, hdecides, rfl, hrecorded, ?_⟩
  rcases p with ⟨_ | status, _ | _, late⟩
  case none.false =>
    obtain ⟨rfl, rfl⟩ := Prod.mk.inj hplain
    exact ⟨by simpa [Poll.decides] using hdecides, rfl,
      hlawful.removeSocket _ _ _ (hlawful.killed _ _), hlawful.removed _ _⟩
  case none.true =>
    obtain ⟨rfl, rfl⟩ := Prod.mk.inj hplain
    rfl
  all_goals
    obtain ⟨rfl, rfl⟩ := Prod.mk.inj hplain
    have hended := masterStatus_of_ended (congrArg Poll.ended hp)
    exact ⟨⟨_, rfl, isEndReason_endReason _ _⟩,
      hlawful.removeSocket _ _ _ (hlawful.masterErrors _ _ (hlawful.ended _ _ _ hended)),
      hlawful.removed _ _⟩

end Ssh

/-! ### The scripted client -/

namespace ScriptedNet

/-- Whether the master of a socket runs. -/
def Runs (socket : String) (net : ScriptedNet) : Prop :=
  ∃ m, net.master? socket = some m ∧ m.ending = none

theorem master?_change (net : ScriptedNet) (socket : String) {f : ScriptedMaster → ScriptedMaster}
    (hsame : ∀ m, (f m).socket = m.socket) :
    (net.change socket f).master? socket = (net.master? socket).map f := by
  have hmaster (m : ScriptedMaster) :
      (if m.socket = socket then f m else m).socket = m.socket := by
    split
    · exact hsame m
    · rfl
  simp only [master?, change, List.find?_map, Function.comp_def, hmaster]
  cases hfound : net.masters.find? (·.socket = socket) with
  | none => rfl
  | some m =>
    have hsocket : m.socket = socket := by simpa using List.find?_some hfound
    simp [hsocket]

theorem nowMs_call (program : String) (arguments : List String) (net : ScriptedNet) :
    (call program arguments net).2.nowMs = net.nowMs := by
  unfold call
  split
  · rfl
  · dsimp only
    split <;> rfl

/-- The scripted machine does what is relied on. -/
theorem lawful_sshClient : sshClient.Lawful Runs fun socket net => socket ∈ net.sockets where
  nowMs_sleepMs _ _ := Nat.le_refl _
  nowMs_masterStatus _ _ := Nat.le_refl _
  nowMs_call program arguments net := Nat.le_of_eq (nowMs_call program arguments net).symm
  ended socket net status hended := by
    rintro ⟨m, hmaster, hruns⟩
    have hnone : (net.master? socket).bind (·.ending) = none := by
      rw [show net.master? socket = some m from hmaster]
      exact hruns
    have hsome : (net.master? socket).bind (·.ending) = some status := Except.ok.inj hended
    simp [hnone] at hsome
  killed socket net := by
    rintro ⟨m, hmaster, hruns⟩
    have hstopped : (net.change socket (stop 9)).master? socket = some m := hmaster
    have hsame (m : ScriptedMaster) : (stop 9 m).socket = m.socket := rfl
    rw [master?_change net socket hsame] at hstopped
    obtain ⟨m', -, rfl⟩ := Option.map_eq_some_iff.1 hstopped
    cases hending : m'.ending <;> simp [stop, hending] at hruns
  masterErrors _ _ hended := hended
  removeSocket _ _ _ hended := hended
  removed socket net := by simp [sshClient]

/-- The same machine, but until some time nobody can tell that a master has ended. -/
def lateClient (ms : Nat) : SshClient ScriptedNet String :=
  { sshClient with
    masterStatus := fun socket net =>
      if net.nowMs < ms then (.ok none, net) else sshClient.masterStatus socket net }

theorem lawful_lateClient (ms : Nat) :
    (lateClient ms).Lawful Runs fun socket net => socket ∈ net.sockets :=
  { lawful_sshClient with
    nowMs_masterStatus := by
      intro socket net
      simp only [lateClient]
      split <;> exact Nat.le_refl _
    ended := by
      intro socket net status hended
      simp only [lateClient] at hended ⊢
      split at hended
      · cases hended
      · next hlate =>
        rw [if_neg hlate]
        exact lawful_sshClient.ended socket net status hended }

end ScriptedNet

namespace Ssh

/-- A client in the working directory, with its sockets there too. -/
def localOptions : SshOptions := { program := "./ssh", controlDir := some "." }

/-- A host that lets nobody in. -/
def strictTarget : RemoteTarget := ⟨2, "b", "ec2-user", none, 22⟩

def strictNet : ScriptedNet where
  files := .empty
  client := some ["ssh"]
  script :=
    { hosts := [("ec2-user@b", { masterEnding := some (.exited 255),
                                 masterErrors := Text.encode "Permission denied\n" })] }

def strictSocket : String := "./fr-PID-2-0.sock"

/-- The machine when the master has been started. -/
def strictStarted : ScriptedNet :=
  { strictNet with
    masters := [⟨strictSocket, false, some (.exited 255), Text.encode "Permission denied\n"⟩]
    sockets := [strictSocket]
    calls := [masterArguments localOptions strictTarget strictSocket] }

/-- It takes the client a quarter of a second to see that. -/
def strictClient : SshClient ScriptedNet String := ScriptedNet.lateClient 250

/-- When the attempt is given up. -/
def strictDeadline : Nat := 15000

/-- What the rounds of questions find. -/
def strictPoll (round : Nat) : Poll :=
  poll strictClient localOptions strictTarget strictSocket strictSocket strictDeadline
    (pollNet strictClient localOptions strictTarget strictSocket strictSocket round strictStarted)

theorem newSocket_strict :
    newSocket strictClient localOptions strictTarget ⟨strictNet, 0⟩ =
      (strictSocket, ⟨strictNet, 1⟩) := by
  rfl

theorem startMaster_strict :
    strictClient.startMaster localOptions.program
      (masterArguments localOptions strictTarget strictSocket) strictNet =
        (.ok strictSocket, strictStarted) := by
  rfl

/-- The first three rounds find nothing, and the fourth finds that the master has ended. -/
theorem strictPoll_eq :
    (∀ round < 3, (strictPoll round).decides = false) ∧
      strictPoll 3 = ⟨some (.exited 255), false, false⟩ := by
  decide +kernel

theorem masterStatus_strict (socket : String) (net : ScriptedNet) (e : FileError) :
    (strictClient.masterStatus socket net).1 ≠ .error e := by
  intro herror
  simp only [strictClient, ScriptedNet.lateClient] at herror
  split at herror <;> cases herror

/-- The host refuses, which is found in the fourth round, and says why. -/
theorem connect_decides_strict :
    ∃ left, connect strictClient localOptions strictTarget ⟨strictNet, 0⟩ =
        (.refused (.connect "b" "Permission denied"), left) ∧
      connect strictClient.recorded localOptions strictTarget ⟨(strictNet, []), 0⟩ =
        (.refused (.connect "b" "Permission denied"), left.withRecord
          (.startMaster "./ssh" (masterArguments localOptions strictTarget strictSocket) ::
            ((List.replicate 3 (roundCalls localOptions strictTarget strictSocket
                strictSocket)).flatten
              ++ [.masterStatus strictSocket, .masterErrors strictSocket,
                .removeSocket strictSocket]))) ∧
      ¬ScriptedNet.Runs strictSocket left.net ∧ strictSocket ∉ left.net.sockets := by
  obtain ⟨k, asked, p, attempt, left, -, hbefore, hasked, hp, hdecides, hconnect, hrecorded,
      hend⟩ :=
    connect_decides localOptions strictTarget (ScriptedNet.lawful_lateClient 250) newSocket_strict
      startMaster_strict (rfl : _ = some strictDeadline)
      (fun _ _ => masterStatus_strict strictSocket _)
  obtain ⟨hnothing, hfound⟩ := strictPoll_eq
  have hfourth : k = 3 := by
    rcases Nat.lt_trichotomy k 3 with hearly | hthree | hlate
    · rw [hp, hasked] at hdecides
      exact absurd ((hnothing k hearly).symm.trans hdecides) Bool.false_ne_true
    · exact hthree
    · have hundecided : (strictPoll 3).decides = false := hbefore 3 hlate
      rw [hfound] at hundecided
      cases hundecided
  subst hfourth
  have hended : p = ⟨some (.exited 255), false, false⟩ := by
    rw [hp, hasked]
    exact hfound
  subst hended hasked
  obtain ⟨⟨reason, rfl, hreason⟩, hruns, hthere⟩ := hend
  have hwords : Text.decode? (Text.encode "Permission denied\n") = some "Permission denied\n" := by
    decide +kernel
  have hsaid := hreason.words _ hwords (by decide +kernel)
  have htrimmed : String.ofList (Text.trim "Permission denied\n".toList) = "Permission denied" := by
    decide +kernel
  rw [hsaid, htrimmed] at hconnect hrecorded
  exact ⟨left, hconnect, hrecorded, hruns, hthere⟩

end Ssh

end RemoteFleet
