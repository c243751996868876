import RemoteFleet.Proofs.Execution.RemoteFailure
import RemoteFleet.Proofs.Ssh.Connecting
import RemoteFleet.Proofs.Ssh.Pumping

/-!
# The output of a command over ssh

From the pipes of the client to the result of an errand the output of a command stays what it is.

* The pump passes on all of it, and gives all of it back (`Pump.Drains`).
* The session judges the command by the status of the client.  If the connection is lost
  (`Ssh.IsLost`) the output is in the error (`judge_of_isLost`), and if not it is in the outcome
  (`judge_of_not_isLost`).
* The result of the errand has the output in either case (`Errand.exists_reports_of_ran`).

What does not follow is that the errand succeeds when its command does.  If the capture file cannot
be kept the result says so instead (`Errand.Reports.unkept`).
-/

namespace RemoteFleet

variable {Net Master Desk File : Type}

namespace Ssh

/-- Whether the connection is lost when the client ends with a status: something killed the client,
or it ended like one that lost its connection, and that does not stand any more. -/
def IsLost (client : SshClient Net Master) (s : SshSession Master) (net : Net) : ExitStatus → Prop
  | .signaled _ => True
  | .exited code => code = 255 ∧ (check client s.program s.socket s.target net).1 = false

variable {client : SshClient Net Master} {s : SshSession Master} {net net' : Net}

theorem judge_of_isLost {status : ExitStatus} (h : IsLost client s net status)
    (output : RemoteOutput) :
    ∃ reason, (judge client s output net status).1 =
      .error (.transport s.target.address reason output) := by
  cases status with
  | signaled signal => exact ⟨_, rfl⟩
  | exited code =>
    obtain ⟨rfl, hgone⟩ := h
    rcases hcheck : check client s.program s.socket s.target net with ⟨stands, after⟩
    rw [hcheck] at hgone
    cases hgone
    exact ⟨lostReason output, by simp [judge, hcheck]⟩

theorem judge_of_not_isLost {status : ExitStatus} (h : ¬IsLost client s net status)
    (output : RemoteOutput) :
    ∃ code, status = .exited code ∧
      (judge client s output net status).1 = .ok ⟨code.toNat.toInt32, output⟩ := by
  cases status with
  | signaled signal => exact absurd trivial h
  | exited code =>
    refine ⟨code, rfl, ?_⟩
    by_cases hcode : code = 255
    · rcases hcheck : check client s.program s.socket s.target net with ⟨_ | _, after⟩
      · exact absurd ⟨hcode, by rw [hcheck]⟩ h
      · simp [judge, hcode, hcheck]
    · simp [judge, hcode]

/-- A command that comes to its end gives what was read, and is judged by its status. -/
theorem run_of_exited {master : Master} (hmaster : s.master = some master) {command : String}
    {silentMs : Nat} {reads : List Chunk} {status : ExitStatus}
    (hlisten : client.listen s.program (callArguments s.socket s.target [] [command])
      s.commandTimeoutSecs net = (.ok ⟨silentMs, reads, .exited status⟩, net')) :
    run client s command net =
      (⟨silentMs, (Pump.ofReads reads).chunks,
        (judge client s (Pump.ofReads reads).output net' status).1⟩, s,
        (judge client s (Pump.ofReads reads).output net' status).2) := by
  simp only [run, hmaster, hlisten]

/-- The status of the client is a code of the command, and 0 is 0. -/
theorem toInt32_eq_zero_iff (code : UInt8) : code.toNat.toInt32 = 0 ↔ code = 0 := by
  have hsmall : code.toNat < 2 ^ 31 := Nat.lt_trans code.toNat_lt (by decide)
  rw [← Int32.toInt_inj, ← UInt8.toNat_inj]
  simp [Nat.toInt32, Int32.toInt_ofNat_of_lt hsmall]

end Ssh

/-! ## What an errand makes of it -/

namespace Errand

/-- Whether the capture file can be kept to its end, if one was opened. -/
def Keeps (ws : Workstation Desk File) (e : Errand) (closing : Closing) (chunks : List Chunk)
    (opened : Option (Capture File)) (desk : Desk) : Prop :=
  ∀ held, opened = some held → e.KeepsFile ws closing chunks held.file desk

/-- What the result of an errand says of a command that left some output: all of the output, and of
the rest what is known of it, by whether the capture file could be kept.  It is left open what is
said of a command that failed on its host, and its file with it. -/
structure Reports (e : Errand) (output : RemoteOutput) (kept : Prop)
    (ending : Except SessionError CommandOutcome) (result : RunResult) : Prop where
  output_eq : result.output = some output
  lost : ∀ address reason, ending = .error (.transport address reason output) →
    result.status = .failed ∧ result.error = some (.connection e.target.address reason)
  succeeded : ending = .ok ⟨0, output⟩ → kept → result.status = .succeeded ∧ result.error = none
  failed : ∀ code, ending = .ok ⟨code, output⟩ → code ≠ 0 → kept →
    result.status = .failed ∧
      result.error = some (.remoteExecution e.target.address code (output.tail 20))
  unkept : ending = .ok ⟨0, output⟩ → ¬kept → result.status = .failed ∧
    ∃ path reason, e.job.capture = .file path ∧ result.error = some (.capture path reason)

variable {Session : Type} {c : Connector Net Session} {ws : Workstation Desk File} {e : Errand}
  {w : World Net Desk} {desk : Desk}

/-- An errand whose command was run goes by how that ended, and by what became of the capture
file. -/
theorem exists_kept_of_ran {session session' : Session} {net net' : Net}
    {opened : Option (Capture File)} {transcript : Transcript}
    (hconnect : c.connect e.target w.net = (.opened session, net))
    (hopen : e.openFile ws (e.begun ws w.desk) = (.ok opened, desk))
    (hrun : c.run session e.command net = (transcript, session', net')) :
    ∃ stop kept, (e.execute c ws w).1 =
        some (e.resultOf (ws.now w.desk) stop kept transcript.ending) ∧
      ((∃ path, kept = .ok path) ↔
        e.Keeps ws (c.close session' net').1 transcript.chunks opened desk) ∧
      ∀ error, kept = .error error →
        ∃ path reason, e.job.capture = .file path ∧ error = .capture path reason := by
  let heard := e.hearChunks ws transcript.chunks opened desk
  let kept := (finishFile ws heard.1 (e.noted ws (c.close session' net').1 heard.2)).1
  obtain ⟨howns, hfresh⟩ := fresh_of_openFile hopen
  obtain ⟨stop, hresult⟩ : ∃ stop, (e.execute c ws w).1
      = some (e.resultOf (ws.now w.desk) stop kept transcript.ending) := by
    simp only [execute_of_ran hconnect hopen, hrun, conclude, settled]
    exact ⟨_, rfl⟩
  refine ⟨stop, kept, hresult, ?_, fun error herror =>
    eq_capture_of_finishFile (howns.hearChunks transcript.chunks desk) herror⟩
  cases opened with
  | none => simp [kept, heard, hearChunks_none, finishFile, Keeps]
  | some held =>
    obtain ⟨hok, hheld⟩ := hfresh held rfl
    rw [finishFile_eq_ok_iff hok hheld]
    simp [Keeps]

/-- So the result reports a command that left some output, whether or not the connection was
lost. -/
theorem exists_reports_of_ran {session session' : Session} {net net' : Net}
    {opened : Option (Capture File)} {transcript : Transcript} {output : RemoteOutput}
    (hconnect : c.connect e.target w.net = (.opened session, net))
    (hopen : e.openFile ws (e.begun ws w.desk) = (.ok opened, desk))
    (hrun : c.run session e.command net = (transcript, session', net'))
    (houtput : transcript.output? = some output) :
    ∃ result, (e.execute c ws w).1 = some result ∧
      e.Reports output (e.Keeps ws (c.close session' net').1 transcript.chunks opened desk)
        transcript.ending result := by
  obtain ⟨stop, kept, hresult, hkeeps, herror⟩ := exists_kept_of_ran hconnect hopen hrun
  refine ⟨_, hresult, (output_resultOf _ _ _ transcript).trans houtput, ?_, ?_, ?_, ?_⟩
  · intro address reason hending
    rw [hending]
    exact ⟨rfl, rfl⟩
  · intro hending hkept
    obtain ⟨path, rfl⟩ := hkeeps.2 hkept
    rw [hending]
    exact ⟨rfl, rfl⟩
  · intro code hending hcode hkept
    obtain ⟨path, rfl⟩ := hkeeps.2 hkept
    rw [hending, resultOf_failed hcode]
    exact ⟨rfl, rfl⟩
  · intro hending hnot
    cases kept with
    | ok path => exact absurd (hkeeps.1 ⟨path, rfl⟩) hnot
    | error error =>
      obtain ⟨path, reason, hpath, rfl⟩ := herror error rfl
      rw [hending]
      exact ⟨rfl, path, reason, hpath, rfl⟩

end Errand

/-! ## The whole way -/

namespace Ssh

variable (client : SshClient Net Master)

/-- No output of a command is lost, however it comes through the two pipes of the client.  The pump
is done with the last read and not before; of each stream it passes on the pieces in their order,
and it gives back all of their bytes.  These are in the outcome of the command if the connection
stands, and in the error if it is lost.  They are in the result of every errand that runs the
command, which goes by that, and by whether its capture file can be kept. -/
theorem output_kept {s : SshSession Master} {master : Master} (hmaster : s.master = some master)
    {command : String} {net net' : Net} {silentMs : Nat} {reads : List Chunk} {status : ExitStatus}
    (hlisten : client.listen s.program (callArguments s.socket s.target [] [command])
      s.commandTimeoutSecs net = (.ok ⟨silentMs, reads, .exited status⟩, net'))
    {pieces : OutputStream → List Bytes} (hreads : Pump.Drains reads pieces) :
    ∃ output : RemoteOutput,
      output = ⟨(pieces .stdout).flatten, (pieces .stderr).flatten⟩ ∧
      (Pump.ofReads reads).isDone = true ∧ (Pump.ofReads reads).output = output ∧
      (∀ early late, reads = early ++ late → late ≠ [] → (Pump.ofReads early).isDone = false) ∧
      ∃ transcript left, run client s command net = (transcript, s, left) ∧
        (∀ stream, piecesOf stream transcript.chunks = pieces stream) ∧
        (IsLost client s net' status → ∃ reason,
          transcript.ending = .error (.transport s.target.address reason output)) ∧
        (¬IsLost client s net' status → ∃ code, status = .exited code ∧
          transcript.ending = .ok ⟨code.toNat.toInt32, output⟩ ∧
          (code.toNat.toInt32 = 0 ↔ code = 0)) ∧
        ∀ {Desk File : Type} (o : SshOptions) (ws : Workstation Desk File) (e : Errand)
          (w : World (SshProcess Net) Desk) (opened : Option (Capture File)) (desk : Desk)
          (number : UInt64), e.command = command →
          connect client o e.target w.net = (.opened s, ⟨net, number⟩) →
          e.openFile ws (e.begun ws w.desk) = (.ok opened, desk) →
          ∃ result, (e.execute (connector client o) ws w).1 = some result ∧
            e.Reports output
              (e.Keeps ws (close client s left).1 transcript.chunks opened desk)
              transcript.ending result := by
  have hrun := run_of_exited hmaster hlisten
  have houtput := output_judge client s (Pump.ofReads reads).output net' status silentMs
    (Pump.ofReads reads).chunks
  rw [hreads.output] at hrun houtput
  refine ⟨_, rfl, hreads.isDone, hreads.output, fun _ _ => hreads.not_isDone, _, _, hrun,
    hreads.passed, fun hlost => judge_of_isLost hlost _, fun hstands => ?_, ?_⟩
  · obtain ⟨code, hstatus, hending⟩ := judge_of_not_isLost hstands _
    exact ⟨code, hstatus, hending, toInt32_eq_zero_iff code⟩
  · intro Desk File o ws e w opened desk number hcommand hconnect hopen
    subst hcommand
    have hsent : (connector client o).run s e.command ⟨net, number⟩ =
        ((run client s e.command net).1, (run client s e.command net).2.1,
          ⟨(run client s e.command net).2.2, number⟩) := rfl
    rw [hrun] at hsent
    exact Errand.exists_reports_of_ran hconnect hopen hsent houtput

/-! ### A benchmark on a scripted host -/

/-- A machine whose hosts write something to both streams. -/
def chattyNet : SshProcess ScriptedNet where
  net :=
    { files := .empty
      client := some ["ssh"]
      script := { default := { stdout := [111, 107, 10], stderr := [33, 10] } } }

def chattySession : SshSession String :=
  ⟨⟨1, "10.0.0.1", "ec2-user", none, 22⟩, "./ssh", "./fr-PID-1-0.sock", none,
    some "./fr-PID-1-0.sock"⟩

/-- The benchmark without a capture file. -/
def plainErrand : Errand :=
  { Errand.fullErrand with job := { Errand.fullErrand.job with capture := .off } }

/-- The pieces that come through the pipes. -/
def chattyPieces : OutputStream → List Bytes
  | .stdout => [[111, 107, 10]]
  | .stderr => [[33, 10]]

/-- What is read on a scripted host. -/
def chattyReads : List Chunk :=
  [⟨.stdout, [111, 107, 10]⟩, ⟨.stdout, []⟩, ⟨.stderr, [33, 10]⟩, ⟨.stderr, []⟩]

theorem drains_chatty : Pump.Drains chattyReads chattyPieces :=
  ⟨fun stream => by cases stream <;> rfl, fun stream => by cases stream <;> decide⟩

theorem connect_chatty :
    connect ScriptedNet.sshClient localOptions plainErrand.target chattyNet =
      (.opened chattySession,
        (connect ScriptedNet.sshClient localOptions plainErrand.target chattyNet).2) := by
  rfl

theorem listen_chatty :
    (ScriptedNet.sshClient.listen chattySession.program
      (callArguments chattySession.socket chattySession.target [] [plainErrand.command]) none
      (connect ScriptedNet.sshClient localOptions plainErrand.target chattyNet).2.net).1 =
        .ok ⟨0, chattyReads, .exited (.exited 0)⟩ := by
  decide +kernel

/-- The benchmark succeeds, and its result has what was written to both streams. -/
theorem output_kept_chatty :
    ∃ result, (plainErrand.execute (connector ScriptedNet.sshClient localOptions)
        LocalDesk.workstation ⟨chattyNet, {}⟩).1 = some result ∧
      result.status = .succeeded ∧ result.output = some ⟨[111, 107, 10], [33, 10]⟩ := by
  obtain ⟨output, rfl, -, -, -, transcript, left, -, -, -, hends, hall⟩ :=
    output_kept ScriptedNet.sshClient (rfl : chattySession.master = some "./fr-PID-1-0.sock")
      (Prod.ext listen_chatty rfl) drains_chatty
  obtain ⟨code, hcode, hending, -⟩ := hends (by simp [IsLost])
  cases hcode
  obtain ⟨result, hresult, hreports⟩ :=
    hall localOptions LocalDesk.workstation plainErrand ⟨chattyNet, {}⟩ none _ _ rfl connect_chatty
      rfl
  have hkept : plainErrand.Keeps LocalDesk.workstation (close ScriptedNet.sshClient chattySession
      left).1 transcript.chunks none (plainErrand.begun LocalDesk.workstation {}) := by
    simp [Errand.Keeps]
  exact ⟨result, hresult, (hreports.succeeded hending hkept).1, hreports.output_eq⟩

/-- With a capture file that takes nothing the same command ends with 0, in a session that stands,
and the errand fails all the same. -/
theorem success_hidden_by_capture :
    connect ScriptedNet.sshClient localOptions Errand.fullErrand.target chattyNet =
      (.opened chattySession,
        (connect ScriptedNet.sshClient localOptions Errand.fullErrand.target chattyNet).2) ∧
    (run ScriptedNet.sshClient chattySession Errand.fullErrand.command
      (connect ScriptedNet.sshClient localOptions Errand.fullErrand.target
        chattyNet).2.net).1.ending
        = .ok ⟨0, ⟨[111, 107, 10], [33, 10]⟩⟩ ∧
    (Errand.fullErrand.execute (connector ScriptedNet.sshClient localOptions)
        LocalDesk.workstation ⟨chattyNet, {}⟩).1.map
        (fun r => (r.status, r.exitCode, r.error, r.processCode))
      = some (.failed, none,
          some (.capture "/dev/full" "No space left on device (os error 28)"), 1) ∧
    ¬∃ result, (Errand.fullErrand.execute (connector ScriptedNet.sshClient localOptions)
        LocalDesk.workstation ⟨chattyNet, {}⟩).1 = some result ∧ result.status = .succeeded := by
  have hresult : (Errand.fullErrand.execute (connector ScriptedNet.sshClient localOptions)
        LocalDesk.workstation ⟨chattyNet, {}⟩).1.map
        (fun r => (r.status, r.exitCode, r.error, r.processCode))
      = some (.failed, none,
          some (.capture "/dev/full" "No space left on device (os error 28)"), 1) := by
    decide +kernel
  refine ⟨connect_chatty, by decide +kernel, hresult, ?_⟩
  rintro ⟨result, hsome, hstatus⟩
  rw [hsome] at hresult
  have hfailed := congrArg (·.1) (Option.some.inj hresult)
  cases hstatus.symm.trans hfailed

end Ssh

end RemoteFleet
