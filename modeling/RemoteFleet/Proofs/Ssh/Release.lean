import Mathlib.Data.List.Infix
import RemoteFleet.Proofs.Ssh.Recording
import RemoteFleet.Ssh.Scripted

/-!
# Letting a session go

A session holds its master until it is closed or let go, whatever comes first.  Then the master is
asked to end or killed, and the control socket is removed; all that comes later does nothing.

* `useOnce` is what one command or one closing makes of a session.  `Disposition` says how a
  session stands that was held, closed or not, and what is on the record by then: every use keeps it
  (`Disposition.step`), and so does any number of uses (`disposition_of_uses`).
* What a command asks of the client is never a request to end (`not_isExitRequest_of_mem_runCalls`),
  even if the command reads like one.

What the client makes of its calls plays no part.  That a socket is gone once it is removed is a
condition on the machine; the rest holds for every machine.
-/

namespace RemoteFleet

/-- Something that is done with a session. -/
inductive SessionUse where
  | run (command : String)
  | close
  deriving DecidableEq

namespace ClientCall

variable {Master : Type}

/-- The arguments of a call of the client that is a process of its own, next to its masters. -/
def arguments? : ClientCall Master → Option (List String)
  | .call _ arguments => some arguments
  | .listen _ arguments => some arguments
  | _ => none

/-- Whether a master is asked to end. -/
def isExitRequest (call : ClientCall Master) : Bool :=
  call.arguments?.any fun arguments => ["-O", "exit"] <:+: arguments

/-- Whether a control socket is removed. -/
def isRemoval : ClientCall Master → Bool
  | .removeSocket _ => true
  | _ => false

end ClientCall

namespace Ssh

variable {Net Master : Type}

theorem isExitRequest_exit (s : SshSession Master) (program : String) :
    (.call program (exitArguments s) : ClientCall Master).isExitRequest = true :=
  decide_eq_true ⟨["-S", s.socket, "-o", "ControlMaster=no", "-o", "BatchMode=yes", "-T"],
    [s.target.destination], rfl⟩

/-- A destination is not taken for an option. -/
theorem ne_destination (target : RemoteTarget) : "-O" ≠ target.destination := by
  intro heq
  have hat : '@' ∈ target.destination.toList := by simp [RemoteTarget.destination]
  rw [← heq] at hat
  exact absurd hat (by decide)

/-- A command is never a request to end, whatever it says. -/
theorem not_isExitRequest_of_mem_runCalls (client : SshClient Net Master) {s : SshSession Master}
    {command : String} {net : Net} {call : ClientCall Master}
    (h : call ∈ runCalls client s command net) :
    call.isExitRequest = false ∧ call.isRemoval = false := by
  rcases mem_runCalls client h with rfl | rfl
  · refine ⟨decide_eq_false fun hrequest => ?_, rfl⟩
    simp [callArguments, List.infix_cons_iff, List.cons_prefix_cons, ne_destination] at hrequest
  · refine ⟨decide_eq_false fun hrequest => ?_, rfl⟩
    simp [checkArguments, List.infix_cons_iff, List.cons_prefix_cons] at hrequest

/-! ## Sessions that are closed -/

section Closed

variable (client : SshClient Net Master) {s : SshSession Master} (hclosed : s.master = none)
include hclosed

theorem run_of_closed (command : String) (net : Net) :
    run client s command net = (⟨0, [], .error .closed⟩, s, net) := by
  simp [run, hclosed]

theorem close_of_closed (net : Net) : close client s net = ({}, s, net) := by
  simp [close, hclosed]

theorem drop_of_closed (net : Net) : drop client s net = net := by
  simp [drop, hclosed]

end Closed

/-- Closing never fails. -/
theorem error_close (client : SshClient Net Master) (s : SshSession Master) (net : Net) :
    (close client s net).1.error = none := by
  cases hmaster : s.master <;> simp [close, hmaster]

/-- A command leaves the session as it is. -/
theorem session_run (client : SshClient Net Master) (s : SshSession Master) (command : String)
    (net : Net) : (run client s command net).2.1 = s := by
  unfold run
  split
  · rfl
  · split
    · rfl
    · dsimp only
      split <;> rfl

/-! ## One use after the other -/

/-- What one use makes of a session and its machine. -/
def useOnce (client : SshClient Net Master) :
    SshSession Master × Net → SessionUse → SshSession Master × Net
  | (s, net), .run command => (run client s command net).2
  | (s, net), .close => (close client s net).2

/-- How a session that a master held stands, `closed` or not, and what is on the record. -/
structure Disposition (there : String → Net → Prop) (held : SshSession Master) (closed : Bool)
    (state : SshSession Master × Net × List (ClientCall Master)) : Prop where
  session : state.1 = if closed then { held with master := none } else held
  exits : state.2.2.filter ClientCall.isExitRequest =
    if closed then [.call held.program (exitArguments held)] else []
  removals : state.2.2.filter ClientCall.isRemoval =
    if closed then [.removeSocket held.socket] else []
  gone : closed = true → ¬there held.socket state.2.1

section Held

variable (client : SshClient Net Master) {held : SshSession Master}

/-- A command asks for no end and removes no socket. -/
theorem filter_runCalls (held : SshSession Master) (command : String) (net : Net) :
    (runCalls client held command net).filter ClientCall.isExitRequest = [] ∧
      (runCalls client held command net).filter ClientCall.isRemoval = [] := by
  constructor <;> refine List.filter_eq_nil_iff.2 fun call hcall => ?_
  · simp [(not_isExitRequest_of_mem_runCalls client hcall).1]
  · simp [(not_isExitRequest_of_mem_runCalls client hcall).2]

variable {master : Master} (hmaster : held.master = some master)
include hmaster

/-- In the first closing the master is asked to end and the socket removed, each once. -/
theorem filter_closeCalls (net : Net) :
    (closeCalls client held net).filter ClientCall.isExitRequest =
        [.call held.program (exitArguments held)] ∧
      (closeCalls client held net).filter ClientCall.isRemoval = [.removeSocket held.socket] := by
  have hexit := isExitRequest_exit held held.program
  cases hended : (client.awaitMaster master closeMs
      (client.call held.program (exitArguments held) net).2).1 <;>
    simp only [closeCalls, hmaster, hended] <;>
    exact ⟨List.filter_cons_of_pos hexit, rfl⟩

/-- The first closing takes the master from its session and removes the socket. -/
theorem close_of_held (net : Net) :
    (close client held net).2.1 = { held with master := none } ∧
      ∃ left, (close client held net).2.2 = client.removeSocket held.socket left := by
  simp only [close, hmaster]
  exact ⟨trivial, _, rfl⟩

end Held

section Uses

variable {client : SshClient Net Master} {there : String → Net → Prop}
  (hremoved : ∀ socket net, ¬there socket (client.removeSocket socket net))
  {held : SshSession Master} {master : Master} (hmaster : held.master = some master)
include hremoved hmaster

/-- Every use keeps it. -/
theorem Disposition.step {closed : Bool}
    {state : SshSession Master × Net × List (ClientCall Master)}
    (h : Disposition there held closed state) (u : SessionUse) :
    Disposition there held (closed || u = .close) (useOnce client.recorded state u) := by
  obtain ⟨s, net, calls⟩ := state
  obtain ⟨hsession, hexits, hremovals, hgone⟩ := h
  dsimp only at hsession
  cases closed with
  | true =>
    have hclosed : s.master = none := by simp [hsession]
    have hsame : useOnce client.recorded (s, net, calls) u = (s, net, calls) := by
      cases u with
      | run command => simp [useOnce, run_of_closed _ hclosed]
      | close => simp [useOnce, close_of_closed _ hclosed]
    rw [hsame, Bool.true_or]
    exact ⟨hsession, hexits, hremovals, hgone⟩
  | false =>
    have heq : s = held := hsession
    subst heq
    cases u with
    | run command =>
      have hfilter := filter_runCalls client s command net
      simp only [useOnce, run_recorded, session_run]
      exact ⟨rfl, by simpa [hfilter.1] using hexits, by simpa [hfilter.2] using hremovals, by simp⟩
    | close =>
      obtain ⟨hexit, hremoval⟩ := filter_closeCalls client hmaster net
      obtain ⟨hleft, left, hnet⟩ := close_of_held client hmaster net
      simp only [useOnce, close_recorded, hleft, hnet]
      refine ⟨by simp, ?_, ?_, fun _ => hremoved _ _⟩
      · rw [List.filter_append, hexits, hexit]
        rfl
      · rw [List.filter_append, hremovals, hremoval]
        rfl

/-- So does any number of uses. -/
theorem disposition_of_uses (uses : List SessionUse) {closed : Bool}
    {state : SshSession Master × Net × List (ClientCall Master)}
    (h : Disposition there held closed state) :
    Disposition there held (closed || SessionUse.close ∈ uses)
      (uses.foldl (useOnce client.recorded) state) := by
  induction uses generalizing closed state with
  | nil => simpa using h
  | cons u uses ih =>
    have hall := ih (h.step hremoved hmaster u)
    have hclosed : (closed || decide (SessionUse.close ∈ u :: uses)) =
        (closed || decide (u = .close) || decide (SessionUse.close ∈ uses)) := by
      cases u <;> simp
    rwa [List.foldl_cons, hclosed]

omit hremoved hmaster in
/-- The record changes nothing. -/
theorem exists_uses_recorded (client : SshClient Net Master) (uses : List SessionUse)
    (s : SshSession Master) (net : Net) (calls : List (ClientCall Master)) :
    ∃ calls', uses.foldl (useOnce client.recorded) (s, net, calls) =
      ((uses.foldl (useOnce client) (s, net)).1, (uses.foldl (useOnce client) (s, net)).2,
        calls') := by
  induction uses generalizing s net calls with
  | nil => exact ⟨calls, rfl⟩
  | cons u uses ih =>
    cases u with
    | run command =>
      simp only [List.foldl_cons, useOnce, run_recorded]
      exact ih _ _ _
    | close =>
      simp only [List.foldl_cons, useOnce, close_recorded]
      exact ih _ _ _

end Uses

/-- The life of a session that a master holds, for every client and whatever comes of its calls:
commands are run in it and it is closed, in any order, and in the end it is let go.  Until it is
closed it keeps its master, which is killed if it is let go like that.  Once it is closed it has no
master, its socket is gone, and a command in it is refused; neither that nor another closing nor
letting it go asks anything of the client.  No closing fails.  In all, the master is asked to end
once if the session was closed, and not otherwise, and the socket is removed once. -/
theorem session_released_once (client : SshClient Net Master) (there : String → Net → Prop)
    (hremoved : ∀ socket net, ¬there socket (client.removeSocket socket net))
    {held : SshSession Master} {master : Master} (hmaster : held.master = some master)
    (uses : List SessionUse) (net : Net) :
    ∃ s used calls last,
      uses.foldl (useOnce client) (held, net) = (s, used) ∧
      uses.foldl (useOnce client.recorded) (held, net, []) = (s, used, calls) ∧
      drop client.recorded s (used, calls) = (drop client s used, calls ++ last) ∧
      (.close ∉ uses → s = held ∧ last = [.killMaster master, .removeSocket held.socket]) ∧
      (.close ∈ uses →
        s.master = none ∧ ¬there held.socket used ∧
        (∀ command, run client.recorded s command (used, calls) =
          (⟨0, [], .error .closed⟩, s, used, calls)) ∧
        close client.recorded s (used, calls) = ({}, s, used, calls) ∧
        drop client s used = used ∧ last = []) ∧
      (close client s used).1.error = none ∧
      ¬there held.socket (drop client s used) ∧
      (calls ++ last).filter ClientCall.isExitRequest =
        (if .close ∈ uses then [.call held.program (exitArguments held)] else []) ∧
      (calls ++ last).filter ClientCall.isRemoval = [.removeSocket held.socket] := by
  have hstart : Disposition there held false (held, net, []) := ⟨rfl, rfl, rfl, nofun⟩
  have hend := disposition_of_uses hremoved hmaster uses hstart
  obtain ⟨calls, huses⟩ := exists_uses_recorded client uses held net []
  rw [huses, Bool.false_or] at hend
  rcases hplain : uses.foldl (useOnce client) (held, net) with ⟨s, used⟩
  rw [hplain] at hend huses
  obtain ⟨hsession, hexits, hremovals, hgone⟩ := hend
  dsimp only at hsession hexits hremovals hgone
  refine ⟨s, used, calls, dropCalls s, rfl, huses, drop_recorded client s _, ?_⟩
  by_cases hclose : SessionUse.close ∈ uses
  · simp only [hclose, decide_true, if_true] at hsession hexits hremovals hgone
    have hclosed : s.master = none := by rw [hsession]
    have hlast : dropCalls s = [] := by simp [dropCalls, hclosed]
    refine ⟨fun hnot => absurd hclose hnot, fun _ => ⟨hclosed, hgone trivial,
      fun command => run_of_closed _ hclosed command _, close_of_closed _ hclosed _,
      drop_of_closed _ hclosed _, hlast⟩, error_close client s used, ?_, ?_, ?_⟩
    · rw [drop_of_closed _ hclosed]
      exact hgone trivial
    · rw [hlast, List.append_nil, hexits, if_pos hclose]
    · rw [hlast, List.append_nil, hremovals]
  · simp only [hclose, decide_false] at hsession hexits hremovals
    subst hsession
    have hlast : dropCalls s = [.killMaster master, .removeSocket s.socket] := by
      simp [dropCalls, hmaster]
    refine ⟨fun _ => ⟨rfl, hlast⟩, fun hin => absurd hin hclose, error_close client s used, ?_, ?_,
      ?_⟩
    · simp only [drop, hmaster]
      exact hremoved _ _
    · rw [hlast, List.filter_append, hexits, if_neg hclose]
      rfl
    · rw [hlast, List.filter_append, hremovals]
      rfl

/-! ### A session that is closed twice -/

def heldSession : SshSession String :=
  ⟨⟨1, "a", "ec2-user", none, 22⟩, "./ssh", "a.sock", none, some "a.sock"⟩

def heldNet : ScriptedNet where
  files := .empty
  client := some ["ssh"]
  masters := [⟨"a.sock", true, none, []⟩]
  sockets := ["a.sock"]

/-- Its master is asked to end once.  The command after that is refused. -/
theorem session_released_once_twice_closed :
    ∃ s used calls last,
      [.run "uptime", .close, .run "date", .close].foldl (useOnce ScriptedNet.sshClient.recorded)
        (heldSession, heldNet, []) = (s, used, calls) ∧
      s.master = none ∧ "a.sock" ∉ used.sockets ∧
      (run ScriptedNet.sshClient.recorded s "id" (used, calls)).1.ending.toOption = none ∧
      (calls ++ last).filter ClientCall.isExitRequest =
        [.call "./ssh" (exitArguments heldSession)] := by
  obtain ⟨s, used, calls, last, -, huses, -, -, hclosed, -, -, hexits, -⟩ :=
    session_released_once ScriptedNet.sshClient (fun socket net => socket ∈ net.sockets)
      (by simp [ScriptedNet.sshClient]) (rfl : heldSession.master = some "a.sock")
      [.run "uptime", .close, .run "date", .close] heldNet
  have hclose : SessionUse.close ∈ [.run "uptime", .close, .run "date", .close] := by simp
  obtain ⟨hmaster, hgone, hrun, -⟩ := hclosed hclose
  rw [if_pos hclose] at hexits
  refine ⟨s, used, calls, last, huses, hmaster, hgone, ?_, hexits⟩
  rw [hrun "id"]
  rfl

end Ssh

end RemoteFleet
