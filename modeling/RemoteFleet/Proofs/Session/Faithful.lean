import RemoteFleet.Session.Mock
import RemoteFleet.Ssh.Connector

/-!
# Sessions that give back what they passed on

A command passes its output on chunk by chunk, and what it ends with may carry output as well.  A
transcript is faithful when the two agree: the output that it ends with is its chunks put together.
Scripted hosts and the ssh client are faithful, also when the connection is lost.

`RemoteOutput.ofChunks` is a fold, so what is put together only grows (`ofChunks_append`,
`stdout_prefix_foldl`).
-/

namespace RemoteFleet

/-! ## Chunks put together -/

theorem RemoteOutput.ofChunks_append (a b : List Chunk) :
    ofChunks (a ++ b) = b.foldl add (ofChunks a) := by
  rw [ofChunks, List.foldl_append]
  rfl

/-- A chunk more leaves what was there where it is. -/
theorem RemoteOutput.stdout_prefix_add (o : RemoteOutput) (chunk : Chunk) :
    o.stdout <+: (o.add chunk).stdout := by
  obtain ⟨stream, bytes⟩ := chunk
  cases stream with
  | stdout => exact List.prefix_append _ _
  | stderr => exact List.prefix_refl _

theorem RemoteOutput.stdout_prefix_foldl (o : RemoteOutput) (chunks : List Chunk) :
    o.stdout <+: (chunks.foldl add o).stdout := by
  induction chunks generalizing o with
  | nil => exact List.prefix_refl _
  | cons chunk chunks ih => exact (o.stdout_prefix_add chunk).trans (ih (o.add chunk))

/-! ## Faithful transcripts -/

/-- The output that a command ends with. -/
def Transcript.output? (t : Transcript) : Option RemoteOutput :=
  match t.ending with
  | .ok outcome => some outcome.output
  | .error error => error.output?

/-- Whether a command ends with the output that it passed on, if it ends with any. -/
def Transcript.IsFaithful (t : Transcript) : Prop :=
  ∀ output, t.output? = some output → output = .ofChunks t.chunks

/-- Whether all commands of all sessions are faithful. -/
def Connector.IsFaithful {Net Session : Type} (c : Connector Net Session) : Prop :=
  ∀ session command net, (c.run session command net).1.IsFaithful

/-! ### Scripted hosts -/

theorem MockScript.ofChunks_replay (output : RemoteOutput) :
    .ofChunks (replay output) = output := by
  obtain ⟨stdout, stderr⟩ := output
  unfold replay
  by_cases hout : stdout = []
  · by_cases herr : stderr = []
    · simp [hout, herr, RemoteOutput.ofChunks]
    · simp [hout, herr, RemoteOutput.ofChunks, RemoteOutput.add]
  · by_cases herr : stderr = []
    · simp [hout, herr, RemoteOutput.ofChunks, RemoteOutput.add]
    · simp [hout, herr, RemoteOutput.ofChunks, RemoteOutput.add]

theorem MockScript.isFaithful_play (address : String) (delayMs : Nat) (behavior : MockBehavior) :
    (play address delayMs behavior).IsFaithful := by
  intro output houtput
  cases behavior with
  | succeed written =>
    cases houtput
    exact (ofChunks_replay written).symm
  | exit code written =>
    cases houtput
    exact (ofChunks_replay written).symm
  | refuse reason =>
    cases houtput
    rfl
  | timeout =>
    cases houtput
    rfl
  | dropConnection reason =>
    cases houtput
    rfl
  | dropAfter written reason =>
    cases houtput
    exact (ofChunks_replay output).symm

theorem MockScript.isFaithful_connector (m : MockScript) : m.connector.IsFaithful := by
  intro session command net
  simp only [connector, run]
  split
  · intro output houtput
    cases houtput
  · exact isFaithful_play _ _ _

/-! ### The ssh client -/

/-- A pump gives back what it passed on. -/
theorem Pump.output_take {p : Pump} (h : p.output = .ofChunks p.chunks) (read : Chunk) :
    (p.take read).output = .ofChunks (p.take read).chunks := by
  unfold take
  split
  · split
    · cases read.stream <;> exact h
    · simp only [RemoteOutput.ofChunks_append, List.foldl_cons, List.foldl_nil, h]
  · exact h

theorem Pump.output_takeAll {p : Pump} (h : p.output = .ofChunks p.chunks)
    (reads : List Chunk) : (p.takeAll reads).output = .ofChunks (p.takeAll reads).chunks := by
  induction reads generalizing p with
  | nil => exact h
  | cons read reads ih =>
    unfold takeAll
    split
    · exact h
    · exact ih (output_take h read)

theorem Pump.output_ofReads (reads : List Chunk) :
    (ofReads reads).output = .ofChunks (ofReads reads).chunks :=
  output_takeAll rfl reads

namespace Ssh

variable {Net Master : Type} (client : SshClient Net Master)

/-- What a judged command carries is what was read. -/
theorem output_judge (s : SshSession Master) (output : RemoteOutput) (net : Net)
    (status : ExitStatus) (silentMs : Nat) (chunks : List Chunk) :
    (⟨silentMs, chunks, (judge client s output net status).1⟩ : Transcript).output?
      = some output := by
  unfold judge
  split
  · rfl
  · split
    · split <;> rfl
    · rfl

theorem isFaithful_connector (o : SshOptions) : (connector client o).IsFaithful := by
  intro session command process output houtput
  simp only [connector, run] at houtput ⊢
  split at houtput
  · cases houtput
  · split at houtput
    · cases houtput
    · next r net' _ =>
      split at houtput
      · cases houtput
      · cases houtput
      · next status _ =>
        rw [output_judge] at houtput
        cases houtput
        exact Pump.output_ofReads r.reads

end Ssh

end RemoteFleet
