import RemoteFleet.Proofs.Session.Faithful

/-!
# What comes through two pipes

The reads of two pipes come in one sequence, in whatever order the pipes had something.  `piecesOf`
is what came through one of them.  A pump passes on the pieces of each pipe up to its end, in their
order and whole, whatever happens on the other one (`Pump.piecesOf_takeAll`), and it is done when
both have ended (`Pump.isDone_ofReads_iff`).

`Pump.Drains` is a sequence of reads that brings both pipes to their ends.
-/

namespace RemoteFleet

/-- What came through one pipe, piece by piece. -/
def piecesOf (stream : OutputStream) (chunks : List Chunk) : List Bytes :=
  (chunks.filter (·.stream = stream)).map (·.bytes)

theorem piecesOf_append (stream : OutputStream) (earlier later : List Chunk) :
    piecesOf stream (earlier ++ later) = piecesOf stream earlier ++ piecesOf stream later := by
  simp [piecesOf]

theorem piecesOf_cons (stream : OutputStream) (chunk : Chunk) (chunks : List Chunk) :
    piecesOf stream (chunk :: chunks) =
      (if chunk.stream = stream then [chunk.bytes] else []) ++ piecesOf stream chunks := by
  by_cases hstream : chunk.stream = stream <;> simp [piecesOf, hstream]

/-- Chunks that are put together are the pieces of each stream. -/
theorem RemoteOutput.ofChunks_eq (chunks : List Chunk) :
    ofChunks chunks =
      ⟨(piecesOf .stdout chunks).flatten, (piecesOf .stderr chunks).flatten⟩ := by
  have hall (o : RemoteOutput) : chunks.foldl add o =
      ⟨o.stdout ++ (piecesOf .stdout chunks).flatten,
        o.stderr ++ (piecesOf .stderr chunks).flatten⟩ := by
    induction chunks generalizing o with
    | nil => simp [piecesOf]
    | cons chunk chunks ih =>
      obtain ⟨stream, bytes⟩ := chunk
      cases stream <;> simp [ih, piecesOf_cons, add]
  exact hall {}

namespace Pump

variable {p : Pump} {read : Chunk} {reads : List Chunk} {stream : OutputStream}

theorem isDone_iff : p.isDone = true ↔ ∀ stream, p.isOpen stream = false := by
  constructor
  · intro hdone stream
    cases stream <;> simp_all [isDone, isOpen]
  · intro hshut
    simpa [isDone, isOpen] using And.intro (hshut .stdout) (hshut .stderr)

/-! ## One read -/

theorem isOpen_shut (p : Pump) (ended stream : OutputStream) :
    (p.shut ended).isOpen stream = (p.isOpen stream && !(ended = stream)) := by
  cases ended <;> cases stream <;> simp [shut, isOpen]

theorem chunks_shut (p : Pump) (ended : OutputStream) : (p.shut ended).chunks = p.chunks := by
  cases ended <;> rfl

/-- A pipe ends with an empty read of its own. -/
theorem isOpen_take (p : Pump) (read : Chunk) (stream : OutputStream) :
    (p.take read).isOpen stream =
      (p.isOpen stream && !(read.stream = stream && read.bytes = [])) := by
  unfold take
  split
  · split
    · next hempty => simp [isOpen_shut, hempty]
    · next hfilled => cases stream <;> simp [isOpen, hfilled]
  · next hshut =>
    by_cases hstream : read.stream = stream
    · subst hstream
      simp [hshut]
    · simp [hstream]

/-- Any other read is passed on, if its pipe has not ended. -/
theorem piecesOf_take (p : Pump) (read : Chunk) (stream : OutputStream) :
    piecesOf stream (p.take read).chunks = piecesOf stream p.chunks ++
      if read.stream = stream ∧ p.isOpen stream = true ∧ read.bytes ≠ [] then [read.bytes]
      else [] := by
  unfold take
  split
  · next hopen =>
    split
    · next hempty => simp [chunks_shut, hempty]
    · next hfilled =>
      by_cases hstream : read.stream = stream
      · subst hstream
        simp [piecesOf, hopen, hfilled]
      · simp [piecesOf, hstream]
  · next hshut =>
    have hnot : ¬(read.stream = stream ∧ p.isOpen stream = true ∧ read.bytes ≠ []) := by
      rintro ⟨rfl, hopen, -⟩
      exact hshut hopen
    rw [if_neg hnot, List.append_nil]

/-! ## All reads -/

theorem takeAll_of_isDone {p : Pump} (hdone : p.isDone = true) (reads : List Chunk) :
    p.takeAll reads = p := by
  cases reads with
  | nil => rfl
  | cons read reads => rw [takeAll, if_pos hdone]

/-- A pipe has ended when its empty read has come. -/
theorem isOpen_takeAll (p : Pump) (reads : List Chunk) (stream : OutputStream) :
    (p.takeAll reads).isOpen stream =
      (p.isOpen stream && !([] ∈ piecesOf stream reads)) := by
  induction reads generalizing p with
  | nil => simp [takeAll, piecesOf]
  | cons read reads ih =>
    by_cases hdone : p.isDone = true
    · rw [takeAll_of_isDone hdone, isDone_iff.1 hdone stream, Bool.false_and]
    · rw [takeAll, if_neg hdone, ih, isOpen_take, piecesOf_cons]
      by_cases hstream : read.stream = stream <;> by_cases hempty : read.bytes = [] <;>
        simp [hstream, hempty, eq_comm]

/-- Of each pipe everything is passed on that came before its end. -/
theorem piecesOf_takeAll (p : Pump) (reads : List Chunk) (stream : OutputStream) :
    piecesOf stream (p.takeAll reads).chunks = piecesOf stream p.chunks ++
      if p.isOpen stream then (piecesOf stream reads).takeWhile (· ≠ []) else [] := by
  induction reads generalizing p with
  | nil => simp [takeAll, piecesOf]
  | cons read reads ih =>
    by_cases hdone : p.isDone = true
    · simp [takeAll_of_isDone hdone, isDone_iff.1 hdone stream]
    · rw [takeAll, if_neg hdone, ih, isOpen_take, piecesOf_take, piecesOf_cons]
      by_cases hstream : read.stream = stream <;> by_cases hempty : read.bytes = [] <;>
        cases p.isOpen stream <;> simp [hstream, hempty]

/-- A pump is done when both pipes have ended. -/
theorem isDone_ofReads_iff (reads : List Chunk) :
    (ofReads reads).isDone = true ↔ ∀ stream, [] ∈ piecesOf stream reads := by
  have hopen (stream : OutputStream) : ({} : Pump).isOpen stream = true := by cases stream <;> rfl
  simp [isDone_iff, ofReads, isOpen_takeAll, hopen]

theorem piecesOf_ofReads (reads : List Chunk) (stream : OutputStream) :
    piecesOf stream (ofReads reads).chunks =
      (piecesOf stream reads).takeWhile (· ≠ []) := by
  have hopen : ({} : Pump).isOpen stream = true := by cases stream <;> rfl
  rw [ofReads, piecesOf_takeAll, hopen, if_pos rfl]
  rfl

/-! ## Both pipes to their ends -/

/-- Reads that bring both pipes to their ends: the pieces of each come in their order, and then its
end, in any order between the two. -/
structure Drains (reads : List Chunk) (pieces : OutputStream → List Bytes) : Prop where
  pieces_eq : ∀ stream, piecesOf stream reads = pieces stream ++ [[]]
  filled : ∀ stream, [] ∉ pieces stream

namespace Drains

variable {pieces : OutputStream → List Bytes} (h : Drains reads pieces)
include h

theorem isDone : (ofReads reads).isDone = true :=
  (isDone_ofReads_iff reads).2 fun stream => by simp [h.pieces_eq]

theorem passed (stream : OutputStream) :
    piecesOf stream (ofReads reads).chunks = pieces stream := by
  rw [piecesOf_ofReads, h.pieces_eq]
  have hfilled : ∀ bytes ∈ pieces stream, bytes ≠ [] := by
    rintro bytes hbytes rfl
    exact h.filled stream hbytes
  rw [List.takeWhile_append_of_pos (by simpa using hfilled)]
  simp

theorem output : (ofReads reads).output =
    ⟨(pieces .stdout).flatten, (pieces .stderr).flatten⟩ := by
  rw [output_ofReads, RemoteOutput.ofChunks_eq, h.passed, h.passed]

/-- Before the last of them some pipe has not ended. -/
theorem not_isDone {early late : List Chunk} (hreads : reads = early ++ late) (hlate : late ≠ []) :
    (ofReads early).isDone = false := by
  obtain ⟨read, late, rfl⟩ := List.exists_cons_of_ne_nil hlate
  have hpieces := congrArg List.dropLast (h.pieces_eq read.stream)
  rw [hreads, piecesOf_append, piecesOf_cons, if_pos rfl, List.singleton_append,
    List.dropLast_append_of_ne_nil (List.cons_ne_nil _ _), List.dropLast_concat] at hpieces
  refine Bool.eq_false_iff.2 fun hdone => h.filled read.stream ?_
  have hended := (isDone_ofReads_iff early).1 hdone read.stream
  exact hpieces ▸ List.mem_append_left _ hended

end Drains

end Pump

end RemoteFleet
