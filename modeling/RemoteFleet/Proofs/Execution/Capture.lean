import RemoteFleet.Proofs.Session.Faithful
import RemoteFleet.Execution.Stage
import RemoteFleet.Workstation.Local

/-!
# What a capture file holds

Nothing is known of a workstation's files but what `Workstation.KeepsFiles` says: a file that is
created is empty, a write adds a beginning of its bytes and is said to succeed only if it adds them
all, and nothing else that an errand does touches the file.

`Capture.Holds` is the invariant of a capture that has taken some output: standard error is held
back, the file has a beginning of standard output, and all of it as long as no write failed.  Every
chunk keeps it (`Holds.hear`), and completing the capture brings the file to its end
(`Holds.finish`).  A workstation in memory is one that can be relied on (`LocalDesk.keepsFiles`).
-/

namespace RemoteFleet

variable {Desk File : Type}

/-- What an errand relies on: how the content of a file changes.  A write adds a beginning of its
bytes, and all of them if no error is given. -/
structure Workstation.KeepsFiles (ws : Workstation Desk File) (content : File → Desk → Bytes) :
    Prop where
  create : ∀ path desk file desk', ws.create path desk = (.ok file, desk') →
    content file desk' = []
  append : ∀ file bytes desk answer desk', ws.append file bytes desk = (answer, desk') →
    ∃ kept, kept <+: bytes ∧ content file desk' = content file desk ++ kept ∧
      (answer = none → kept = bytes)
  sync : ∀ file desk, content file (ws.sync file desk).2 = content file desk
  print : ∀ file chunk desk, content file (ws.print chunk desk).2 = content file desk
  note : ∀ file event desk, content file (ws.note event desk) = content file desk

/-- A capture that has taken some output, and what its file has of that. -/
structure Capture.Holds (content : File → Desk → Bytes) (path : String) (file : File)
    (out : RemoteOutput) (capture : Capture File) (desk : Desk) : Prop where
  path_eq : capture.path = path
  file_eq : capture.file = file
  held : capture.held = out.stderr
  written : content file desk <+: out.stdout
  complete : capture.failure = none → content file desk = out.stdout

namespace Capture

variable {ws : Workstation Desk File} {content : File → Desk → Bytes} {path : String} {file : File}
  {out : RemoteOutput} {capture : Capture File} {desk desk' : Desk}

/-- A capture that was just created has an empty file. -/
theorem holds_of_create (hfiles : ws.KeepsFiles content)
    (h : create ws path desk = (.ok capture, desk')) :
    capture.Holds content path capture.file {} desk' := by
  unfold create at h
  obtain ⟨hfile, rfl⟩ := Prod.mk.inj h
  cases hanswer : (ws.create path desk).1 with
  | error e =>
    rw [hanswer] at hfile
    cases hfile
  | ok file =>
    rw [hanswer] at hfile
    cases hfile
    have hempty := hfiles.create path desk file _ (Prod.ext hanswer rfl)
    exact ⟨rfl, rfl, rfl, hempty ▸ List.prefix_refl _, fun _ => hempty⟩

/-- What leaves the file alone leaves all as it is. -/
theorem Holds.of_content_eq (h : capture.Holds content path file out desk)
    (hcontent : content file desk' = content file desk) :
    capture.Holds content path file out desk' :=
  ⟨h.path_eq, h.file_eq, h.held, hcontent ▸ h.written, fun hok => hcontent.trans (h.complete hok)⟩

/-- A chunk of standard error is held back; one of standard output is written, unless a write failed
before. -/
theorem Holds.take (hfiles : ws.KeepsFiles content) (h : capture.Holds content path file out desk)
    (chunk : Chunk) :
    (capture.take ws chunk desk).1.Holds content path file (out.add chunk)
      (capture.take ws chunk desk).2 := by
  obtain ⟨stream, bytes⟩ := chunk
  unfold Capture.take
  split
  · next hstream =>
    obtain rfl : stream = .stderr := hstream
    refine ⟨h.path_eq, h.file_eq, ?_, h.written, h.complete⟩
    simp only [RemoteOutput.add, h.held]
  · next e hstream hfailure =>
    obtain rfl : stream = .stdout := hstream
    refine ⟨h.path_eq, h.file_eq, h.held, ?_, ?_⟩
    · exact h.written.trans (List.prefix_append _ _)
    · intro hok
      rw [hfailure] at hok
      cases hok
  · next hstream hfailure =>
    obtain rfl : stream = .stdout := hstream
    have hall := h.complete hfailure
    split
    · next desk' hwrite =>
      rw [h.file_eq] at hwrite
      obtain ⟨kept, _, hcontent, hkept⟩ := hfiles.append _ _ _ _ _ hwrite
      have hnow : content file desk' = out.stdout ++ bytes := by
        rw [hcontent, hall, hkept rfl]
      exact ⟨h.path_eq, h.file_eq, h.held, hnow ▸ List.prefix_refl _, fun _ => hnow⟩
    · next e desk' hwrite =>
      rw [h.file_eq] at hwrite
      obtain ⟨kept, hbegins, hcontent, _⟩ := hfiles.append _ _ _ _ _ hwrite
      refine ⟨h.path_eq, h.file_eq, h.held, ?_, fun hok => by cases hok⟩
      rw [hfiles.note, hcontent, hall]
      exact (List.prefix_append_right_inj _).2 hbegins

/-- The console may take its copy or not. -/
theorem Holds.hear (hfiles : ws.KeepsFiles content) (h : capture.Holds content path file out desk)
    (e : Errand) (chunk : Chunk) :
    ∃ capture', (e.hear ws chunk (some capture) desk).1 = some capture' ∧
      capture'.Holds content path file (out.add chunk) (e.hear ws chunk (some capture) desk).2 := by
  refine ⟨_, rfl, ?_⟩
  refine Holds.take hfiles ?_ chunk
  split
  · exact h.of_content_eq (hfiles.print file chunk desk)
  · exact h

/-- What was held back goes behind what was written, unless a write failed. -/
theorem Holds.release (hfiles : ws.KeepsFiles content)
    (h : capture.Holds content path file out desk) :
    content file (capture.release ws desk).2 <+: out.combined ∧
      ((capture.release ws desk).1 = none →
        content file (capture.release ws desk).2 = out.combined) := by
  have hbegun : content file desk <+: out.combined := h.written.trans (List.prefix_append _ _)
  unfold Capture.release
  split
  · exact ⟨hbegun, fun hok => by cases hok⟩
  · next hfailure =>
    have hall := h.complete hfailure
    split
    · next hnothing =>
      refine ⟨hbegun, ?_⟩
      intro _
      rw [hall, RemoteOutput.combined, ← h.held, hnothing, List.append_nil]
    · obtain ⟨kept, hbegins, hcontent, hkept⟩ := hfiles.append file capture.held desk _ _ rfl
      rw [h.file_eq, hcontent, hall, RemoteOutput.combined, ← h.held]
      refine ⟨(List.prefix_append_right_inj _).2 hbegins, ?_⟩
      intro hok
      rw [hkept hok]

/-- A file whose path is given is complete. -/
theorem Holds.finish (hfiles : ws.KeepsFiles content)
    (h : capture.Holds content path file out desk) :
    content file (capture.finish ws desk).2 <+: out.combined ∧
      ∀ given, (capture.finish ws desk).1 = .ok given →
        given = path ∧ content file (capture.finish ws desk).2 = out.combined := by
  obtain ⟨hbegins, hcomplete⟩ := h.release hfiles
  unfold Capture.finish
  rcases hrelease : capture.release ws desk with ⟨answer, between⟩
  rw [hrelease] at hbegins hcomplete
  cases answer with
  | some e => exact ⟨hbegins, fun given hgiven => by cases hgiven⟩
  | none =>
    have hsync := hfiles.sync file between
    rw [← h.file_eq] at hsync hbegins hcomplete ⊢
    rcases hanswer : ws.sync capture.file between with ⟨answer, after⟩
    rw [hanswer] at hsync
    simp only [hanswer]
    cases answer with
    | some e =>
      refine ⟨?_, fun given hgiven => by cases hgiven⟩
      rw [hsync]
      exact hbegins
    | none =>
      rw [hsync]
      refine ⟨hbegins, ?_⟩
      intro given hgiven
      cases hgiven
      exact ⟨h.path_eq, hcomplete rfl⟩

end Capture

/-! ## A workstation in memory -/

/-- Looking for a file that was just put somewhere. -/
theorem FileStore.lookup_put (place : Place) (bytes : Bytes) (files : List (Place × Bytes)) :
    (put place bytes files).lookup place = some bytes := by
  induction files with
  | nil => simp [put]
  | cons file files ih =>
    obtain ⟨other, old⟩ := file
    unfold put
    split
    · next hsame => simp [hsame]
    · next hother =>
      have hne : (place == other) = false := beq_false_of_ne (Ne.symm hother)
      simp only [List.lookup_cons, hne, ih]

/-- The content of an open file. -/
def LocalDesk.content : FileStore.OpenFile → LocalDesk → Bytes
  | .regular place, desk => (desk.files.files.lookup place).getD []
  | .fullDevice, _ => []

theorem LocalDesk.content_create {path : String} {desk desk' : LocalDesk}
    {file : FileStore.OpenFile} (h : create path desk = (.ok file, desk')) :
    content file desk' = [] := by
  unfold create at h
  split at h
  · next file' files hcreate =>
    cases h
    unfold FileStore.create at hcreate
    split at hcreate
    · split at hcreate <;> cases hcreate
    · split at hcreate
      · cases hcreate
      · cases hcreate
      · cases hcreate
        rfl
      · cases hcreate
        simp only [content, FileStore.write, FileStore.lookup_put, Option.getD_some]
      · cases hcreate
        simp only [content, FileStore.write, FileStore.lookup_put, Option.getD_some]
  · cases h

theorem LocalDesk.content_append {file : FileStore.OpenFile} {bytes : Bytes}
    {desk desk' : LocalDesk} {answer : Option FileError}
    (h : append file bytes desk = (answer, desk')) :
    ∃ kept, kept <+: bytes ∧ content file desk' = content file desk ++ kept ∧
      (answer = none → kept = bytes) := by
  cases file with
  | regular place =>
    cases h
    refine ⟨bytes, List.prefix_refl _, ?_, fun _ => rfl⟩
    simp only [content, FileStore.write, FileStore.lookup_put, Option.getD_some]
  | fullDevice =>
    refine ⟨[], List.nil_prefix, rfl, ?_⟩
    intro hok
    simp only [append, FileStore.append] at h
    split at h
    · next hbytes =>
      split at hbytes
      · next hempty => exact hempty.symm
      · cases hbytes
    · cases h
      cases hok

/-- Its files keep what is written to them. -/
theorem LocalDesk.keepsFiles : workstation.KeepsFiles content where
  create _ _ _ _ h := content_create h
  append _ _ _ _ _ h := content_append h
  sync _ _ := rfl
  print file _ _ := by cases file <;> rfl
  note file _ _ := by cases file <;> rfl

end RemoteFleet
