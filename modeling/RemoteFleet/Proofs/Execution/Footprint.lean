import RemoteFleet.Proofs.Execution.Alone
import RemoteFleet.Proofs.Session.Ledger

/-!
# Which files an errand touches

`FileStore.SameBut` compares two stores: the same directories, and the same files but perhaps for
one place.  Creating a file and adding to it change the file that the path leads to, and nothing
else.

`Stage.Confined` says how an errand stands to the files that were there when it began.  Up to the
moment when its host has let it in, they are as they were; from then on only its capture file may be
different, and the file that it holds open is that one (`Confined.advance`).  An errand without a
capture file never has one (`capture?_advance_of_off`).
-/

namespace RemoteFleet

/-! ## Stores -/

/-- The file that an open file is. -/
def FileStore.OpenFile.place? : FileStore.OpenFile → Option Place
  | .regular place => some place
  | .fullDevice => none

namespace FileStore

/-- The file that is made or emptied when a path is written to. -/
def fileAt? (store : FileStore) (path : String) : Option Place :=
  match store.locate path with
  | .ok (.file place) | .ok (.vacant place) => some place
  | _ => none

/-- Two stores that are the same, but perhaps for the file at one place: whether it is there, and
what it holds. -/
structure SameBut (place? : Option Place) (store store' : FileStore) : Prop where
  directories : store'.directories = store.directories
  lookup : ∀ place, place? ≠ some place → store'.files.lookup place = store.files.lookup place

variable {place? : Option Place} {store store' store'' : FileStore} {path : String}
  {file : OpenFile}

theorem SameBut.refl (place? : Option Place) (store : FileStore) : SameBut place? store store :=
  ⟨rfl, fun _ _ => rfl⟩

theorem SameBut.trans (h : SameBut place? store store') (h' : SameBut place? store' store'') :
    SameBut place? store store'' :=
  ⟨h'.directories.trans h.directories,
    fun place hne => (h'.lookup place hne).trans (h.lookup place hne)⟩

/-- Putting a file somewhere does not change what is found elsewhere. -/
theorem lookup_put_of_ne {place other : Place} (hne : other ≠ place) (bytes : Bytes)
    (files : List (Place × Bytes)) :
    (put place bytes files).lookup other = files.lookup other := by
  have hbeq : (other == place) = false := beq_false_of_ne hne
  induction files with
  | nil => simp [put, List.lookup_cons, hbeq]
  | cons first files ih =>
    obtain ⟨place', old⟩ := first
    rw [put]
    split
    · next hsame =>
      subst hsame
      simp only [List.lookup_cons, hbeq]
    · simp only [List.lookup_cons, ih]

theorem sameBut_write (store : FileStore) (place : Place) (bytes : Bytes) :
    SameBut (some place) store (store.write place bytes) :=
  ⟨rfl, fun _ hne => lookup_put_of_ne (fun heq => hne (congrArg some heq.symm)) bytes store.files⟩

/-- What is created is the file that the path leads to. -/
theorem sameBut_create (h : store.create path = .ok (file, store')) :
    file.place? = store.fileAt? path ∧ SameBut (store.fileAt? path) store store' := by
  rw [create] at h
  split at h
  · split at h <;> cases h
  · split at h
    · cases h
    · cases h
    · next hlocate =>
      cases h
      have hnone : store.fileAt? path = none := by rw [fileAt?, hlocate]
      exact ⟨hnone.symm, SameBut.refl _ store⟩
    · next place hlocate =>
      cases h
      have hsome : store.fileAt? path = some place := by rw [fileAt?, hlocate]
      exact ⟨hsome.symm, hsome ▸ sameBut_write store place []⟩
    · next place hlocate =>
      cases h
      have hsome : store.fileAt? path = some place := by rw [fileAt?, hlocate]
      exact ⟨hsome.symm, hsome ▸ sameBut_write store place []⟩

theorem sameBut_append {bytes : Bytes} (h : store.append bytes file = .ok store') :
    SameBut file.place? store store' := by
  cases file with
  | regular place =>
    cases h
    exact sameBut_write store place _
  | fullDevice =>
    rw [append] at h
    split at h
    · cases h
      exact SameBut.refl _ store
    · cases h

end FileStore

open FileStore (SameBut OpenFile)

namespace Capture

variable {desk : LocalDesk}

theorem sameBut_append (file : OpenFile) (bytes : Bytes) (desk : LocalDesk) :
    SameBut file.place? desk.files (LocalDesk.workstation.append file bytes desk).2.files := by
  change SameBut file.place? desk.files (LocalDesk.append file bytes desk).2.files
  rw [LocalDesk.append]
  split
  · next files happend => exact FileStore.sameBut_append happend
  · exact SameBut.refl _ _

/-- Creating a capture file changes no other, and nothing at all if it fails. -/
theorem sameBut_create (path : String) (desk : LocalDesk) :
    SameBut (desk.files.fileAt? path) desk.files
        (create LocalDesk.workstation path desk).2.files ∧
      ∀ capture, (create LocalDesk.workstation path desk).1 = .ok capture →
        capture.file.place? = desk.files.fileAt? path := by
  rw [create]
  change SameBut (desk.files.fileAt? path) desk.files (LocalDesk.create path desk).2.files ∧
    ∀ capture, (LocalDesk.create path desk).1.map _ = .ok capture → _
  rw [LocalDesk.create]
  split
  · next file files hcreate =>
    obtain ⟨hfile, hsame⟩ := FileStore.sameBut_create hcreate
    refine ⟨hsame, fun capture hcapture => ?_⟩
    cases hcapture
    exact hfile
  · exact ⟨SameBut.refl _ _, fun capture hcapture => by cases hcapture⟩

/-- Taking a chunk changes no file but that of the capture, which stays open. -/
theorem sameBut_take (chunk : Chunk) (capture : Capture OpenFile) (desk : LocalDesk) :
    (capture.take LocalDesk.workstation chunk desk).1.file = capture.file ∧
      SameBut capture.file.place? desk.files
        (capture.take LocalDesk.workstation chunk desk).2.files := by
  have hwrite := sameBut_append capture.file chunk.bytes desk
  rw [take]
  split
  · exact ⟨rfl, SameBut.refl _ _⟩
  · exact ⟨rfl, SameBut.refl _ _⟩
  · split
    · next desk' happend =>
      rw [happend] at hwrite
      exact ⟨rfl, hwrite⟩
    · next e desk' happend =>
      rw [happend] at hwrite
      exact ⟨rfl, hwrite⟩

theorem sameBut_finish (capture : Capture OpenFile) (desk : LocalDesk) :
    SameBut capture.file.place? desk.files
      (capture.finish LocalDesk.workstation desk).2.files := by
  have hrelease : SameBut capture.file.place? desk.files
      (capture.release LocalDesk.workstation desk).2.files := by
    rw [release]
    split
    · exact SameBut.refl _ _
    · split
      · exact SameBut.refl _ _
      · exact sameBut_append capture.file capture.held desk
  rw [finish]
  split
  · next e between hfailed =>
    rw [hfailed] at hrelease
    exact hrelease
  · next between hreleased =>
    rw [hreleased] at hrelease
    have hsync : (LocalDesk.workstation.sync capture.file between).2 = between := rfl
    split
    · next e after hfailed =>
      rw [hfailed] at hsync
      exact hsync ▸ hrelease
    · next after hsynced =>
      rw [hsynced] at hsync
      exact hsync ▸ hrelease

end Capture

/-! ## Errands -/

/-- The file that an errand captures to, given the files there are. -/
def Errand.captureAt? (e : Errand) (store : FileStore) : Option Place :=
  e.job.capture.path?.bind store.fileAt?

namespace Stage

section Workers

variable {Net Session Desk File : Type} {c : Connector Net Session} {ws : Workstation Desk File}
  {e : Errand} {stage : Stage Session File} {w : World Net Desk}

/-- An errand without a capture file comes to none. -/
theorem capture?_advance_of_off (hoff : e.job.capture = .off) (h : stage.capture? = none) :
    (stage.advance c ws e w).1.capture? = none := by
  cases stage with
  | connecting start =>
    simp only [advance, Errand.connect]
    split <;> rfl
  | connected start session =>
    simp only [advance, Errand.openCapture, hoff]
    rfl
  | listening start session capture transcript =>
    obtain rfl : capture = none := h
    simp only [advance, Errand.listen]
    split <;> rfl
  | settling start aftermath =>
    simp only [advance, Errand.settle]
    split <;> rfl
  | ready start session capture => exact h
  | closing start session aftermath => exact h
  | _ => rfl

/-- Before the host has answered, a step leaves the files alone. -/
theorem files_advance_of_callee {View : Type} {files : Desk → View}
    (hfiles : ws.FilesStandApart files) (h : stage.callee? e ≠ none) :
    files (stage.advance c ws e w).2.desk = files w.desk := by
  cases stage with
  | waiting => exact hfiles.note _ _
  | connecting start =>
    simp only [advance, Errand.connect]
    split
    · rfl
    · rfl
    · exact hfiles.note _ _
  | _ => exact absurd rfl h

end Workers

variable {Net Session : Type} {c : Connector Net Session} {e : Errand} {store : FileStore}
  {stage : Stage Session OpenFile} {w : World Net LocalDesk}

/-- Whether the capture file is still to be created. -/
def isEarly : Stage Session OpenFile → Bool
  | .waiting | .connecting _ | .connected _ _ => true
  | _ => false

/-- How an errand stands to the files that were there when it began. -/
structure Confined (e : Errand) (store : FileStore) (stage : Stage Session OpenFile)
    (files : FileStore) : Prop where
  early : stage.isEarly = true → files = store
  held : ∀ capture, stage.capture? = some capture → capture.file.place? = e.captureAt? store
  frame : SameBut (e.captureAt? store) store files

theorem Confined.waiting (e : Errand) (store : FileStore) :
    (Stage.waiting : Stage Session OpenFile).Confined e store store :=
  ⟨fun _ => rfl, nofun, SameBut.refl _ _⟩

/-- A chunk goes to the console and into the capture file. -/
theorem sameBut_hear (e : Errand) (chunk : Chunk) (capture : Option (Capture OpenFile))
    (desk : LocalDesk) (place? : Option Place)
    (h : ∀ c, capture = some c → c.file.place? = place?) :
    (∀ c, (e.hear LocalDesk.workstation chunk capture desk).1 = some c → c.file.place? = place?) ∧
      SameBut place? desk.files (e.hear LocalDesk.workstation chunk capture desk).2.files := by
  have hprint : (if e.echo then (LocalDesk.workstation.print chunk desk).2 else desk).files
      = desk.files := by
    split <;> rfl
  cases capture with
  | none => exact ⟨nofun, hprint ▸ SameBut.refl _ _⟩
  | some c =>
    obtain ⟨hfile, hsame⟩ := c.sameBut_take chunk
      (if e.echo then (LocalDesk.workstation.print chunk desk).2 else desk)
    rw [hprint, h c rfl] at hsame
    refine ⟨fun c' hc' => ?_, hsame⟩
    cases hc'
    exact (congrArg OpenFile.place? hfile).trans (h c rfl)

/-- Once the file is open, or is not to be opened any more, nothing has to be as it was. -/
theorem Confined.of_late {files : FileStore} (hlate : stage.isEarly = false)
    (hheld : ∀ capture, stage.capture? = some capture → capture.file.place? = e.captureAt? store)
    (hframe : SameBut (e.captureAt? store) store files) : stage.Confined e store files where
  early hearly := by
    rw [hlate] at hearly
    cases hearly
  held := hheld
  frame := hframe

/-- An errand that has no file open stays within its bounds if the stores do. -/
theorem Confined.of_late_free {files : FileStore} (hlate : stage.isEarly = false)
    (hnone : stage.capture? = none) (hframe : SameBut (e.captureAt? store) store files) :
    stage.Confined e store files := by
  refine .of_late hlate (fun capture hcapture => ?_) hframe
  rw [hnone] at hcapture
  cases hcapture

/-- Every step stays within these bounds. -/
theorem Confined.advance (h : stage.Confined e store w.desk.files) :
    (stage.advance c LocalDesk.workstation e w).1.Confined e store
      (stage.advance c LocalDesk.workstation e w).2.desk.files := by
  obtain ⟨hearly, hheld, hframe⟩ := h
  cases stage with
  | waiting => exact ⟨hearly, hheld, hframe⟩
  | connecting start =>
    simp only [Stage.advance, Errand.connect]
    split
    · exact ⟨hearly, hheld, hframe⟩
    · exact .of_late_free rfl rfl hframe
    · exact .of_late_free rfl rfl hframe
  | connected start session =>
    simp only [Stage.advance, Errand.openCapture]
    split
    · exact .of_late_free rfl rfl hframe
    · next path hpath =>
      have hplace : e.captureAt? store = w.desk.files.fileAt? path := by
        rw [Errand.captureAt?, hpath, hearly rfl]
        rfl
      obtain ⟨hsame, hfile⟩ := Capture.sameBut_create path w.desk
      rw [← hplace] at hsame hfile
      split
      · next capture desk hcreate =>
        rw [hcreate] at hsame hfile
        refine .of_late rfl (fun capture' hcapture => ?_) (hframe.trans hsame)
        cases hcapture
        exact hfile capture rfl
      · next error desk hcreate =>
        rw [hcreate] at hsame
        exact .of_late_free rfl rfl (hframe.trans hsame)
  | ready start session capture => exact .of_late rfl hheld hframe
  | listening start session capture transcript =>
    simp only [Stage.advance, Errand.listen]
    split
    · exact .of_late rfl hheld hframe
    · next chunk chunks hmore =>
      obtain ⟨hfile, hsame⟩ := sameBut_hear e chunk capture w.desk (e.captureAt? store) hheld
      exact .of_late rfl hfile (hframe.trans hsame)
  | closing start session aftermath =>
    refine .of_late rfl hheld ?_
    have hnotes := files_foldl_note LocalDesk.filesStandApart
      ((c.close session w.net).1.notes
        ++ (c.close session w.net).1.error.toList.map (.closeFailed e.target.address)) w.desk
    exact hnotes ▸ hframe
  | settling start aftermath =>
    simp only [Stage.advance, Errand.settle]
    split
    · exact .of_late_free rfl rfl hframe
    · exact .of_late_free rfl rfl hframe
    · next capture ending =>
      have hsame := capture.sameBut_finish w.desk
      rw [hheld capture rfl] at hsame
      exact .of_late_free rfl rfl (hframe.trans hsame)
  | done result => exact .of_late_free rfl rfl hframe
  | dead => exact .of_late_free rfl rfl hframe

end Stage

end RemoteFleet
