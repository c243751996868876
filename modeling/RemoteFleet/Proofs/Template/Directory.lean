import RemoteFleet.Template.Basic
import RemoteFleet.Text.Quoted

/-!
# The working directory stays one word

A rendered template changes into its directory first, and the name of the directory may be
anything: placeholders are filled in before it is quoted.  `Shell.readWord` takes the first word off
a line the way a shell does, with single quotes, double quotes and backslashes, and also says of
each character whether the shell takes it for itself whatever it is.

* `readWord_quoteWord`: a quoted text is read back as it is, and not one character more.
* `render_directory`: so the name of the directory is the one argument of `cd`, and the line goes on
  with ` && ` and the stages behind it.
-/

namespace RemoteFleet

namespace Shell

/-! ## Reading a word -/

/-- A character of a word without the quotes. -/
structure Letter where
  char : Char
  /-- Whether quotes or a backslash take every meaning from it. -/
  literal : Bool
  deriving DecidableEq

/-- Where a reader of words stands. -/
inductive Quotes where
  | none
  | single
  | double
  /-- Behind a backslash, in double quotes or not. -/
  | escaped (inDouble : Bool)
  deriving DecidableEq

/-- The characters that end a word. -/
def endsWord (c : Char) : Bool :=
  [' ', '\t', '\n', '|', '&', ';', '<', '>', '(', ')'].contains c

/-- The characters that keep a meaning in double quotes, so that a backslash can take it. -/
def isActive (c : Char) : Bool := ['$', '\x60', '"', '\\'].contains c

/-- The characters for which a shell takes something else when they are not literal: they end the
word, begin quotes, or stand for what is put in their place, for a pattern, a home directory, a
comment, an assignment or a job. -/
def hasMeaning (c : Char) : Bool :=
  endsWord c || isActive c || ['\'', '*', '?', '[', '#', '~', '=', '%'].contains c

/-- One letter more in front of what is read. -/
def putLetter (l : Letter) : List Letter × List Char → List Letter × List Char
  | (word, rest) => (l :: word, rest)

/-- Reads the rest of a word: its letters, and the text behind it.  Quotes that are never closed
make no word, nor does a backslash with nothing behind it. -/
def readQuoted : Quotes → List Char → Option (List Letter × List Char)
  | .none, [] => some ([], [])
  | .none, c :: s =>
    if endsWord c then some ([], c :: s)
    else if c = '\'' then readQuoted .single s
    else if c = '"' then readQuoted .double s
    else if c = '\\' then readQuoted (.escaped false) s
    else (readQuoted .none s).map (putLetter ⟨c, false⟩)
  | .single, c :: s =>
    if c = '\'' then readQuoted .none s else (readQuoted .single s).map (putLetter ⟨c, true⟩)
  | .double, c :: s =>
    if c = '"' then readQuoted .none s
    else if c = '\\' then readQuoted (.escaped true) s
    else (readQuoted .double s).map (putLetter ⟨c, !isActive c⟩)
  | .escaped false, c :: s =>
    -- A line that goes on behind a backslash: both characters go.
    if c = '\n' then readQuoted .none s else (readQuoted .none s).map (putLetter ⟨c, true⟩)
  | .escaped true, c :: s =>
    if c = '\n' then readQuoted .double s
    else if isActive c then (readQuoted .double s).map (putLetter ⟨c, true⟩)
    else (readQuoted .double s).map (putLetter ⟨'\\', true⟩ ∘ putLetter ⟨c, true⟩)
  | _, [] => Option.none

/-- The word at the start of a text, and what follows it. -/
def readWord : List Char → Option (List Letter × List Char)
  | [] => Option.none
  | c :: s => if endsWord c then Option.none else readQuoted .none (c :: s)

/-! ## Reading a quoted word -/

/-- A text as letters, all of them with quotes or all of them without. -/
def letters (literal : Bool) (s : List Char) : List Letter := s.map (⟨·, literal⟩)

@[simp]
theorem letters_nil (literal : Bool) : letters literal [] = [] := rfl

@[simp]
theorem letters_cons (literal : Bool) (c : Char) (s : List Char) :
    letters literal (c :: s) = ⟨c, literal⟩ :: letters literal s := rfl

@[simp]
theorem char_letters (literal : Bool) (s : List Char) :
    (letters literal s).map (·.char) = s := by
  rw [letters, List.map_map]
  exact List.map_id s

/-- What has a meaning for the shell is quoted. -/
theorem hasMeaning_of_not_special {c : Char} (h : isSpecial c = false) : hasMeaning c = false := by
  simp only [isSpecial, List.contains_eq_mem, decide_eq_false_iff_not, List.mem_cons, not_or,
    List.not_mem_nil] at h
  simp [hasMeaning, endsWord, isActive, h]

theorem endsWord_of_not_special {c : Char} (h : isSpecial c = false) : endsWord c = false := by
  have hplain := hasMeaning_of_not_special h
  simp only [hasMeaning, Bool.or_eq_false_iff] at hplain
  exact hplain.1.1

variable {rest : List Char}

/-- Outside of quotes, a text of characters that need none. -/
theorem readQuoted_plain {s : List Char} (hrest : readQuoted .none rest = some ([], rest))
    (h : ∀ c ∈ s, isSpecial c = false) :
    readQuoted .none (s ++ rest) = some (letters false s, rest) := by
  induction s with
  | nil => exact hrest
  | cons c s ih =>
    obtain ⟨hc, hs⟩ := List.forall_mem_cons.1 h
    have hquotes : c ≠ '\'' ∧ c ≠ '"' ∧ c ≠ '\\' := by
      refine ⟨?_, ?_, ?_⟩ <;> rintro rfl <;> cases hc
    simp [readQuoted, endsWord_of_not_special hc, hquotes, ih hs, putLetter]

/-- Between single quotes, a text with its own single quotes written out. -/
theorem readQuoted_quoteInside (hrest : readQuoted .none rest = some ([], rest)) (s : List Char) :
    readQuoted .single (s.flatMap quoteInside ++ '\'' :: rest) = some (letters true s, rest) := by
  induction s with
  | nil => simpa [readQuoted] using hrest
  | cons c s ih =>
    by_cases hc : c = '\''
    · -- The quotes end, a backslash and a quote come, and quotes begin again.
      subst hc
      simp [quoteInside, readQuoted, endsWord, ih, putLetter]
    · simp [quoteInside, readQuoted, hc, ih, putLetter]

/-- A quoted text is read back as it is, up to where its word is over.  What stands outside of
quotes has no meaning for the shell. -/
theorem readWord_quoteWord (hrest : readQuoted .none rest = some ([], rest)) (s : List Char) :
    ∃ word, readWord (quoteWord s ++ rest) = some (word, rest) ∧ word.map (·.char) = s ∧
      ∀ l ∈ word, l.literal = false → hasMeaning l.char = false := by
  unfold quoteWord
  split
  · next hs =>
    refine ⟨[], ?_, by simp [hs], by simp⟩
    simpa [readWord, readQuoted, endsWord] using hrest
  · next hs =>
    split
    · refine ⟨letters true s, ?_, char_letters true s, by simp [letters]⟩
      simpa [readWord, readQuoted, endsWord] using readQuoted_quoteInside hrest s
    · next hplain =>
      have hall : ∀ c ∈ s, isSpecial c = false := by simpa using hplain
      have hletters : ∀ l ∈ letters false s, l.literal = false → hasMeaning l.char = false := by
        simpa [letters] using fun c hc => hasMeaning_of_not_special (hall c hc)
      refine ⟨letters false s, ?_, char_letters false s, hletters⟩
      rw [← readQuoted_plain hrest hall]
      cases s with
      | nil => exact absurd rfl hs
      | cons c s => simp [readWord, endsWord_of_not_special (hall c List.mem_cons_self)]

end Shell

namespace CommandTemplate

/-- The stages behind the directory. -/
def stagesBehind (t : CommandTemplate) (target : RemoteTarget) : List (List Char) :=
  t.keptSetup.map (fun step => substitute step.toList target)
    ++ [substitute t.command.toList target]

/-- A rendered template begins with `cd` and one word, the directory with its placeholders filled
in, whatever the directory and the target hold.  Behind it stand ` && ` and the other stages. -/
theorem render_directory {t : CommandTemplate} {dir : String} (hdir : t.workdir = some dir)
    (target : RemoteTarget) :
    ∃ text word, (t.render target).toList = ['c', 'd', ' '] ++ text ∧
      Shell.readWord text
        = some (word, andThen ++ andThen.intercalate (t.stagesBehind target)) ∧
      word.map (·.char) = substitute dir.toList target ∧
      ∀ l ∈ word, l.literal = false → Shell.hasMeaning l.char = false := by
  have hover : Shell.readQuoted .none (andThen ++ andThen.intercalate (t.stagesBehind target))
      = some ([], andThen ++ andThen.intercalate (t.stagesBehind target)) := rfl
  obtain ⟨word, hword, hvalue, hplain⟩ :=
    Shell.readWord_quoteWord hover (substitute dir.toList target)
  refine ⟨_, word, ?_, hword, hvalue, hplain⟩
  have hstages : t.stages target
      = (['c', 'd', ' '] ++ Shell.quoteWord (substitute dir.toList target))
        :: t.stagesBehind target := by
    simp [stages, stagesBehind, hdir]
  rw [render, String.toList_ofList, hstages, List.intercalate_cons_of_ne_nil]
  · simp
  · simp [stagesBehind]

/-- A directory that is named after the user, and a user that would like to run a command. -/
def homeTemplate : CommandTemplate where
  workdir := some "/home/\x7b\x7buser\x7d\x7d"
  setup := ["  ", "umask 022"]
  command := "make"

def slyTarget : RemoteTarget := ⟨3, "10.0.0.3", "it's; $(reboot) && \"", none, 22⟩

theorem render_directory_sly :
    homeTemplate.render slyTarget
      = "cd '/home/it'\\''s; $(reboot) && \"' && umask 022 && make" ∧
    ∃ text word, (homeTemplate.render slyTarget).toList = ['c', 'd', ' '] ++ text ∧
      Shell.readWord text = some (word, " && umask 022 && make".toList) ∧
      word.map (·.char) = "/home/it's; $(reboot) && \"".toList := by
  have hvalue : substitute "/home/\x7b\x7buser\x7d\x7d".toList slyTarget
      = "/home/it's; $(reboot) && \"".toList := by decide +kernel
  have hrest : andThen ++ andThen.intercalate (homeTemplate.stagesBehind slyTarget)
      = " && umask 022 && make".toList := by decide +kernel
  obtain ⟨text, word, hrender, hword, hchars, _⟩ :=
    render_directory (t := homeTemplate) rfl slyTarget
  rw [hrest] at hword
  rw [hvalue] at hchars
  exact ⟨by decide +kernel, text, word, hrender, hword, hchars⟩

end CommandTemplate

end RemoteFleet
