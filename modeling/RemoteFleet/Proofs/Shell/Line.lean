import RemoteFleet.Template.Basic
import RemoteFleet.Text.Quoted

/-!
# How a shell reads and runs a line

A shell line here is made of simple commands with `&&`, `||`, `;` and line ends between them.  A
simple command is what a shell takes for one: words with quotes, escapes, parameters and
redirections.  Left out is what holds further commands or binds them together: substitutions,
groups, subshells, pipelines, background commands, compound commands, here-documents and comments.
A text with any of these is not read, nor is one that a shell would not accept.

`lex` cuts a text into tokens one character at a time, `parse` collects the words of each command,
and `eval` runs the commands from left to right, given which of them succeed.  `&&` and `||` bind
equally, so what matters for a command is only what stands before it and how things stand there.
A semicolon or line ends may close a text that nothing follows: no operator may stand behind them.

Two texts with ` && ` between them are read as the two, one after the other (`read_andThen`).
-/

namespace RemoteFleet.Shell

/-! ## Tokens -/

/-- What stands between two commands. -/
inductive Joint where
  | and
  | or
  /-- A semicolon, or the end of a line. -/
  | seq
  deriving DecidableEq

inductive Token where
  /-- A word as it is written, quotes and all. -/
  | word (raw : List Char)
  | joint (joint : Joint)
  | newline
  deriving DecidableEq

/-- Where a reader stands, with what it has of a word. -/
inductive Mode where
  /-- Outside of quotes.  Nothing of a word is there between two words. -/
  | plain (raw : List Char)
  | single (raw : List Char)
  | double (raw : List Char)
  /-- Behind a backslash, in double quotes or not. -/
  | escaped (inDouble : Bool) (raw : List Char)
  /-- Behind a dollar sign. -/
  | dollar (inDouble : Bool) (raw : List Char)
  /-- Between the braces of a parameter. -/
  | braces (inDouble : Bool) (raw : List Char)
  /-- Behind the first character of a redirection. -/
  | redirect (sign : Char) (raw : List Char)
  /-- Before the target of a redirection. -/
  | target (raw : List Char)
  /-- Behind one `&`. -/
  | ampersand
  /-- Behind one `|`. -/
  | bar
  deriving DecidableEq

/-- The word that is over, if there is one. -/
def flush (raw : List Char) : List Token := if raw = [] then [] else [.word raw]

/-- A character outside of quotes. -/
def stepPlain (raw : List Char) (c : Char) : Option (Mode × List Token) :=
  if c = ' ' ∨ c = '\t' then some (.plain [], flush raw)
  else if c = '\n' then some (.plain [], flush raw ++ [.newline])
  else if c = ';' then some (.plain [], flush raw ++ [.joint .seq])
  else if c = '&' then some (.ampersand, flush raw)
  else if c = '|' then some (.bar, flush raw)
  else if c = '(' ∨ c = ')' ∨ c = '\x60' then none
  else if c = '#' ∧ raw = [] then none
  else
    let raw' := raw ++ [c]
    if c = '\'' then some (.single raw', [])
    else if c = '"' then some (.double raw', [])
    else if c = '\\' then some (.escaped false raw', [])
    else if c = '$' then some (.dollar false raw', [])
    else if c = '<' ∨ c = '>' then
      -- A number before the sign belongs to the redirection, any other word is over.
      if raw.all Char.isDigit then some (.redirect c raw', [])
      else some (.redirect c [c], flush raw)
    else some (.plain raw', [])

/-- A character in double quotes. -/
def stepDouble (raw : List Char) (c : Char) : Option (Mode × List Token) :=
  if c = '\x60' then none
  else
    let raw' := raw ++ [c]
    if c = '"' then some (.plain raw', [])
    else if c = '\\' then some (.escaped true raw', [])
    else if c = '$' then some (.dollar true raw', [])
    else some (.double raw', [])

/-- The mode outside of braces. -/
def Mode.text (inDouble : Bool) (raw : List Char) : Mode :=
  if inDouble then .double raw else .plain raw

/-- A character in the target of a redirection. -/
def stepTarget (raw : List Char) (c : Char) : Option (Mode × List Token) :=
  if c = ' ' ∨ c = '\t' then some (.target raw, [])
  else if ['\n', ';', '&', '|', '#', '<', '>'].contains c then none
  else stepPlain raw c

/-- The pairs of characters that redirect. -/
def redirections : List (Char × Char) :=
  [('>', '>'), ('>', '&'), ('>', '|'), ('<', '&'), ('<', '>')]

/-- One character more: the next mode, and the tokens that are complete. -/
def step : Mode → Char → Option (Mode × List Token)
  | .plain raw, c => stepPlain raw c
  | .single raw, c => some (if c = '\'' then .plain (raw ++ [c]) else .single (raw ++ [c]), [])
  | .double raw, c => stepDouble raw c
  | .escaped inDouble raw, c =>
    -- A line that goes on behind a backslash is left out: the shell drops both characters.
    if c = '\n' then none else some (.text inDouble (raw ++ [c]), [])
  | .dollar inDouble raw, c =>
    if c = '(' ∨ (!inDouble && (c = '\'' || c = '"')) then none
    else if c = '\x7b' then some (.braces inDouble (raw ++ [c]), [])
    else if c = '$' then some (.text inDouble (raw ++ [c]), [])
    else if inDouble then stepDouble raw c else stepPlain raw c
  | .braces inDouble raw, c =>
    if ['\'', '"', '\\', '$', '\x60', '\x7b'].contains c then none
    else if c = '\x7d' then some (.text inDouble (raw ++ [c]), [])
    else some (.braces inDouble (raw ++ [c]), [])
  | .redirect sign raw, c =>
    if redirections.contains (sign, c) then some (.target (raw ++ [c]), []) else stepTarget raw c
  | .target raw, c => stepTarget raw c
  | .ampersand, c => if c = '&' then some (.plain [], [.joint .and]) else none
  | .bar, c => if c = '|' then some (.plain [], [.joint .or]) else none

/-- The tokens that are complete when a text ends here. -/
def finish : Mode → Option (List Token)
  | .plain raw => some (flush raw)
  | .dollar false raw => some (flush raw)
  | _ => none

/-- Reads on from a mode: the tokens that are complete, and the mode at the end. -/
def scan : Mode → List Char → Option (List Token × Mode)
  | mode, [] => some ([], mode)
  | mode, c :: s => do
    let (mode, tokens) ← step mode c
    let (rest, mode) ← scan mode s
    return (tokens ++ rest, mode)

/-- The tokens of a text. -/
def lex (s : List Char) : Option (List Token) := do
  let (tokens, mode) ← scan (.plain []) s
  let last ← finish mode
  return tokens ++ last

/-! ## Lines -/

/-- Commands in their order, each with its words and with what stands before it.  Before the first
one stands nothing, which is as good as a semicolon. -/
abbrev Line : Type := List (Joint × List (List Char))

/-- The words that mean something else to a shell than the name of a command. -/
def reserved : List (List Char) :=
  ["!", "\x7b", "\x7d", "case", "do", "done", "elif", "else", "esac", "fi", "for", "if", "in",
    "then", "until", "while", "[[", "]]", "function", "select"].map (·.toList)

/-- Collects commands: the joint before the next one, and its words so far.  `last` says that
nothing follows the tokens. -/
def parse (last : Bool) : Joint → List (List Char) → List Token → Option Line
  | _, [], [] => none
  | joint, words, [] => some [(joint, words)]
  | joint, [], .newline :: tokens => parse last joint [] tokens
  | joint, words, .newline :: tokens =>
    if last ∧ tokens.all (· = .newline) then some [(joint, words)]
    else (parse last .seq [] tokens).map ((joint, words) :: ·)
  | _, [], .joint _ :: _ => none
  | joint, words, .joint next :: tokens =>
    if last ∧ next = .seq ∧ tokens.all (· = .newline) then some [(joint, words)]
    else (parse last next [] tokens).map ((joint, words) :: ·)
  | joint, words, .word raw :: tokens =>
    if words = [] ∧ raw ∈ reserved then none else parse last joint (words ++ [raw]) tokens

/-- Reads a text as a shell line.  `last` says that nothing follows the text. -/
def read (last : Bool) (s : List Char) : Option Line := (lex s).bind (parse last .seq [])

example : (read false "cd /x && a; b '&&' || c\n\n$HOME/d >> log".toList).map (·.map (·.1))
    = some [.seq, .and, .seq, .or, .seq] := by rfl

example : (read true "a;\n".toList, read false "a;\n".toList)
    = (some [(.seq, [['a']])], none) := by rfl

example : read true "a && (b; c)".toList = none := by rfl

/-! ## Running a line -/

/-- Whether a command is run, given how things stand. -/
def Joint.runs : Joint → Bool → Bool
  | .and, status => status
  | .or, status => !status
  | .seq, _ => true

/-- Runs commands, the first of which has place `n` on its line, given which places succeed: the
places that are run, and how things stand at the end. -/
def eval (outcome : Nat → Bool) : Nat → Bool → Line → List Nat × Bool
  | _, status, [] => ([], status)
  | n, status, (joint, _) :: rest =>
    if joint.runs status then
      let (places, last) := eval outcome (n + 1) (outcome n) rest
      (n :: places, last)
    else eval outcome (n + 1) status rest

/-! ## Two texts one after the other -/

theorem scan_append (mode : Mode) (a b : List Char) :
    scan mode (a ++ b) = (scan mode a).bind fun (first, between) =>
      (scan between b).map fun (second, last) => (first ++ second, last) := by
  induction a generalizing mode with
  | nil =>
    simp only [List.nil_append, scan, Option.bind_some]
    cases scan mode b <;> rfl
  | cons c a ih =>
    simp only [List.cons_append, scan]
    cases step mode c with
    | none => rfl
    | some next =>
      obtain ⟨mode', tokens⟩ := next
      simp only [Option.bind_eq_bind, Option.bind_some, ih]
      cases scan mode' a with
      | none => rfl
      | some reached =>
        obtain ⟨first, between⟩ := reached
        simp only [Option.bind_some, Option.pure_def]
        cases scan between b with
        | none => rfl
        | some more => simp

/-- Where a text may end, ` && ` may follow. -/
theorem scan_andThen {mode : Mode} {last : List Token} (h : finish mode = some last) :
    scan mode CommandTemplate.andThen = some (last ++ [.joint .and], .plain []) := by
  cases mode with
  | plain raw =>
    cases h
    rfl
  | dollar inDouble raw =>
    cases inDouble with
    | true => cases h
    | false =>
      cases h
      rfl
  | _ => cases h

/-- The tokens of two texts with ` && ` between them. -/
theorem lex_andThen {a b : List Char} {first second : List Token} (ha : lex a = some first)
    (hb : lex b = some second) :
    lex (a ++ CommandTemplate.andThen ++ b) = some (first ++ .joint .and :: second) := by
  obtain ⟨⟨tokens, mode⟩, hscan, ha⟩ := Option.bind_eq_some_iff.1 ha
  obtain ⟨last, hfinish, ha⟩ := Option.bind_eq_some_iff.1 ha
  obtain ⟨⟨tokens', mode'⟩, hscan', hb⟩ := Option.bind_eq_some_iff.1 hb
  cases ha
  have hboth : scan (.plain []) (a ++ CommandTemplate.andThen ++ b)
      = some (tokens ++ last ++ .joint .and :: tokens', mode') := by
    simp only [List.append_assoc, scan_append, hscan, Option.bind_some, scan_andThen hfinish,
      hscan', Option.map_some]
    simp
  obtain ⟨last', hfinish', hb⟩ := Option.bind_eq_some_iff.1 hb
  cases hb
  simp only [lex, hboth, Option.bind_eq_bind, Option.bind_some, hfinish', Option.pure_def]
  simp

/-- A line with another joint before its first command. -/
def behind (joint : Joint) : Line → Line
  | [] => []
  | (_, words) :: rest => (joint, words) :: rest

/-- What stands before the first command has no bearing on how the commands are read. -/
theorem parse_behind {last : Bool} (joint next : Joint) (words : List (List Char))
    (tokens : List Token) :
    parse last joint words tokens = (parse last next words tokens).map (behind joint) := by
  induction tokens generalizing words with
  | nil => cases words <;> rfl
  | cons token tokens ih =>
    cases token with
    | word raw =>
      simp only [parse]
      split
      · rfl
      · exact ih (words ++ [raw])
    | newline =>
      cases words with
      | nil => exact ih []
      | cons word words =>
        simp only [parse]
        split
        · rfl
        · rw [Option.map_map]
          rfl
    | joint later =>
      cases words with
      | nil => rfl
      | cons word words =>
        simp only [parse]
        split
        · rfl
        · rw [Option.map_map]
          rfl

/-- Commands, `&&`, and commands again.  The first ones do not end the text, so nothing may close
them. -/
theorem parse_append {last : Bool} {joint : Joint} {words : List (List Char)} {a b : List Token}
    {first second : Line} (ha : parse false joint words a = some first)
    (hb : parse last .and [] b = some second) :
    parse last joint words (a ++ .joint .and :: b) = some (first ++ second) := by
  induction a generalizing joint words first with
  | nil =>
    cases words with
    | nil => cases ha
    | cons word words =>
      cases ha
      have hnext : ¬(last = true ∧ Joint.and = .seq ∧ b.all (· = .newline) = true) := by simp
      simp only [List.nil_append, parse, if_neg hnext, hb, Option.map_some, List.cons_append]
  | cons token a ih =>
    have hopen : (a ++ .joint .and :: b).all (· = .newline) = false := by simp
    cases token with
    | word raw =>
      simp only [List.cons_append, parse] at ha ⊢
      split at ha
      · cases ha
      · next hname =>
        rw [if_neg hname]
        exact ih ha
    | newline =>
      cases words with
      | nil => exact ih ha
      | cons word words =>
        obtain ⟨rest, hrest, rfl⟩ := Option.map_eq_some_iff.1 ha
        simp only [List.cons_append, parse, hopen, Bool.false_eq_true, and_false, if_false,
          ih hrest, Option.map_some]
    | joint later =>
      cases words with
      | nil => cases ha
      | cons word words =>
        obtain ⟨rest, hrest, rfl⟩ := Option.map_eq_some_iff.1 ha
        simp only [List.cons_append, parse, hopen, Bool.false_eq_true, and_false, if_false,
          ih hrest, Option.map_some]

/-- Two texts with ` && ` between them. -/
theorem read_andThen {last : Bool} {a b : List Char} {first second : Line}
    (ha : read false a = some first) (hb : read last b = some second) :
    read last (a ++ CommandTemplate.andThen ++ b) = some (first ++ behind .and second) := by
  obtain ⟨tokens, hlex, ha⟩ := Option.bind_eq_some_iff.1 ha
  obtain ⟨tokens', hlex', hb⟩ := Option.bind_eq_some_iff.1 hb
  have hsecond : parse last .and [] tokens' = some (behind .and second) := by
    rw [parse_behind .and .seq, hb, Option.map_some]
  simp only [read, lex_andThen hlex hlex', Option.bind_some, parse_append ha hsecond]

/-- A line that was read begins with a command that is run whatever happens. -/
theorem eq_cons_of_parse {last : Bool} {joint : Joint} {words : List (List Char)}
    {tokens : List Token} {line : Line} (h : parse last joint words tokens = some line) :
    ∃ command rest, line = (joint, command) :: rest := by
  induction tokens generalizing words line with
  | nil =>
    cases words with
    | nil => cases h
    | cons word words =>
      cases h
      exact ⟨_, _, rfl⟩
  | cons token tokens ih =>
    cases token with
    | word raw =>
      simp only [parse] at h
      split at h
      · cases h
      · exact ih h
    | newline =>
      cases words with
      | nil => exact ih h
      | cons word words =>
        simp only [parse] at h
        split at h
        · cases h
          exact ⟨_, _, rfl⟩
        · obtain ⟨rest, _, rfl⟩ := Option.map_eq_some_iff.1 h
          exact ⟨_, _, rfl⟩
    | joint later =>
      cases words with
      | nil => cases h
      | cons word words =>
        simp only [parse] at h
        split at h
        · cases h
          exact ⟨_, _, rfl⟩
        · obtain ⟨rest, _, rfl⟩ := Option.map_eq_some_iff.1 h
          exact ⟨_, _, rfl⟩

theorem eq_cons_of_read {last : Bool} {s : List Char} {line : Line}
    (h : read last s = some line) : ∃ command rest, line = (.seq, command) :: rest := by
  obtain ⟨tokens, _, hparse⟩ := Option.bind_eq_some_iff.1 h
  exact eq_cons_of_parse hparse

end RemoteFleet.Shell
