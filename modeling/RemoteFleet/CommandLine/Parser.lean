import RemoteFleet.CommandLine.Usage
import RemoteFleet.Text.Split

/-!
# Reading command lines

A setting whose value stands in the next word is taken in when the next option comes, or at the end;
so a later unknown word is reported before a bad value right in front of it, and a bad value before
whatever follows the next option.
-/

namespace RemoteFleet.CommandLine

/-- How a word looks. -/
inductive Shape where
  /-- Two hyphens alone: no options follow. -/
  | escape
  /-- `--name` or `--name=value`. -/
  | long (name : String) (value : Option String)
  /-- A hyphen and letters. -/
  | short (letters : List Char)
  | plain
  deriving DecidableEq

def Shape.of (word : String) : Shape :=
  match word.toList with
  | ['-', '-'] => .escape
  | '-' :: '-' :: rest =>
    match Text.cutOnce? ['='] rest with
    | some (name, value) => .long (String.ofList name) (some (String.ofList value))
    | none => .long (String.ofList rest) none
  | '-' :: c :: rest => .short (c :: rest)
  | _ => .plain

/-- A setting that waits to be taken in, with the value that the line gave it. -/
structure Waiting where
  setting : Setting
  value : Option String := none

/-- Takes in the setting that waits. -/
def settle (d : Draft) : Option Waiting → Except Usage Draft
  | none => .ok d
  | some ⟨setting, some value⟩ => d.give setting value
  | some ⟨_, none⟩ => .error .noValue

/-- Whether the setting that waits still wants its value. -/
def wantsValue : Option Waiting → Option Setting
  | some ⟨setting, none⟩ => some setting
  | _ => none

/-- Reads the words behind a subcommand. -/
def readOptions (d : Draft) (waiting : Option Waiting) : List String → Except Usage Draft
  | [] => settle d waiting
  | word :: words =>
    match Shape.of word with
    | .escape => if words = [] then settle d waiting else .error .unknownArgument
    | .short ('h' :: _) => do
      let _ ← settle d waiting
      .error .help
    | .short _ => .error .unknownArgument
    | .long name value =>
      match Switch.all.lookup name, Setting.all.lookup name, value with
      | some _, _, some _ => .error .unneededValue
      | some switch, _, none => do
        let d ← settle d waiting
        let d ← d.turnOn switch
        readOptions d none words
      | none, some setting, some value => do
        let d ← settle d waiting
        let d ← d.give setting value
        readOptions d none words
      | none, some setting, none => do
        let d ← settle d waiting
        readOptions d (some ⟨setting, none⟩) words
      | none, none, _ => .error .unknownArgument
    | .plain =>
      match wantsValue waiting with
      | some setting => readOptions d (some ⟨setting, some word⟩) words
      | none => .error .unknownArgument

/-- Reads what stands behind a subcommand.  Hosts come from a file or from the line, not both. -/
def readSubcommand (subcommand : Subcommand) (jsonLogs : Bool) (words : List String) :
    Except Usage Request := do
  let d ← readOptions {} none words
  match d.options.roster, d.options.hosts with
  | some _, some _ => .error .conflict
  | none, none => .error .missingArgument
  | _, _ => return ⟨subcommand, jsonLogs || d.jsonLogs, d.options⟩

/-- The names of the subcommands, help apart. -/
def subcommands : List (String × Subcommand) := [("run", .run), ("plan", .plan)]

/-- The help for a subcommand, named by the words behind `help`. -/
def readHelp : List String → Usage
  | [] => .help
  | [name] => if name = "help" ∨ (subcommands.lookup name).isSome then .help else .invalidSubcommand
  | _ => .invalidSubcommand

/-- A word at the place of a subcommand behind two hyphens. -/
def misplaced (word : String) : Usage :=
  if word = "help" ∨ (subcommands.lookup word).isSome then .unknownArgument
  else .invalidSubcommand

/-- Reads the words in front of the subcommand, with `jsonLogs` said already or not. -/
def readWords (jsonLogs : Bool) : List String → Except Usage Request
  | [] => .error (if jsonLogs then .missingSubcommand else .helpForNothing)
  | word :: words =>
    if word = "help" then .error (readHelp words)
    else
      match subcommands.lookup word with
      | some subcommand => readSubcommand subcommand jsonLogs words
      | none =>
        match Shape.of word with
        | .escape =>
          match words with
          | [] => .error (if jsonLogs then .missingSubcommand else .helpForNothing)
          | next :: _ => .error (misplaced next)
        | .short ('h' :: _) => .error .help
        | .short ('V' :: _) => .error .version
        | .short _ => .error .unknownArgument
        | .plain => .error .invalidSubcommand
        | .long name value =>
          if name = "json-logs" ∨ name = "help" ∨ name = "version" then
            if value.isSome then .error .unneededValue
            else if name = "help" then .error .help
            else if name = "version" then .error .version
            else if jsonLogs then .error .conflict
            else readWords true words
          else .error .unknownArgument

/-- Reads a command line, without the name of the program. -/
def parse (words : List String) : Except Usage Request := readWords false words

end RemoteFleet.CommandLine
