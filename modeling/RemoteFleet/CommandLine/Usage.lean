import RemoteFleet.Config.Invocation
import RemoteFleet.Text.Numeral

/-!
# Options of the command line

A switch stands alone; a setting takes one value, in the next word or behind `=`.  `Usage` lists why
a command line asks for nothing that can be done.
-/

namespace RemoteFleet

/-- Why a command line is not run. -/
inductive Usage where
  | help
  | version
  /-- There is nothing on the line. -/
  | helpForNothing
  | missingSubcommand
  | invalidSubcommand
  | missingArgument
  | conflict
  | unknownArgument
  | noValue
  | badValue
  | unneededValue
  deriving DecidableEq

/-- Whether help or the version was asked for, so that nothing is wrong. -/
def Usage.isRequest : Usage → Bool
  | .help => true
  | .version => true
  | _ => false

def Usage.message : Usage → String
  | .help => "usage: fleetrun [--json-logs] <run|plan> <--roster FILE|--hosts LIST> [OPTIONS]"
  | .version => "fleetrun"
  | .helpForNothing => "a subcommand is needed: run or plan"
  | .missingSubcommand => "a subcommand is needed: run or plan"
  | .invalidSubcommand => "there is no such subcommand"
  | .missingArgument => "one of --roster and --hosts is needed"
  | .conflict => "an option is given twice, or cannot be given with another"
  | .unknownArgument => "there is no such option"
  | .noValue => "an option lacks its value"
  | .badValue => "an option has a value that is no number, or one out of range"
  | .unneededValue => "an option takes no value"

/-- The exit status that goes with it. -/
def Usage.exitCode (u : Usage) : UInt8 := if u.isRequest then 0 else 2

/-- The two things that can be done. -/
inductive Subcommand where
  | run
  | plan
  deriving DecidableEq

def Subcommand.name : Subcommand → String
  | .run => "run"
  | .plan => "plan"

/-- What a command line asks for. -/
structure Request where
  subcommand : Subcommand
  jsonLogs : Bool
  options : RunOptions

namespace CommandLine

/-- An option without a value. -/
inductive Switch where
  | help
  | jsonLogs
  | noLeaderFatal
  | strictWorkers
  | json
  | quiet
  deriving DecidableEq

def Switch.all : List (String × Switch) :=
  [("help", .help), ("json-logs", .jsonLogs), ("no-leader-fatal", .noLeaderFatal),
    ("strict-workers", .strictWorkers), ("json", .json), ("quiet", .quiet)]

/-- An option with a value. -/
inductive Setting where
  | roster
  | hosts
  | user
  | key
  | port
  | select
  | job
  | workdir
  | setup
  | leader
  | leaderJob
  | capture
  | concurrency
  | connectTimeout
  deriving DecidableEq

def Setting.all : List (String × Setting) :=
  [("roster", .roster), ("hosts", .hosts), ("user", .user), ("key", .key), ("port", .port),
    ("select", .select), ("job", .job), ("workdir", .workdir), ("setup", .setup),
    ("leader", .leader), ("leader-job", .leaderJob), ("capture", .capture),
    ("concurrency", .concurrency), ("connect-timeout", .connectTimeout)]

/-- The options read so far. -/
structure Draft where
  options : RunOptions := {}
  jsonLogs : Bool := false

/-- Turns a switch on, once. -/
def Draft.turnOn (d : Draft) : Switch → Except Usage Draft
  | .help => .error .help
  | .jsonLogs => if d.jsonLogs then .error .conflict else .ok { d with jsonLogs := true }
  | .noLeaderFatal =>
    if d.options.noLeaderFatal then .error .conflict
    else .ok { d with options := { d.options with noLeaderFatal := true } }
  | .strictWorkers =>
    if d.options.strictWorkers then .error .conflict
    else .ok { d with options := { d.options with strictWorkers := true } }
  | .json =>
    if d.options.json then .error .conflict
    else .ok { d with options := { d.options with json := true } }
  | .quiet =>
    if d.options.quiet then .error .conflict
    else .ok { d with options := { d.options with quiet := true } }

/-- A value for a setting that may be given once. -/
def once (old : Option α) (value : Except Usage α) : Except Usage (Option α) :=
  match old with
  | some _ => .error .conflict
  | none => value.map some

/-- A path must not be empty. -/
def path (value : String) : Except Usage String := if value = "" then .error .noValue else .ok value

/-- A number, of which only the fault's place in the line counts. -/
def number (n : Except Text.NumeralError Nat) : Except Usage Nat := n.mapError fun _ => .badValue

/-- Gives a setting its value. -/
def giveTo (o : RunOptions) (value : String) : Setting → Except Usage RunOptions
  | .roster => return { o with roster := ← once o.roster (path value) }
  | .hosts => return { o with hosts := ← once o.hosts (.ok value) }
  | .user => return { o with user := ← once o.user (.ok value) }
  | .key => return { o with key := ← once o.key (path value) }
  | .port => do
    let n := number (Text.readSigned 0xFFFF value.toList)
    return { o with port := ← once o.port (n.map Nat.toUInt16) }
  | .select => return { o with select := ← once o.select (.ok value) }
  | .job => return { o with job := ← once o.job (.ok value) }
  | .workdir => return { o with workdir := ← once o.workdir (.ok value) }
  | .setup => return { o with setup := o.setup ++ [value] }
  | .leader => do
    let n := number (Text.readSigned 0xFFFFFFFF value.toList)
    return { o with leader := ← once o.leader (n.map Nat.toUInt32) }
  | .leaderJob => return { o with leaderJob := ← once o.leaderJob (.ok value) }
  | .capture => return { o with capture := ← once o.capture (path value) }
  | .concurrency => do
    let n := number (Text.readNumeral 0xFFFFFFFFFFFFFFFF value.toList)
    return { o with concurrency := ← once o.concurrency n }
  | .connectTimeout => do
    let n := number (Text.readNumeral 0xFFFFFFFFFFFFFFFF value.toList)
    return { o with connectTimeout := ← once o.connectTimeout (n.map Nat.toUInt64) }

/-- Gives a setting its value. -/
def Draft.give (d : Draft) (setting : Setting) (value : String) : Except Usage Draft :=
  (giveTo d.options value setting).map fun options => { d with options }

end CommandLine

end RemoteFleet
