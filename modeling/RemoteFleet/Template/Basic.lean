import RemoteFleet.Template.Pattern
import RemoteFleet.Text.Quoted

/-!
# Command templates and jobs

A template says what a host runs: change into a directory, take the setup steps, run the command.
`render` joins the stages for one target with ` && `, so that a stage runs only after those before
it.  A job is a template with a name and, for the leader, a file that takes its output.
-/

namespace RemoteFleet

/-- What to run on a host. -/
structure CommandTemplate where
  workdir : Option String := none
  setup : List String := []
  command : String
  deriving DecidableEq

namespace CommandTemplate

/-- Why a template cannot be used. -/
inductive Fault where
  | emptyCommand
  | unclosedPlaceholder (text : String)
  | unknownPlaceholder (name : String)
  deriving DecidableEq

/-- The names of all placeholders, as messages list them. -/
def knownNames : List Char := [',', ' '].intercalate (Placeholder.known.map (·.name))

def Fault.message : Fault → String
  | .emptyCommand => "empty command"
  | .unclosedPlaceholder text => "unclosed placeholder in " ++ Text.quoteString text
  | .unknownPlaceholder name =>
    "unknown placeholder " ++ String.ofList (openBraces ++ name.toList ++ closeBraces)
      ++ " (expected one of " ++ String.ofList knownNames ++ ")"

/-- Checks the placeholders of one text. -/
def checkText (text : String) : Except Fault (List Placeholder) :=
  match (Pattern.ofText text.toList).check with
  | .ok names => .ok names
  | .error .unclosedPlaceholder => .error (.unclosedPlaceholder text)
  | .error (.unknownPlaceholder name) => .error (.unknownPlaceholder (String.ofList name))

/-- The texts of a template that may hold placeholders, in the order of the check. -/
def texts (t : CommandTemplate) : List String := t.workdir.toList ++ t.setup ++ [t.command]

/-- Whether the template can be used: a command is there, and every placeholder is known. -/
def validate (t : CommandTemplate) : Except Fault Unit :=
  if Text.isAllBlank t.command.toList then .error .emptyCommand
  else t.texts.forM fun text => (checkText text).map fun _ => ()

/-- The setup steps that are kept: those that are not blank. -/
def keptSetup (t : CommandTemplate) : List String :=
  t.setup.filter fun step => !Text.isAllBlank step.toList

/-- The stages of the shell line for a target. -/
def stages (t : CommandTemplate) (target : RemoteTarget) : List (List Char) :=
  (t.workdir.toList.map fun dir =>
      ['c', 'd', ' '] ++ Shell.quoteWord (substitute dir.toList target))
    ++ t.keptSetup.map (fun step => substitute step.toList target)
    ++ [substitute t.command.toList target]

/-- What stands between two stages. -/
def andThen : List Char := [' ', '&', '&', ' ']

/-- The shell line for a target. -/
def render (t : CommandTemplate) (target : RemoteTarget) : String :=
  String.ofList (andThen.intercalate (t.stages target))

end CommandTemplate

/-- Whether the leader's output goes into a file as well. -/
inductive CapturePolicy where
  | off
  | file (path : String)
  deriving DecidableEq

/-- The file that takes the output. -/
def CapturePolicy.path? : CapturePolicy → Option String
  | .off => none
  | .file path => some path

def CapturePolicy.ofPath? : Option String → CapturePolicy
  | none => .off
  | some path => .file path

/-- A template under a name. -/
structure CommandJob where
  name : String
  template : CommandTemplate
  capture : CapturePolicy := .off
  deriving DecidableEq

end RemoteFleet
