import RemoteFleet.Json.Record
import RemoteFleet.Template.Basic

/-!
# Templates and jobs as JSON
-/

namespace RemoteFleet

def CommandTemplate.toJson (t : CommandTemplate) : Json :=
  .object (Json.memberOf "workdir" .string t.workdir
    ++ (if t.setup = [] then [] else [("setup", .ofStrings t.setup)])
    ++ [("command", .string t.command)])

def CommandTemplate.ofJson? (j : Json) : Option CommandTemplate := do
  let f ← j.fields? ["workdir", "setup", "command"]
  let workdir ← f.withDefault "workdir" none (Json.nullable? Json.string?)
  let setup ← f.withDefault "setup" [] (Json.list? Json.string?)
  let command ← f.required "command" Json.string?
  return { workdir, setup, command }

def CapturePolicy.toJson : CapturePolicy → Json
  | .off => .string "none"
  | .file path => .object [("file", .string path)]

def CapturePolicy.ofJson? : Json → Option CapturePolicy
  | .string "none" => some .off
  | .object [("none", .null)] => some .off
  | .object [("file", .string path)] => some (.file path)
  | _ => none

def CommandJob.toJson (job : CommandJob) : Json :=
  .object [("name", .string job.name), ("template", job.template.toJson),
    ("capture", job.capture.toJson)]

def CommandJob.ofJson? (j : Json) : Option CommandJob := do
  let f ← j.fields? ["name", "template", "capture"]
  let name ← f.required "name" Json.string?
  let template ← f.required "template" CommandTemplate.ofJson?
  let capture ← f.withDefault "capture" .off CapturePolicy.ofJson?
  return { name, template, capture }

end RemoteFleet
