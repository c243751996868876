import RemoteFleet.Json.Printer
import RemoteFleet.Json.Record
import RemoteFleet.Report.Basic

/-!
# Results and reports as JSON

The output of a command is not part of the JSON form, so a result comes back without it.
-/

namespace RemoteFleet

def Phase.toJson (p : Phase) : Json := .string p.name

def Phase.ofJson? : Json → Option Phase := Json.choice? [("worker", .worker), ("leader", .leader)]

def RunStatus.toJson (s : RunStatus) : Json := .string s.name

def RunStatus.ofJson? : Json → Option RunStatus :=
  Json.choice? [("succeeded", .succeeded), ("failed", .failed), ("cancelled", .cancelled)]

def RunError.toJson : RunError → Json
  | .connection address reason =>
    .object [("kind", .string "connection"), ("address", .string address),
      ("reason", .string reason)]
  | .remoteExecution address code tail =>
    .object [("kind", .string "remote_execution"), ("address", .string address),
      ("exit_code", .integer code.toInt), ("output_tail", .string tail)]
  | .capture path reason =>
    .object [("kind", .string "capture"), ("path", .string path), ("reason", .string reason)]
  | .cancelled address => .object [("kind", .string "cancelled"), ("address", .string address)]

/-- Reads the fields of an error whose kind is known. -/
def RunError.ofFields? (kind : String) (j : Json) : Option RunError :=
  match kind with
  | "connection" => do
    let f ← j.fields? ["address", "reason"]
    return .connection (← f.required "address" Json.string?) (← f.required "reason" Json.string?)
  | "remote_execution" => do
    let f ← j.fields? ["address", "exit_code", "output_tail"]
    return .remoteExecution (← f.required "address" Json.string?)
      (← f.required "exit_code" Json.int32?) (← f.required "output_tail" Json.string?)
  | "capture" => do
    let f ← j.fields? ["path", "reason"]
    return .capture (← f.required "path" Json.string?) (← f.required "reason" Json.string?)
  | "cancelled" => do
    let f ← j.fields? ["address"]
    return .cancelled (← f.required "address" Json.string?)
  | _ => none

/-- Reads an error.  Its kind is a member, or the first element. -/
def RunError.ofJson? : Json → Option RunError
  | .object members => do
    let kind ← members.lookup "kind" >>= Json.string?
    RunError.ofFields? kind (.object members)
  | .array (.string kind :: values) => RunError.ofFields? kind (.array values)
  | _ => none

def Timestamp.toJson (t : Timestamp) : Json := .ofChars t.write

def Timestamp.ofJson? (j : Json) : Option Timestamp := j.string? >>= fun s => read? s.toList

def Uuid.toJson (u : Uuid) : Json := .ofChars u.write

def Uuid.ofJson? (j : Json) : Option Uuid := j.string? >>= fun s => read? s.toList

def RunResult.toJson (r : RunResult) : Json :=
  .object ([("phase", r.phase.toJson), ("index", .ofNat r.index.toNat),
      ("address", .string r.address), ("job", .string r.job), ("status", r.status.toJson)]
    ++ Json.memberOf "exit_code" (fun c => .integer c.toInt) r.exitCode
    ++ Json.memberOf "error" RunError.toJson r.error
    ++ Json.memberOf "capture_path" .string r.capturePath
    ++ [("started_at", r.startedAt.toJson), ("duration_ms", .ofNat r.durationMs.toNat)])

def RunResult.ofJson? (j : Json) : Option RunResult := do
  let f ← j.fields? ["phase", "index", "address", "job", "status", "exit_code", "error",
    "capture_path", "started_at", "duration_ms"]
  let phase ← f.required "phase" Phase.ofJson?
  let index ← f.required "index" Json.uint32?
  let address ← f.required "address" Json.string?
  let job ← f.required "job" Json.string?
  let status ← f.required "status" RunStatus.ofJson?
  let exitCode ← f.optional "exit_code" Json.int32?
  let error ← f.optional "error" RunError.ofJson?
  let capturePath ← f.optional "capture_path" Json.string?
  let startedAt ← f.required "started_at" Timestamp.ofJson?
  let durationMs ← f.required "duration_ms" Json.uint64?
  return { phase, index, address, job, status, exitCode, error, capturePath, startedAt,
           durationMs, output := none }

def FleetReport.toJson (r : FleetReport) : Json :=
  .object ([("run_id", r.runId.toJson), ("started_at", r.startedAt.toJson),
      ("workers", .array (r.workers.map RunResult.toJson))]
    ++ Json.memberOf "leader" RunResult.toJson r.leader)

def FleetReport.ofJson? (j : Json) : Option FleetReport := do
  let f ← j.fields? ["run_id", "started_at", "workers", "leader"]
  let runId ← f.required "run_id" Uuid.ofJson?
  let startedAt ← f.required "started_at" Timestamp.ofJson?
  let workers ← f.required "workers" (Json.list? RunResult.ofJson?)
  let leader ← f.optional "leader" RunResult.ofJson?
  return { runId, startedAt, workers, leader }

/-- A report as a JSON document of several lines. -/
def FleetReport.document (r : FleetReport) : String := r.toJson.pretty ++ "\n"

end RemoteFleet
