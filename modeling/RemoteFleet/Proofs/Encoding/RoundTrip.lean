import RemoteFleet.Encoding.Report
import RemoteFleet.Encoding.Roster
import RemoteFleet.Encoding.Template
import RemoteFleet.Proofs.Json.Records
import RemoteFleet.Proofs.Report.Identifiers
import RemoteFleet.Proofs.Time.Timestamps

/-!
# Records, written as JSON and read back

One lemma for each type of the data model, `T.keeps_toJson`: its reader takes what its writer made
for the value that was written.  Results are the exception.  What a command printed is not written,
so a result comes back without it (`RunResult.withoutOutput`), and so does a report.
-/

namespace RemoteFleet

open Json

/-! ## Rosters -/

theorem HostEntry.keeps_toJson (e : HostEntry) : Keeps ofJson? e.toJson e := by
  constructor
  · simp [ofJson?, toJson, fields?, Fields.required, withDefault_eq, List.lookup_append,
      lookup_memberOf, List.lookup_cons, (keeps_uint32 e.index).reads,
      (keeps_string e.address).reads, readMissing_map keeps_string string_ne_null,
      readMissing_map keeps_uint16 (fun port => ofNat_ne_null port.toNat)]
  · refine readable_object ["index", "address", "user", "key_file", "port"] ?_ (by decide) ?_
    · simp only [List.map_append]
      exact (((List.Sublist.refl ["index", "address"]).append (names_memberOf ..)).append
        (names_memberOf ..)).append (names_memberOf ..)
    · simp only [List.forall_mem_append, forall_mem_memberOf, List.forall_mem_cons]
      exact ⟨⟨⟨⟨(keeps_uint32 e.index).readable, .string e.address, List.forall_mem_nil _⟩,
        fun user _ => .string user⟩, fun path _ => .string path⟩,
        fun port _ => (keeps_uint16 port).readable⟩

theorem Credentials.keeps_toJson (c : Credentials) : Keeps ofJson? c.toJson c := by
  have hkey := keeps_ofOption (o := c.keyFile) keeps_string string_ne_null
  constructor
  · simp [ofJson?, toJson, fields?, withDefault_eq, List.lookup_cons, readMissing,
      (keeps_string c.user).reads, hkey.reads, (keeps_uint16 c.port).reads]
  · refine readable_object ["user", "key_file", "port"] (List.Sublist.refl _) (by decide) ?_
    simp only [List.forall_mem_cons]
    exact ⟨.string c.user, hkey.readable, (keeps_uint16 c.port).readable, List.forall_mem_nil _⟩

theorem RemoteTarget.keeps_toJson (t : RemoteTarget) : Keeps ofJson? t.toJson t := by
  have hkey := keeps_ofOption (o := t.keyFile) keeps_string string_ne_null
  constructor
  · simp [ofJson?, toJson, fields?, Fields.required, optional_eq, List.lookup_cons, readMissing,
      (keeps_uint32 t.index).reads, (keeps_string t.address).reads, (keeps_string t.user).reads,
      hkey.reads, (keeps_uint16 t.port).reads]
  · refine readable_object ["index", "address", "user", "key_file", "port"] (List.Sublist.refl _)
      (by decide) ?_
    simp only [List.forall_mem_cons]
    exact ⟨(keeps_uint32 t.index).readable, .string t.address, .string t.user, hkey.readable,
      (keeps_uint16 t.port).readable, List.forall_mem_nil _⟩

/-! ## Templates and jobs -/

/-- The setup steps stand only when there are any, and none are read where they are missing. -/
theorem CommandTemplate.exists_setup (setup : List String) :
    ∃ o, (if setup = [] then [] else [("setup", ofStrings setup)]) = memberOf "setup" ofStrings o ∧
      readMissing [] (list? string?) (o.map ofStrings) = some setup := by
  split
  · next hnone => exact ⟨none, rfl, by rw [hnone]; rfl⟩
  · exact ⟨some setup, rfl, (keeps_strings setup).reads⟩

theorem CommandTemplate.keeps_toJson (t : CommandTemplate) : Keeps ofJson? t.toJson t := by
  obtain ⟨setup, hsetup, hread⟩ := exists_setup t.setup
  rw [toJson, hsetup]
  constructor
  · simp [ofJson?, fields?, Fields.required, withDefault_eq, List.lookup_append, lookup_memberOf,
      List.lookup_cons, readMissing_map keeps_string string_ne_null, hread,
      (keeps_string t.command).reads]
  · refine readable_object ["workdir", "setup", "command"] ?_ (by decide) ?_
    · simp only [List.map_append]
      exact ((names_memberOf ..).append (names_memberOf ..)).append (List.Sublist.refl ["command"])
    · simp only [List.forall_mem_append, forall_mem_memberOf, List.forall_mem_singleton]
      exact ⟨⟨fun dir _ => .string dir, fun steps _ => (keeps_strings steps).readable⟩,
        .string t.command⟩

theorem CapturePolicy.keeps_toJson (c : CapturePolicy) : Keeps ofJson? c.toJson c := by
  cases c with
  | off => exact ⟨rfl, .string "none"⟩
  | file path =>
    refine ⟨rfl, readable_object ["file"] (List.Sublist.refl _) (by decide) ?_⟩
    exact List.forall_mem_singleton.2 (.string path)

theorem CommandJob.keeps_toJson (job : CommandJob) : Keeps ofJson? job.toJson job := by
  constructor
  · simp [ofJson?, toJson, fields?, Fields.required, withDefault_eq, List.lookup_cons, readMissing,
      (keeps_string job.name).reads, job.template.keeps_toJson.reads,
      job.capture.keeps_toJson.reads]
  · refine readable_object ["name", "template", "capture"] (List.Sublist.refl _) (by decide) ?_
    simp only [List.forall_mem_cons]
    exact ⟨.string job.name, job.template.keeps_toJson.readable,
      job.capture.keeps_toJson.readable, List.forall_mem_nil _⟩

/-! ## Results -/

theorem Phase.keeps_toJson (p : Phase) : Keeps ofJson? p.toJson p :=
  ⟨by cases p <;> rfl, .string p.name⟩

theorem RunStatus.keeps_toJson (s : RunStatus) : Keeps ofJson? s.toJson s :=
  ⟨by cases s <;> rfl, .string s.name⟩

theorem Timestamp.keeps_toJson (t : Timestamp) : Keeps ofJson? t.toJson t := by
  refine ⟨?_, .string _⟩
  simp [ofJson?, toJson, ofChars, string?, t.read?_write]

theorem Uuid.keeps_toJson (u : Uuid) : Keeps ofJson? u.toJson u := by
  refine ⟨?_, .string _⟩
  simp [ofJson?, toJson, ofChars, string?, u.read?_write]

theorem RunError.keeps_toJson (e : RunError) : Keeps ofJson? e.toJson e := by
  cases e with
  | connection address reason =>
    refine ⟨rfl, readable_object ["kind", "address", "reason"] (List.Sublist.refl _) (by decide) ?_⟩
    simp only [List.forall_mem_cons]
    exact ⟨.string _, .string address, .string reason, List.forall_mem_nil _⟩
  | remoteExecution address code tail =>
    constructor
    · rw [toJson, ofJson?]
      refine Option.bind_eq_some_iff.2 ⟨"remote_execution", rfl, ?_⟩
      rw [ofFields?]
      refine Option.bind_eq_some_iff.2 ⟨_, rfl, ?_⟩
      refine Option.bind_eq_some_iff.2 ⟨address, rfl, ?_⟩
      refine Option.bind_eq_some_iff.2 ⟨_, required_of_lookup rfl (keeps_int32 code).reads, ?_⟩
      exact Option.bind_eq_some_iff.2 ⟨tail, rfl, rfl⟩
    · refine readable_object ["kind", "address", "exit_code", "output_tail"] (List.Sublist.refl _)
        (by decide) ?_
      simp only [List.forall_mem_cons]
      exact ⟨.string _, .string address, (keeps_int32 code).readable, .string tail,
        List.forall_mem_nil _⟩
  | capture path reason =>
    refine ⟨rfl, readable_object ["kind", "path", "reason"] (List.Sublist.refl _) (by decide) ?_⟩
    simp only [List.forall_mem_cons]
    exact ⟨.string _, .string path, .string reason, List.forall_mem_nil _⟩
  | cancelled address =>
    refine ⟨rfl, readable_object ["kind", "address"] (List.Sublist.refl _) (by decide) ?_⟩
    simp only [List.forall_mem_cons]
    exact ⟨.string _, .string address, List.forall_mem_nil _⟩

theorem RunError.toJson_ne_null (e : RunError) : e.toJson ≠ .null := by
  cases e <;> nofun

/-- The result as its JSON form has it. -/
def RunResult.withoutOutput (r : RunResult) : RunResult := { r with output := none }

/-- The fields are read one after the other, as the reader has them: those that always stand are
found where they are written, the others among all that may stand. -/
theorem RunResult.ofJson?_toJson (r : RunResult) : ofJson? r.toJson = some r.withoutOutput := by
  rw [ofJson?, toJson]
  refine Option.bind_eq_some_iff.2 ⟨_, rfl, ?_⟩
  refine Option.bind_eq_some_iff.2 ⟨_, required_of_lookup rfl r.phase.keeps_toJson.reads, ?_⟩
  refine Option.bind_eq_some_iff.2 ⟨_, required_of_lookup rfl (keeps_uint32 r.index).reads, ?_⟩
  refine Option.bind_eq_some_iff.2 ⟨r.address, rfl, ?_⟩
  refine Option.bind_eq_some_iff.2 ⟨r.job, rfl, ?_⟩
  refine Option.bind_eq_some_iff.2 ⟨_, required_of_lookup rfl r.status.keeps_toJson.reads, ?_⟩
  refine Option.bind_eq_some_iff.2
    ⟨_, optional_of_lookup (o := r.exitCode) ?_ keeps_int32 nofun, ?_⟩
  · simp [List.lookup_append, lookup_memberOf, List.lookup_cons]
  refine Option.bind_eq_some_iff.2
    ⟨_, optional_of_lookup (o := r.error) ?_ RunError.keeps_toJson RunError.toJson_ne_null, ?_⟩
  · simp [List.lookup_append, lookup_memberOf, List.lookup_cons]
  refine Option.bind_eq_some_iff.2
    ⟨_, optional_of_lookup (o := r.capturePath) ?_ keeps_string string_ne_null, ?_⟩
  · simp [List.lookup_append, lookup_memberOf, List.lookup_cons]
  refine Option.bind_eq_some_iff.2 ⟨_, required_of_lookup ?_ r.startedAt.keeps_toJson.reads, ?_⟩
  · simp [List.lookup_append, lookup_memberOf, List.lookup_cons]
  refine Option.bind_eq_some_iff.2 ⟨_, required_of_lookup ?_ (keeps_uint64 r.durationMs).reads, ?_⟩
  · simp [List.lookup_append, lookup_memberOf, List.lookup_cons]
  simp [withoutOutput]

theorem RunResult.keeps_toJson (r : RunResult) : Keeps ofJson? r.toJson r.withoutOutput := by
  refine ⟨r.ofJson?_toJson, ?_⟩
  refine readable_object ["phase", "index", "address", "job", "status", "exit_code", "error",
    "capture_path", "started_at", "duration_ms"] ?_ (by decide) ?_
  · simp only [List.map_append]
    exact ((((List.Sublist.refl ["phase", "index", "address", "job", "status"]).append
      (names_memberOf ..)).append (names_memberOf ..)).append (names_memberOf ..)).append
      (List.Sublist.refl ["started_at", "duration_ms"])
  · simp only [List.forall_mem_append, forall_mem_memberOf, List.forall_mem_cons]
    exact ⟨⟨⟨⟨⟨r.phase.keeps_toJson.readable, (keeps_uint32 r.index).readable, .string r.address,
      .string r.job, r.status.keeps_toJson.readable, List.forall_mem_nil _⟩,
      fun code _ => (keeps_int32 code).readable⟩, fun e _ => e.keeps_toJson.readable⟩,
      fun path _ => .string path⟩, r.startedAt.keeps_toJson.readable,
      (keeps_uint64 r.durationMs).readable, List.forall_mem_nil _⟩

theorem RunResult.toJson_ne_null (r : RunResult) : r.toJson ≠ .null := by
  simp [toJson]

/-- The report as its JSON form has it. -/
def FleetReport.withoutOutput (r : FleetReport) : FleetReport :=
  { r with workers := r.workers.map (·.withoutOutput), leader := r.leader.map (·.withoutOutput) }

theorem FleetReport.keeps_toJson (r : FleetReport) : Keeps ofJson? r.toJson r.withoutOutput := by
  have hworkers := keeps_list fun w (_ : w ∈ r.workers) => w.keeps_toJson
  constructor
  · simp [ofJson?, toJson, fields?, Fields.required, optional_eq, lookup_memberOf, List.lookup_cons,
      r.runId.keeps_toJson.reads, r.startedAt.keeps_toJson.reads, hworkers.reads,
      readMissing_map RunResult.keeps_toJson RunResult.toJson_ne_null]
    rfl
  · refine readable_object ["run_id", "started_at", "workers", "leader"] ?_ (by decide) ?_
    · simp only [List.map_append]
      exact (List.Sublist.refl ["run_id", "started_at", "workers"]).append (names_memberOf ..)
    · simp only [List.forall_mem_append, forall_mem_memberOf, List.forall_mem_cons]
      exact ⟨⟨r.runId.keeps_toJson.readable, r.startedAt.keeps_toJson.readable, hworkers.readable,
        List.forall_mem_nil _⟩, fun leader _ => leader.keeps_toJson.readable⟩

end RemoteFleet
