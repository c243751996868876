import RemoteFleet.Proofs.Config.Resolution

/-!
# Flags in place of keys

Ten settings can be given by a flag or by a key of the roster file.  `RunOptions.asFile` is the file
that says what the flags say, and `RosterFile.withKeys` takes some keys from such a file.

* `agree_clear`: flags can be moved into the file, any of them and any number at once.
* `agree_withKeys`: what the file says under a key is not looked at if its flag is given.

Either way the flags and the file come to the same settings (`Agree`), so the same comes out, be it
an invocation or an error (`resolve_of_agree`).  A selection among the flags that cannot be read is
the one value that no file can hold.
-/

namespace RemoteFleet

/-- A key of a roster file that has a flag of the same name. -/
inductive SharedKey where
  | user
  | key
  | port
  | connectTimeout
  | select
  | job
  | leader
  | leaderJob
  | capture
  | concurrency
  deriving DecidableEq

/-- Whether the flag of a key is given. -/
def RunOptions.gives (o : RunOptions) : SharedKey → Bool
  | .user => o.user.isSome
  | .key => o.key.isSome
  | .port => o.port.isSome
  | .connectTimeout => o.connectTimeout.isSome
  | .select => o.select.isSome
  | .job => o.job.isSome
  | .leader => o.leader.isSome
  | .leaderJob => o.leaderJob.isSome
  | .capture => o.capture.isSome
  | .concurrency => o.concurrency.isSome

/-- The options without the flags of some keys. -/
def RunOptions.clear (o : RunOptions) (keys : SharedKey → Bool) : RunOptions :=
  { o with
    user := if keys .user then none else o.user
    key := if keys .key then none else o.key
    port := if keys .port then none else o.port
    connectTimeout := if keys .connectTimeout then none else o.connectTimeout
    select := if keys .select then none else o.select
    job := if keys .job then none else o.job
    leader := if keys .leader then none else o.leader
    leaderJob := if keys .leaderJob then none else o.leaderJob
    capture := if keys .capture then none else o.capture
    concurrency := if keys .concurrency then none else o.concurrency }

/-- The roster file that says what the flags say, and nothing else. -/
def RunOptions.asFile (o : RunOptions) : RosterFile where
  credentials :=
    { user := o.user.getD "ec2-user"
      keyFile := o.key
      port := o.port.getD 22 }
  ssh := { connectTimeoutSecs := o.connectTimeout.getD 10 }
  run :=
    { select := o.select.bind fun text => (Selection.parse text).toOption
      job := o.job
      leader := o.leader
      leaderJob := o.leaderJob
      capture := o.capture
      concurrency := o.concurrency }

/-- The roster file with some keys taken from another one. -/
def RosterFile.withKeys (f : RosterFile) (keys : SharedKey → Bool) (g : RosterFile) : RosterFile :=
  { f with
    credentials :=
      { user := if keys .user then g.credentials.user else f.credentials.user
        keyFile := if keys .key then g.credentials.keyFile else f.credentials.keyFile
        port := if keys .port then g.credentials.port else f.credentials.port }
    ssh :=
      { f.ssh with
        connectTimeoutSecs :=
          if keys .connectTimeout then g.ssh.connectTimeoutSecs else f.ssh.connectTimeoutSecs }
    run :=
      { select := if keys .select then g.run.select else f.run.select
        job := if keys .job then g.run.job else f.run.job
        leader := if keys .leader then g.run.leader else f.run.leader
        leaderJob := if keys .leaderJob then g.run.leaderJob else f.run.leaderJob
        capture := if keys .capture then g.run.capture else f.run.capture
        concurrency := if keys .concurrency then g.run.concurrency else f.run.concurrency } }

/-! ## One flag and one key

A flag either overwrites a key that always has a value, or stands before one that may have none. -/

section Flag

variable {α : Type} {moved : Bool} {flag : Option α}

theorem kept_or_given (h : moved = true → flag.isSome = true) :
    moved = false ∨ moved = true ∧ ∃ value, flag = some value := by
  cases moved with
  | false => exact .inl rfl
  | true => exact .inr ⟨rfl, Option.isSome_iff_exists.1 (h rfl)⟩

theorem getD_moved (h : moved = true → flag.isSome = true) (key other : α) :
    (if moved then none else flag).getD (if moved then flag.getD other else key)
      = flag.getD key := by
  obtain rfl | ⟨rfl, value, rfl⟩ := kept_or_given h <;> rfl

theorem or_moved (h : moved = true → flag.isSome = true) (key : Option α) :
    (if moved then none else flag).or (if moved then flag else key) = flag.or key := by
  obtain rfl | ⟨rfl, value, rfl⟩ := kept_or_given h <;> rfl

theorem getD_replaced (h : moved = true → flag.isSome = true) (key other : α) :
    flag.getD (if moved then other else key) = flag.getD key := by
  obtain rfl | ⟨rfl, value, rfl⟩ := kept_or_given h <;> rfl

theorem or_replaced (h : moved = true → flag.isSome = true) (key other : Option α) :
    flag.or (if moved then other else key) = flag.or key := by
  obtain rfl | ⟨rfl, value, rfl⟩ := kept_or_given h <;> rfl

end Flag

namespace RunOptions

/-! ## Flags and files that come to the same -/

/-- Whether some flags and a file come to the same settings as others. -/
structure Agree (o : RunOptions) (f : RosterFile) (o' : RunOptions) (f' : RosterFile) : Prop where
  hosts : f.hosts = f'.hosts
  jobs : f.jobs = f'.jobs
  override : o.override = o'.override
  noLeaderFatal : o.noLeaderFatal = o'.noLeaderFatal
  strictWorkers : o.strictWorkers = o'.strictWorkers
  credentials : o.credentials f = o'.credentials f'
  sshOptions : o.sshOptions f = o'.sshOptions f'
  selection : o.selection f = o'.selection f'
  job : o.job.or f.run.job = o'.job.or f'.run.job
  leader : o.leader.or f.run.leader = o'.leader.or f'.run.leader
  leaderJob : o.leaderJob.or f.run.leaderJob = o'.leaderJob.or f'.run.leaderJob
  capture : o.capture.or f.run.capture = o'.capture.or f'.run.capture
  concurrency : o.concurrency.or f.run.concurrency = o'.concurrency.or f'.run.concurrency

variable {o o' : RunOptions} {f f' : RosterFile}

theorem Agree.resolveJob (h : Agree o f o' f') : f.resolveJob = f'.resolveJob := by
  funext reference fallback
  simp only [RosterFile.resolveJob, h.jobs]

theorem Agree.workerJob (h : Agree o f o' f') : o.workerJob f = o'.workerJob f' := by
  simp only [RunOptions.workerJob, h.job, h.resolveJob, h.override]

theorem Agree.leaderPhase (h : Agree o f o' f') : o.leaderPhase f = o'.leaderPhase f' := by
  simp only [RunOptions.leaderPhase, h.leader, h.leaderJob, h.capture, h.resolveJob, h.override]

/-- The settings are all that is looked at. -/
theorem resolve_of_agree (h : Agree o f o' f') : o.resolve f = o'.resolve f' := by
  have hroster : f.roster = f'.roster := by
    rw [RosterFile.roster, RosterFile.roster, h.hosts]
  simp only [resolve, hroster, h.selection, h.workerJob, h.leaderPhase, h.concurrency,
    h.noLeaderFatal, h.strictWorkers, h.credentials, h.sshOptions]

variable {keys : SharedKey → Bool}

/-! ## Moving flags into the file -/

theorem selection_clear (hgiven : keys .select = true → o.select.isSome = true)
    (hread : keys .select = true →
      ∀ text, o.select = some text → ∃ s, Selection.parse text = .ok s) :
    (o.clear keys).selection (f.withKeys keys o.asFile) = o.selection f := by
  cases hmoved : keys .select with
  | false => simp [selection, clear, RosterFile.withKeys, hmoved]
  | true =>
    obtain ⟨text, htext⟩ := Option.isSome_iff_exists.1 (hgiven hmoved)
    obtain ⟨s, hs⟩ := hread hmoved text htext
    simp [selection, clear, RosterFile.withKeys, asFile, hmoved, htext, hs, Except.toOption,
      Except.mapError]

theorem agree_clear (hgiven : ∀ k, keys k = true → o.gives k = true)
    (hread : keys .select = true →
      ∀ text, o.select = some text → ∃ s, Selection.parse text = .ok s) :
    Agree (o.clear keys) (f.withKeys keys o.asFile) o f where
  hosts := rfl
  jobs := rfl
  override := rfl
  noLeaderFatal := rfl
  strictWorkers := rfl
  credentials := by
    rw [RunOptions.credentials, RunOptions.credentials, Credentials.mk.injEq]
    exact ⟨getD_moved (hgiven .user) _ _, or_moved (hgiven .key) _, getD_moved (hgiven .port) _ _⟩
  sshOptions := by
    have htimeout := getD_moved (hgiven .connectTimeout) f.ssh.connectTimeoutSecs 10
    simp only [RunOptions.sshOptions, clear, RosterFile.withKeys, asFile, htimeout]
  selection := selection_clear (hgiven .select) hread
  job := or_moved (hgiven .job) _
  leader := or_moved (hgiven .leader) _
  leaderJob := or_moved (hgiven .leaderJob) _
  capture := or_moved (hgiven .capture) _
  concurrency := or_moved (hgiven .concurrency) _

/-! ## Keys whose flags are given -/

theorem selection_withKeys (hgiven : keys .select = true → o.select.isSome = true)
    (g : RosterFile) : o.selection (f.withKeys keys g) = o.selection f := by
  rcases kept_or_given hgiven with hkept | ⟨_, text, htext⟩
  · simp [selection, RosterFile.withKeys, hkept]
  · simp [selection, htext]

theorem agree_withKeys (hgiven : ∀ k, keys k = true → o.gives k = true) (g : RosterFile) :
    Agree o (f.withKeys keys g) o f where
  hosts := rfl
  jobs := rfl
  override := rfl
  noLeaderFatal := rfl
  strictWorkers := rfl
  credentials := by
    rw [RunOptions.credentials, RunOptions.credentials, Credentials.mk.injEq]
    exact ⟨getD_replaced (hgiven .user) _ _, or_replaced (hgiven .key) _ _,
      getD_replaced (hgiven .port) _ _⟩
  sshOptions := by
    have htimeout := getD_replaced (hgiven .connectTimeout) f.ssh.connectTimeoutSecs
      g.ssh.connectTimeoutSecs
    simp only [RunOptions.sshOptions, RosterFile.withKeys, htimeout]
  selection := selection_withKeys (hgiven .select) g
  job := or_replaced (hgiven .job) _ _
  leader := or_replaced (hgiven .leader) _ _
  leaderJob := or_replaced (hgiven .leaderJob) _ _
  capture := or_replaced (hgiven .capture) _ _
  concurrency := or_replaced (hgiven .concurrency) _ _

/-- Flags that are given, any of them, can be moved into the roster file in place of what it says
there: the same invocation comes out, or the same error.  A selection has to be one that can be
read.  As long as the flags are given, it makes no difference what the file says in their place. -/
theorem interchanges_with_keys (o : RunOptions) (f : RosterFile) (keys : SharedKey → Bool)
    (hgiven : ∀ k, keys k = true → o.gives k = true) :
    ((keys .select = true → ∀ text, o.select = some text → ∃ s, Selection.parse text = .ok s) →
      (o.clear keys).resolve (f.withKeys keys o.asFile) = o.resolve f) ∧
    ∀ g, o.resolve (f.withKeys keys g) = o.resolve f :=
  ⟨fun hread => resolve_of_agree (agree_clear hgiven hread),
    fun g => resolve_of_agree (agree_withKeys hgiven g)⟩

/-- The leader and the selection of the flags, moved into the file. -/
theorem interchanges_with_keys_build :
    { buildOptions with select := none, leader := none }.resolve
        { buildFile with run := { buildFile.run with
            select := some (.range (.excluded 1) .unbounded), leader := some 1 } }
      = buildOptions.resolve buildFile ∧
    buildOptions.resolve { buildFile with run := { buildFile.run with leader := some 9 } }
      = buildOptions.resolve buildFile := by
  let keys : SharedKey → Bool := fun k => k = .select || k = .leader
  have hgiven : ∀ k, keys k = true → buildOptions.gives k = true := by
    intro k hk
    cases k <;> first | rfl | cases hk
  have hread : ∀ text, buildOptions.select = some text → ∃ s, Selection.parse text = .ok s := by
    rintro text ⟨⟩
    exact ⟨.range (.excluded 1) .unbounded, rfl⟩
  obtain ⟨hmoved, hreplaced⟩ := buildOptions.interchanges_with_keys buildFile keys hgiven
  exact ⟨hmoved fun _ => hread, hreplaced { run := { leader := some 9 } }⟩

end RunOptions

end RemoteFleet
