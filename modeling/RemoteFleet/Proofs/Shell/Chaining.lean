import RemoteFleet.Proofs.Shell.Line

/-!
# When `&&` between stages stops a line

The stages of a line are lines themselves, joined by `&&` as they stand.  `StopsOnFailure` says what
that is meant to achieve: once a stage fails as a whole, nothing of the last one is run, and the
line fails.  It does achieve it if every stage behind the first one is a plain chain of `&&`, and
only then (`stopsOnFailure_iff`): behind a `||` or a `;` a command is run although all before it
failed.
-/

namespace RemoteFleet.Shell

/-! ## Stages -/

/-- Whether the commands of a line are joined by `&&` only. -/
def isChain (line : Line) : Bool := line.tail.all (·.1 = .and)

/-- Lines joined by `&&`. -/
def chained (first : Line) (rest : List Line) : Line := first ++ rest.flatMap (behind .and)

/-- Whether a stage fails when it is run for itself.  The first stage begins at place `n`. -/
def anyFails (outcome : Nat → Bool) : Nat → List Line → Bool
  | _, [] => false
  | n, stage :: stages =>
    !(eval outcome n true stage).2 || anyFails outcome (n + stage.length) stages

/-- Whenever a stage fails as a whole, no command behind the stages is run, and the line fails. -/
def StopsOnFailure (line : Line) (stages : List Line) : Prop :=
  ∀ outcome, anyFails outcome 0 stages = true →
    (∀ n ∈ (eval outcome 0 true line).1, n < stages.flatten.length) ∧
      (eval outcome 0 true line).2 = false

variable {outcome : Nat → Bool} {n : Nat} {status : Bool} {line first : Line}

/-! ## Running one line after another -/

theorem eval_append (a b : Line) :
    eval outcome n status (a ++ b)
      = ((eval outcome n status a).1
          ++ (eval outcome (n + a.length) (eval outcome n status a).2 b).1,
        (eval outcome (n + a.length) (eval outcome n status a).2 b).2) := by
  induction a generalizing n status with
  | nil => rfl
  | cons command a ih =>
    obtain ⟨joint, words⟩ := command
    have hplace : n + 1 + a.length = n + (a.length + 1) := by omega
    simp only [List.cons_append, eval, List.length_cons]
    split
    · simp only [ih, hplace, List.cons_append]
    · simp only [ih, hplace]

/-- What is run stands on the line. -/
theorem lt_of_mem_eval {k : Nat} (h : k ∈ (eval outcome n status line).1) :
    k < n + line.length := by
  induction line generalizing n status with
  | nil => cases h
  | cons command line ih =>
    obtain ⟨joint, words⟩ := command
    simp only [eval] at h
    rw [List.length_cons]
    split at h
    · rcases List.mem_cons.1 h with rfl | hrest
      · omega
      · have hlt := ih hrest
        omega
    · have hlt := ih h
      omega

/-- Nothing is run behind `&&` after a failure. -/
theorem eval_of_all_and (h : ∀ command ∈ line, command.1 = .and) :
    eval outcome n false line = ([], false) := by
  induction line generalizing n with
  | nil => rfl
  | cons command line ih =>
    obtain ⟨joint, words⟩ := command
    obtain rfl : joint = .and := h _ List.mem_cons_self
    simp only [eval, Joint.runs]
    exact ih fun command hmem => h command (List.mem_cons_of_mem _ hmem)

/-- Things stay as they are when every command turns out like that. -/
theorem eval_of_constant (h : ∀ k, n ≤ k → k < n + line.length → outcome k = status) :
    (eval outcome n status line).2 = status := by
  induction line generalizing n with
  | nil => rfl
  | cons command line ih =>
    obtain ⟨joint, words⟩ := command
    rw [List.length_cons] at h
    have hrest := ih (n := n + 1) fun k hle hlt => h k (by omega) (by omega)
    simp only [eval]
    split
    · rw [h n (Nat.le_refl n) (by omega)]
      exact hrest
    · exact hrest

/-- A line fails when all of its commands do. -/
theorem eval_of_all_fail {command : List (List Char)} {rest : Line}
    (hline : line = (.seq, command) :: rest)
    (h : ∀ k, n ≤ k → k < n + line.length → outcome k = false) :
    (eval outcome n true line).2 = false := by
  subst hline
  rw [List.length_cons] at h
  simp only [eval, Joint.runs, if_true]
  rw [h n (Nat.le_refl n) (by omega)]
  exact eval_of_constant fun k hle hlt => h k (by omega) (by omega)

/-- After a success, a line is run as if it stood alone. -/
theorem eval_behind {command : List (List Char)} {rest : Line}
    (hline : line = (.seq, command) :: rest) (more : Line) :
    eval outcome n true (behind .and line ++ more) = eval outcome n true (line ++ more) := by
  subst hline
  rfl

/-! ## Chains -/

theorem mem_behind {command : Joint × List (List Char)} (h : command ∈ line.tail)
    (joint : Joint) : command ∈ behind joint line := by
  cases line with
  | nil => cases h
  | cons head tail => exact List.mem_cons_of_mem _ h

theorem all_and_of_isChain (h : isChain line = true) :
    ∀ command ∈ behind .and line, command.1 = .and := by
  cases line with
  | nil => exact fun command hmem => by cases hmem
  | cons head tail =>
    intro command hmem
    rcases List.mem_cons.1 hmem with rfl | htail
    · rfl
    · exact of_decide_eq_true (List.all_eq_true.1 h command htail)

/-- Chains behind `&&` are not run after a failure. -/
theorem eval_of_chains {rest : List Line} (h : ∀ line ∈ rest, isChain line = true) :
    eval outcome n false (rest.flatMap (behind .and)) = ([], false) := by
  refine eval_of_all_and ?_
  intro command hmem
  obtain ⟨line, hline, hcommand⟩ := List.mem_flatMap.1 hmem
  exact all_and_of_isChain (h line hline) command hcommand

/-- Chains behind the first stage: once a stage has failed, nothing of the last one is run. -/
theorem stops_of_chains {stages : List Line} {payload : Line}
    (hchains : ∀ line ∈ stages ++ [payload], isChain line = true)
    (hread : ∀ line ∈ stages, ∃ command rest, line = (.seq, command) :: rest)
    (hfails : anyFails outcome n (first :: stages) = true) :
    (∀ k ∈ (eval outcome n true (chained first (stages ++ [payload]))).1,
        k < n + (first :: stages).flatten.length) ∧
      (eval outcome n true (chained first (stages ++ [payload]))).2 = false := by
  induction stages generalizing n first with
  | nil =>
    have hfirst : (eval outcome n true first).2 = false := by
      simpa [anyFails] using hfails
    simp only [chained, eval_append, hfirst, eval_of_chains hchains, List.append_nil]
    refine ⟨?_, trivial⟩
    intro k hmem
    have hlt := lt_of_mem_eval hmem
    simpa using hlt
  | cons stage stages ih =>
    cases hfirst : (eval outcome n true first).2 with
    | false =>
      simp only [chained, eval_append, hfirst, eval_of_chains hchains, List.append_nil]
      refine ⟨?_, trivial⟩
      intro k hmem
      have hlt := lt_of_mem_eval hmem
      rw [List.flatten_cons, List.length_append]
      omega
    | true =>
      rw [anyFails, hfirst] at hfails
      obtain ⟨command, rest, hstage⟩ := hread stage List.mem_cons_self
      obtain ⟨hplaces, hlast⟩ := ih
        (fun line hmem => hchains line (List.mem_cons_of_mem _ hmem))
        (fun line hmem => hread line (List.mem_cons_of_mem _ hmem)) (by simpa using hfails)
      have hmore : eval outcome (n + first.length) true
          ((stage :: stages ++ [payload]).flatMap (behind .and))
            = eval outcome (n + first.length) true (chained stage (stages ++ [payload])) := by
        rw [List.cons_append, List.flatMap_cons, eval_behind hstage]
        rfl
      rw [chained, eval_append, hfirst, hmore]
      refine ⟨?_, hlast⟩
      intro k hmem
      rw [List.flatten_cons, List.length_append]
      rcases List.mem_append.1 hmem with hbefore | hafter
      · have hlt := lt_of_mem_eval hbefore
        omega
      · have hlt := hplaces k hafter
        omega

/-- Every place before `q` fails, and the others succeed. -/
def succeedsFrom (q k : Nat) : Bool := decide (q ≤ k)

/-- A line of stages that goes on behind a failure: everything up to some command fails, and that
command is run, since it does not stand behind `&&`; then everything succeeds. -/
theorem chains_of_stops {stages rest : List Line} {payload : Line}
    (hstages : stages ++ [payload] = first :: rest)
    (hread : ∃ command rest, first = (.seq, command) :: rest)
    (h : StopsOnFailure (chained first rest) stages) : ∀ line ∈ rest, isChain line = true := by
  intro line hline
  cases hchain : isChain line with
  | true => rfl
  | false =>
    exfalso
    obtain ⟨command, hcommand, hjoint⟩ := List.all_eq_false.1 hchain
    obtain ⟨before, after, hrest⟩ := List.append_of_mem
      (List.mem_flatMap.2 ⟨line, hline, mem_behind hcommand .and⟩)
    have hsplit : chained first rest = (first ++ before) ++ command :: after := by
      rw [chained, hrest, List.append_assoc]
    let outcome := succeedsFrom (first ++ before).length
    obtain ⟨name, more, hfirst⟩ := hread
    have hbefore : (eval outcome 0 true (first ++ before)).2 = false := by
      have hhead : first ++ before = (.seq, name) :: (more ++ before) := by
        rw [hfirst]
        rfl
      refine eval_of_all_fail hhead ?_
      intro k _ hlt
      exact decide_eq_false (by omega)
    have hfails : anyFails outcome 0 stages = true := by
      cases stages with
      | nil =>
        obtain ⟨_, rfl⟩ := List.cons.inj hstages
        cases hline
      | cons stage stages =>
        obtain ⟨rfl, _⟩ := List.cons.inj hstages
        have hfailed : (eval outcome 0 true stage).2 = false := by
          refine eval_of_all_fail hfirst fun k _ hlt => decide_eq_false ?_
          rw [List.length_append]
          omega
        simp only [anyFails, hfailed, Bool.not_false, Bool.true_or]
    have hruns : command.1.runs false = true := by
      cases hj : command.1 with
      | and => exact absurd (decide_eq_true hj) hjoint
      | or => rfl
      | seq => rfl
    have hlast : (eval outcome 0 true (chained first rest)).2 = true := by
      rw [hsplit, eval_append, hbefore]
      simp only [eval, hruns, if_true]
      have hhere : outcome (0 + (first ++ before).length) = true := decide_eq_true (by omega)
      rw [hhere]
      exact eval_of_constant fun k hle _ => decide_eq_true (by omega)
    rw [(h outcome hfails).2] at hlast
    cases hlast

/-- Stages joined by `&&` stop on every failure exactly if all but the first are chains of `&&`. -/
theorem stopsOnFailure_iff {stages rest : List Line} {payload : Line}
    (hstages : stages ++ [payload] = first :: rest)
    (hread : ∀ line ∈ stages ++ [payload], ∃ command rest, line = (.seq, command) :: rest) :
    StopsOnFailure (chained first rest) stages ↔ ∀ line ∈ rest, isChain line = true := by
  have hfirst : ∃ command rest, first = (.seq, command) :: rest :=
    hread first (hstages ▸ List.mem_cons_self)
  refine ⟨chains_of_stops hstages hfirst, ?_⟩
  intro hchains outcome hfails
  cases stages with
  | nil => cases hfails
  | cons stage stages =>
    obtain ⟨rfl, rfl⟩ := List.cons.inj hstages
    obtain ⟨hplaces, hlast⟩ := stops_of_chains hchains
      (fun line hmem => hread line (List.mem_cons_of_mem _ (List.mem_append_left _ hmem))) hfails
    refine ⟨?_, hlast⟩
    intro k hmem
    have hlt := hplaces k hmem
    omega

end RemoteFleet.Shell
