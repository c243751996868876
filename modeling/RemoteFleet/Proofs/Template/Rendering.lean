import RemoteFleet.Proofs.Shell.Chaining

/-!
# How a rendered template runs

A shell reads the line of a template as its stages, one after the other (`read_intercalate`): the
quoted directory is one word, and ` && ` ends whatever stands before it.  So the line stops on a
failed stage exactly if every stage but the first is a plain chain of `&&`.  A `||`, a `;` or a line
end in a later stage is not held together by anything, and what follows it runs although an earlier
stage failed.
-/

namespace RemoteFleet

namespace Shell

/-! ## The directory -/

/-- A character that needs no quotes is taken for itself. -/
theorem stepPlain_of_not_special (raw : List Char) {c : Char} (h : isSpecial c = false) :
    stepPlain raw c = some (.plain (raw ++ [c]), []) := by
  simp only [isSpecial, List.contains_eq_mem, decide_eq_false_iff_not, List.mem_cons, not_or,
    List.not_mem_nil] at h
  simp [stepPlain, h]

theorem scan_of_not_special (raw s : List Char) (h : ∀ c ∈ s, isSpecial c = false) :
    scan (.plain raw) s = some ([], .plain (raw ++ s)) := by
  induction s generalizing raw with
  | nil => simp [scan]
  | cons c s ih =>
    have hc := stepPlain_of_not_special raw (h c List.mem_cons_self)
    have hs := ih (raw ++ [c]) fun d hd => h d (List.mem_cons_of_mem _ hd)
    simp [scan, step, hc, hs]

/-- Between single quotes every character is taken for itself. -/
theorem scan_quoteInside (raw s : List Char) :
    scan (.single raw) (s.flatMap quoteInside)
      = some ([], .single (raw ++ s.flatMap quoteInside)) := by
  induction s generalizing raw with
  | nil => simp [scan]
  | cons c s ih =>
    have hc : scan (.single raw) (quoteInside c) = some ([], .single (raw ++ quoteInside c)) := by
      unfold quoteInside
      split
      · simp [scan, step, stepPlain, Mode.text]
      · next hne => simp [scan, step, hne]
    simp [scan_append, hc, ih]

/-- A quoted word is read as one word. -/
theorem scan_quoteWord (s : List Char) :
    scan (.plain []) (quoteWord s) = some ([], .plain (quoteWord s)) := by
  unfold quoteWord
  split
  · rfl
  · split
    · have hopen : scan (.plain []) ['\''] = some ([], .single ['\'']) := by rfl
      have hclose (raw : List Char) :
          scan (.single raw) ['\''] = some ([], .plain (raw ++ ['\''])) := by rfl
      have hquoted : '\'' :: s.flatMap quoteInside ++ ['\'']
          = ['\''] ++ (s.flatMap quoteInside ++ ['\'']) := rfl
      rw [hquoted]
      simp only [scan_append, hopen, Option.bind_some, scan_quoteInside, hclose, Option.map_some,
        List.append_nil, List.append_assoc]
    · next hplain =>
      refine scan_of_not_special [] s ?_
      intro c hc
      simpa using fun hspecial => hplain (List.any_eq_true.2 ⟨c, hc, hspecial⟩)

theorem quoteWord_ne_nil (s : List Char) : quoteWord s ≠ [] := by
  unfold quoteWord
  split
  · simp
  · next hne =>
    split
    · simp
    · exact hne

/-- Changing into a directory is one command, whatever the directory is called. -/
theorem read_cd (s : List Char) :
    read false (['c', 'd', ' '] ++ quoteWord s) = some [(.seq, [['c', 'd'], quoteWord s])] := by
  have hcd : scan (.plain []) ['c', 'd', ' '] = some ([.word ['c', 'd']], .plain []) := by rfl
  have hlex : lex (['c', 'd', ' '] ++ quoteWord s)
      = some [.word ['c', 'd'], .word (quoteWord s)] := by
    simp only [lex, scan_append, hcd, Option.bind_some, scan_quoteWord, Option.map_some,
      Option.bind_eq_bind, finish, flush, if_neg (quoteWord_ne_nil s)]
    rfl
  have hname : ['c', 'd'] ∉ reserved := by decide
  have hsecond : ¬([['c', 'd']] = [] ∧ quoteWord s ∈ reserved) := by simp
  simp only [read, hlex, Option.bind_some, parse, hname, and_false, if_false, List.nil_append,
    if_neg hsecond]
  rfl

/-! ## Stages -/

/-- Texts that can be read give lines. -/
theorem exists_lines {texts : List (List Char)}
    (h : ∀ text ∈ texts, (read false text).isSome = true) :
    ∃ lines : List Line, texts.map (read false) = lines.map some := by
  induction texts with
  | nil => exact ⟨[], rfl⟩
  | cons text texts ih =>
    obtain ⟨line, hline⟩ := Option.isSome_iff_exists.1 (h text List.mem_cons_self)
    obtain ⟨lines, hlines⟩ := ih fun other hmem => h other (List.mem_cons_of_mem _ hmem)
    exact ⟨line :: lines, by simp only [List.map_cons, hline, hlines]⟩

/-- Each of them begins with a command that is run whatever happens. -/
theorem eq_cons_of_map_read {texts : List (List Char)} {lines : List Line}
    (h : texts.map (read false) = lines.map some) :
    ∀ line ∈ lines, ∃ command rest, line = (.seq, command) :: rest := by
  intro line hmem
  have hsome : some line ∈ texts.map (read false) := by
    rw [h]
    exact List.mem_map_of_mem hmem
  obtain ⟨text, _, htext⟩ := List.mem_map.1 hsome
  exact eq_cons_of_read htext

theorem intercalate_cons {α : Type} (sep first : List α) (rest : List (List α)) :
    sep.intercalate (first :: rest) = first ++ rest.flatMap (sep ++ ·) := by
  induction rest generalizing first with
  | nil => simp [List.intercalate]
  | cons second rest ih =>
    have hstep : sep.intercalate (first :: second :: rest)
        = first ++ (sep ++ sep.intercalate (second :: rest)) := by
      simp [List.intercalate]
    rw [hstep, ih, List.flatMap_cons, List.append_assoc]

/-- Texts behind a first one, each after ` && `. -/
theorem read_flatMap {texts : List (List Char)} {lines : List Line} {text final : List Char}
    {first payload : Line} (hfirst : read false text = some first)
    (h : texts.map (read false) = lines.map some) (hlast : read true final = some payload) :
    read true (text ++ (texts ++ [final]).flatMap (CommandTemplate.andThen ++ ·))
      = some (chained first (lines ++ [payload])) := by
  induction texts generalizing lines text first with
  | nil =>
    obtain rfl := List.map_eq_nil_iff.1 h.symm
    simpa [chained] using read_andThen hfirst hlast
  | cons second texts ih =>
    cases lines with
    | nil => cases h
    | cons line lines =>
      obtain ⟨hsecond, hrest⟩ := List.cons.inj h
      have hboth := ih (read_andThen hfirst hsecond) hrest
      simpa only [chained, List.cons_append, List.flatMap_cons, List.append_assoc] using hboth

/-- Texts with ` && ` between them are read one after the other. -/
theorem read_intercalate {texts : List (List Char)} {lines rest : List Line} {final : List Char}
    {first payload : Line} (hlines : lines ++ [payload] = first :: rest)
    (h : texts.map (read false) = lines.map some) (hlast : read true final = some payload) :
    read true (CommandTemplate.andThen.intercalate (texts ++ [final]))
      = some (chained first rest) := by
  cases texts with
  | nil =>
    obtain rfl := List.map_eq_nil_iff.1 h.symm
    obtain ⟨rfl, rfl⟩ := List.cons.inj hlines
    simpa [chained, List.intercalate] using hlast
  | cons text texts =>
    cases lines with
    | nil => cases h
    | cons line lines =>
      obtain ⟨rfl, rfl⟩ := List.cons.inj hlines
      obtain ⟨htext, hrest⟩ := List.cons.inj h
      rw [List.cons_append, intercalate_cons]
      exact read_flatMap htext hrest hlast

/-- A line of stages has the commands of its stages. -/
theorem commands_chained (first : Line) (rest : List Line) :
    (chained first rest).map (·.2) = (first :: rest).flatten.map (·.2) := by
  have hbehind (line : Line) : (behind .and line).map (·.2) = line.map (·.2) := by
    cases line <;> rfl
  rw [chained, List.flatten_cons, List.map_append, List.map_append]
  congr 1
  induction rest with
  | nil => rfl
  | cons line rest ih =>
    rw [List.flatMap_cons, List.flatten_cons, List.map_append, List.map_append, hbehind, ih]

end Shell

namespace CommandTemplate

/-! ## Rendered templates -/

/-- The stages before the command. -/
def preparation (t : CommandTemplate) (target : RemoteTarget) : List (List Char) :=
  (t.workdir.toList.map fun dir =>
      ['c', 'd', ' '] ++ Shell.quoteWord (substitute dir.toList target))
    ++ t.keptSetup.map fun step => substitute step.toList target

/-- Every stage before the command can be read if the setup steps can. -/
theorem isSome_read_preparation {t : CommandTemplate} {target : RemoteTarget}
    (hsetup : ∀ step ∈ t.keptSetup,
      (Shell.read false (substitute step.toList target)).isSome = true) :
    ∀ text ∈ t.preparation target, (Shell.read false text).isSome = true := by
  intro text hmem
  rcases List.mem_append.1 hmem with hdir | hstep
  · obtain ⟨dir, _, rfl⟩ := List.mem_map.1 hdir
    rw [Shell.read_cd]
    rfl
  · obtain ⟨step, hkept, rfl⟩ := List.mem_map.1 hstep
    exact hsetup step hkept

/-- A rendered template is read as its stages, as long as each of them can be read.  It stops on
every failed stage exactly if all stages but the first are chains of `&&`. -/
theorem render_stops_iff (t : CommandTemplate) (target : RemoteTarget)
    (hsetup : ∀ step ∈ t.keptSetup,
      (Shell.read false (substitute step.toList target)).isSome = true)
    (hcommand : (Shell.read true (substitute t.command.toList target)).isSome = true) :
    ∃ (stages : List Shell.Line) (payload line : Shell.Line),
      (t.preparation target).map (Shell.read false) = stages.map some ∧
      Shell.read true (substitute t.command.toList target) = some payload ∧
      Shell.read true (t.render target).toList = some line ∧
      line.map (·.2) = (stages ++ [payload]).flatten.map (·.2) ∧
      (Shell.StopsOnFailure line stages ↔
        ∀ stage ∈ (stages ++ [payload]).tail, Shell.isChain stage = true) := by
  obtain ⟨stages, hstages⟩ := Shell.exists_lines (isSome_read_preparation hsetup)
  obtain ⟨payload, hpayload⟩ := Option.isSome_iff_exists.1 hcommand
  refine ⟨stages, payload, ?_⟩
  have hread : ∀ line ∈ stages ++ [payload], ∃ command rest, line = (.seq, command) :: rest := by
    intro line hmem
    rcases List.mem_append.1 hmem with hstage | hlast
    · exact Shell.eq_cons_of_map_read hstages line hstage
    · obtain rfl := List.mem_singleton.1 hlast
      exact Shell.eq_cons_of_read hpayload
  cases hlines : stages ++ [payload] with
  | nil => simp at hlines
  | cons first rest =>
    refine ⟨Shell.chained first rest, hstages, hpayload, ?_, ?_, ?_⟩
    · have htexts : t.stages target
          = t.preparation target ++ [substitute t.command.toList target] := rfl
      rw [render, String.toList_ofList, htexts]
      exact Shell.read_intercalate hlines hstages hpayload
    · exact Shell.commands_chained first rest
    · exact Shell.stopsOnFailure_iff hlines (hlines ▸ hread)

/-! ### Two templates -/

def appTarget : RemoteTarget := ⟨3, "10.0.0.3", "ec2-user", none, 22⟩

/-- A command by its words. -/
def written (joint : Shell.Joint) (words : List String) : Shell.Joint × List (List Char) :=
  (joint, words.map (·.toList))

/-- Two setup steps and a command, all of them chains. -/
def deployTemplate : CommandTemplate where
  workdir := some "/srv/app"
  setup := ["source env.sh", "ulimit -n 4096 && umask 022"]
  command := "make && make install"

def deployStages : List Shell.Line :=
  [[written .seq ["cd", "/srv/app"]], [written .seq ["source", "env.sh"]],
    [written .seq ["ulimit", "-n", "4096"], written .and ["umask", "022"]]]

def deployPayload : Shell.Line := [written .seq ["make"], written .and ["make", "install"]]

/-- A template whose stages are chains stops on every failed stage. -/
theorem render_stops_deploy :
    (deployTemplate.preparation appTarget).map (Shell.read false) = deployStages.map some ∧
      ∃ line, Shell.read true (deployTemplate.render appTarget).toList = some line ∧
        Shell.StopsOnFailure line deployStages := by
  have hread : (deployTemplate.preparation appTarget).map (Shell.read false)
      = deployStages.map some := by decide +kernel
  have hcommand : Shell.read true (substitute deployTemplate.command.toList appTarget)
      = some deployPayload := by decide +kernel
  obtain ⟨stages, payload, line, hstages, hpayload, hline, _, hstops⟩ :=
    render_stops_iff deployTemplate appTarget (by decide +kernel) (by decide +kernel)
  obtain rfl : stages = deployStages :=
    (List.map_inj_right fun _ _ => Option.some.inj).1 (hstages.symm.trans hread)
  obtain rfl : payload = deployPayload := Option.some.inj (hpayload.symm.trans hcommand)
  refine ⟨hread, line, hline, hstops.2 ?_⟩
  decide +kernel

/-- A command of two, one after the other. -/
def pullTemplate : CommandTemplate where
  workdir := some "/srv/app"
  command := "git pull; make install"

def pullDirectory : Shell.Line := [written .seq ["cd", "/srv/app"]]

def pullPayload : Shell.Line := [written .seq ["git", "pull"], written .seq ["make", "install"]]

/-- The directory is not there, and still the second command of the payload is run, and the line
succeeds. -/
theorem render_runs_on :
    pullTemplate.validate.isOk = true ∧
    (pullTemplate.preparation appTarget).map (Shell.read false) = [some pullDirectory] ∧
    Shell.read true (substitute pullTemplate.command.toList appTarget) = some pullPayload ∧
    ∃ line, Shell.read true (pullTemplate.render appTarget).toList = some line ∧
      Shell.anyFails (Shell.succeedsFrom 2) 0 [pullDirectory] = true ∧
      Shell.eval (Shell.succeedsFrom 2) 0 true line = ([0, 2], true) ∧
      ¬Shell.StopsOnFailure line [pullDirectory] := by
  have hfails : Shell.anyFails (Shell.succeedsFrom 2) 0 [pullDirectory] = true := by rfl
  have heval : Shell.eval (Shell.succeedsFrom 2) 0 true
      (Shell.chained pullDirectory [pullPayload]) = ([0, 2], true) := by rfl
  refine ⟨by decide +kernel, by decide +kernel, by decide +kernel,
    Shell.chained pullDirectory [pullPayload], by decide +kernel, hfails, heval, ?_⟩
  intro hstops
  have hlast := (hstops _ hfails).2
  rw [heval] at hlast
  cases hlast

end CommandTemplate

end RemoteFleet
