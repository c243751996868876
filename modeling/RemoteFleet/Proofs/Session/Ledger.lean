import RemoteFleet.Execution.Stage
import RemoteFleet.Session.Mock

/-!
# The ledger of scripted hosts

A `MockRecord` counts what scripted hosts are asked.  `Ledger` says what the counts must be, given
the targets that were called since some record and the sessions that are held now: every session
that was opened is held or closed, none is closed twice, and as many are open as are held.

`Deals` lists what one step can do to the hosts, whoever takes it; `Ledger.deals` says that the
ledger stays right, and `Stage.deals_of_advance` that the steps of an errand are of that kind.  An
errand calls its target once, and until then the target is its `callee?`.
-/

namespace RemoteFleet

/-- Whether a host lets connections in. -/
def MockScript.accepts (m : MockScript) (address : String) : Bool :=
  match m.behaviorOf address with
  | .refuse _ | .timeout => false
  | _ => true

/-! ## What a step does to the hosts -/

/-- A step that calls some targets, with the sessions that are held before and after it. -/
inductive MockScript.Deals (m : MockScript) (r : MockRecord) :
    List RemoteTarget → List MockSession → List MockSession → MockRecord → Prop where
  | nothing (held : List MockSession) (runs : List (String × String)) :
      Deals m r [] held held { r with runs }
  | refused (target : RemoteTarget) (held : List MockSession)
      (hrefuses : m.accepts target.address = false) :
      Deals m r [target] held held { r with connects := r.connects ++ [target.address] }
  | opened (target : RemoteTarget) (before after : List MockSession)
      (haccepts : m.accepts target.address = true) :
      Deals m r [target] (before ++ after) (before ++ ⟨target, false⟩ :: after)
        { r with connects := r.connects ++ [target.address] }.opened
  | closed (session : MockSession) (before after : List MockSession)
      (hopen : session.closed = false) :
      Deals m r [] (before ++ session :: after) (before ++ after)
        { r.released with closes := r.closes ++ [session.target.address] }

variable {m : MockScript} {r r' : MockRecord} {held held' : List MockSession}

/-- A step with one session leaves the others alone. -/
theorem MockScript.Deals.beside {called : List RemoteTarget} (h : m.Deals r called held held' r')
    (left right : List MockSession) :
    m.Deals r called (left ++ held ++ right) (left ++ held' ++ right) r' := by
  cases h with
  | nothing held runs => exact .nothing _ runs
  | refused target held hrefuses => exact .refused target _ hrefuses
  | opened target before after haccepts =>
    have hopened := Deals.opened (r := r) target (left ++ before) (after ++ right) haccepts
    simpa only [List.append_assoc, List.cons_append] using hopened
  | closed session before after hopen =>
    have hclosed := Deals.closed (m := m) (r := r) session (left ++ before) (after ++ right) hopen
    simpa only [List.append_assoc, List.cons_append] using hclosed

theorem MockScript.Deals.connects_eq {called : List RemoteTarget}
    (h : m.Deals r called held held' r') :
    r'.connects = r.connects ++ called.map (·.address) := by
  cases h with
  | nothing held runs => exact (List.append_nil _).symm
  | refused target held hrefuses => rfl
  | opened target before after haccepts => rfl
  | closed session before after hopen => exact (List.append_nil _).symm

/-! ## The ledger -/

/-- What the record must be when `called` were called since the record `r₀` and `held` is left. -/
structure Ledger (m : MockScript) (limit : Nat) (r₀ : MockRecord) (called : List RemoteTarget)
    (r : MockRecord) (held : List MockSession) : Prop where
  unclosed : ∀ session ∈ held, session.closed = false
  length_le : held.length ≤ limit
  openNow : r.openNow = r₀.openNow + held.length
  maxOpen : r.maxOpen ≤ max r₀.maxOpen (r₀.openNow + limit)
  droppedOpen : r.droppedOpen = r₀.droppedOpen
  connects : r.connects = r₀.connects ++ called.map (·.address)
  /-- Every session that was opened is closed or held; one at a time, they are closed in order. -/
  closes : ∃ closes, r.closes = r₀.closes ++ closes ∧
    ((called.map (·.address)).filter m.accepts).Perm (closes ++ held.map (·.target.address)) ∧
    (limit ≤ 1 →
      (called.map (·.address)).filter m.accepts = closes ++ held.map (·.target.address))

variable {limit : Nat} {r₀ : MockRecord} {called : List RemoteTarget}

/-- Nothing was called. -/
theorem Ledger.start (m : MockScript) (limit : Nat) (r₀ : MockRecord) :
    Ledger m limit r₀ [] r₀ [] where
  unclosed _ h := by cases h
  length_le := Nat.zero_le limit
  openNow := rfl
  maxOpen := Nat.le_max_left _ _
  droppedOpen := rfl
  connects := (List.append_nil _).symm
  closes := ⟨[], (List.append_nil _).symm, .nil, fun _ => rfl⟩

/-- In a list of one at most, nothing stands beside a member. -/
theorem eq_nil_of_length_le {α : Type} {x : α} {before after : List α} (hlimit : limit ≤ 1)
    (h : (before ++ x :: after).length ≤ limit) : before = [] ∧ after = [] := by
  rw [List.length_append, List.length_cons] at h
  exact ⟨List.length_eq_zero_iff.1 (by omega), List.length_eq_zero_iff.1 (by omega)⟩

/-- What a call adds to the sessions that were opened. -/
theorem filter_called_append (m : MockScript) (called more : List RemoteTarget) :
    ((called ++ more).map (·.address)).filter m.accepts
      = (called.map (·.address)).filter m.accepts ++ (more.map (·.address)).filter m.accepts := by
  rw [List.map_append, List.filter_append]

theorem Ledger.refused (h : Ledger m limit r₀ called r held) {target : RemoteTarget}
    (hrefuses : m.accepts target.address = false) :
    Ledger m limit r₀ (called ++ [target]) { r with connects := r.connects ++ [target.address] }
      held := by
  obtain ⟨closes, hcloses, hperm, horder⟩ := h.closes
  have hnone : ([target].map (·.address)).filter m.accepts = [] := by
    simp [hrefuses]
  refine { h with connects := ?_, closes := ⟨closes, hcloses, ?_, ?_⟩ }
  · simp only [h.connects, List.map_append, List.append_assoc, List.map_cons, List.map_nil]
  · rw [filter_called_append, hnone, List.append_nil]
    exact hperm
  · intro hlimit
    rw [filter_called_append, hnone, List.append_nil]
    exact horder hlimit

theorem Ledger.opened {target : RemoteTarget} {before after : List MockSession}
    (h : Ledger m limit r₀ called r (before ++ after)) (haccepts : m.accepts target.address = true)
    (hroom : (before ++ ⟨target, false⟩ :: after).length ≤ limit) :
    Ledger m limit r₀ (called ++ [target])
      { r with connects := r.connects ++ [target.address] }.opened
      (before ++ ⟨target, false⟩ :: after) := by
  obtain ⟨closes, hcloses, hperm, horder⟩ := h.closes
  have hone : ([target].map (·.address)).filter m.accepts = [target.address] := by
    simp [haccepts]
  have hopenNow := h.openNow
  have hmaxOpen := h.maxOpen
  rw [List.length_append] at hopenNow
  refine ⟨?_, hroom, ?_, ?_, h.droppedOpen, ?_, closes, hcloses, ?_, ?_⟩
  · intro session hmem
    rcases List.mem_append.1 hmem with hbefore | hrest
    · exact h.unclosed session (List.mem_append_left _ hbefore)
    · rcases List.mem_cons.1 hrest with rfl | hafter
      · rfl
      · exact h.unclosed session (List.mem_append_right _ hafter)
  · simp only [MockRecord.opened, List.length_append, List.length_cons]
    omega
  · rw [List.length_append, List.length_cons] at hroom
    simp only [MockRecord.opened]
    omega
  · simp only [MockRecord.opened, h.connects, List.map_append, List.append_assoc, List.map_cons,
      List.map_nil]
  · rw [filter_called_append, hone]
    refine (hperm.append_right _).trans ?_
    rw [List.map_append, List.map_append, List.map_cons, List.append_assoc, List.append_assoc]
    exact ((List.perm_append_singleton target.address _).append_left _).append_left _
  · intro hlimit
    obtain ⟨rfl, rfl⟩ := eq_nil_of_length_le hlimit hroom
    rw [filter_called_append, hone, horder hlimit]
    simp

theorem Ledger.closed {session : MockSession} {before after : List MockSession}
    (h : Ledger m limit r₀ called r (before ++ session :: after)) :
    Ledger m limit r₀ called { r.released with closes := r.closes ++ [session.target.address] }
      (before ++ after) := by
  obtain ⟨closes, hcloses, hperm, horder⟩ := h.closes
  have hopenNow := h.openNow
  have hlength := h.length_le
  rw [List.length_append, List.length_cons] at hopenNow hlength
  refine ⟨?_, ?_, ?_, h.maxOpen, h.droppedOpen, h.connects, closes ++ [session.target.address],
    ?_, ?_, ?_⟩
  · intro session' hmem
    refine h.unclosed session' ?_
    exact ((List.sublist_cons_self session after).append_left before).subset hmem
  · rw [List.length_append]
    omega
  · simp only [MockRecord.released, List.length_append]
    omega
  · rw [hcloses, List.append_assoc]
  · refine hperm.trans ?_
    rw [List.append_assoc, List.map_append, List.map_cons, List.map_append]
    exact List.perm_middle.append_left _
  · intro hlimit
    obtain ⟨rfl, rfl⟩ := eq_nil_of_length_le hlimit h.length_le
    rw [horder hlimit]
    simp

/-- The ledger stays right. -/
theorem Ledger.deals (h : Ledger m limit r₀ called r held) {more : List RemoteTarget}
    (hdeals : m.Deals r more held held' r') (hroom : held'.length ≤ limit) :
    Ledger m limit r₀ (called ++ more) r' held' := by
  cases hdeals with
  | nothing held runs =>
    rw [List.append_nil]
    exact { h with }
  | refused target held hrefuses => exact h.refused hrefuses
  | opened target before after haccepts => exact h.opened haccepts hroom
  | closed session before after hopen =>
    rw [List.append_nil]
    exact h.closed

/-! ## The steps of an errand -/

namespace Stage

variable {Net Session Desk File : Type}

/-- The target that an errand has still to call. -/
def callee? (e : Errand) : Stage Session File → Option RemoteTarget
  | .waiting | .connecting _ => some e.target
  | _ => none

theorem session?_of_isOver {stage : Stage Session File} (h : stage.isOver = true) :
    stage.session? = none := by
  cases stage <;> first | rfl | cases h

theorem callee?_of_isOver {stage : Stage Session File} (h : stage.isOver = true) (e : Errand) :
    stage.callee? e = none := by
  cases stage <;> first | rfl | cases h

variable {ws : Workstation Desk File} {e : Errand} {w w' : World MockRecord Desk}
  {stage stage' : Stage MockSession File}

theorem deals_of_connect {start : Moment}
    (h : e.connect m.connector ws start w = (stage', w')) :
    m.Deals w.net [e.target] [] stage'.session?.toList w'.net ∧ stage'.callee? e = none := by
  simp only [Errand.connect, MockScript.connector, MockScript.connect] at h
  cases hhost : m.behaviorOf e.target.address with
  | refuse reason =>
    simp only [hhost] at h
    cases h
    exact ⟨.refused e.target [] (by simp [MockScript.accepts, hhost]), rfl⟩
  | timeout =>
    simp only [hhost] at h
    cases h
    exact ⟨.refused e.target [] (by simp [MockScript.accepts, hhost]), rfl⟩
  | _ =>
    simp only [hhost] at h
    cases h
    exact ⟨.opened e.target [] [] (by simp [MockScript.accepts, hhost]), rfl⟩

theorem deals_of_close {start : Moment} {session : MockSession} {aftermath : Aftermath File}
    (hopen : session.closed = false)
    (h : e.close m.connector ws start session aftermath w = (stage', w')) :
    m.Deals w.net [] [session] stage'.session?.toList w'.net ∧ stage'.callee? e = none := by
  simp only [Errand.close, MockScript.connector, MockScript.close, MockScript.drop, hopen] at h
  cases h
  exact ⟨.closed session [] [] hopen, rfl⟩

/-- A step of an errand deals with its own session, and calls the target that it has to call. -/
theorem deals_of_advance (hopen : ∀ session, stage.session? = some session → session.closed = false)
    (h : stage.advance m.connector ws e w = (stage', w')) :
    ∃ called, m.Deals w.net called stage.session?.toList stage'.session?.toList w'.net ∧
      called ++ (stage'.callee? e).toList = (stage.callee? e).toList := by
  cases stage with
  | waiting =>
    cases h
    exact ⟨[], .nothing _ _, rfl⟩
  | connecting start =>
    obtain ⟨hdeals, hcallee⟩ := deals_of_connect h
    exact ⟨[e.target], hdeals, by rw [hcallee]; rfl⟩
  | connected start session =>
    simp only [advance, Errand.openCapture] at h
    split at h
    · cases h
      exact ⟨[], .nothing _ _, rfl⟩
    · split at h <;> cases h <;> exact ⟨[], .nothing _ _, rfl⟩
  | ready start session capture =>
    have hsession := hopen session rfl
    simp only [advance, Errand.run, MockScript.connector, MockScript.run, hsession] at h
    cases h
    exact ⟨[], .nothing _ _, rfl⟩
  | listening start session capture transcript =>
    simp only [advance, Errand.listen] at h
    split at h <;> cases h <;> exact ⟨[], .nothing _ _, rfl⟩
  | closing start session aftermath =>
    obtain ⟨hdeals, hcallee⟩ := deals_of_close (hopen session rfl) h
    exact ⟨[], hdeals, by rw [hcallee]; rfl⟩
  | settling start aftermath =>
    simp only [advance, Errand.settle] at h
    split at h <;> cases h <;> exact ⟨[], .nothing _ _, rfl⟩
  | done result =>
    cases h
    exact ⟨[], .nothing _ _, rfl⟩
  | dead =>
    cases h
    exact ⟨[], .nothing _ _, rfl⟩

/-- An errand that calls its target holds no session. -/
theorem session?_of_call (hopen : ∀ session, stage.session? = some session → session.closed = false)
    (h : stage.advance m.connector ws e w = (stage', w'))
    (hcalls : w'.net.connects ≠ w.net.connects) : stage.session? = none := by
  obtain ⟨called, hdeals, hcallee⟩ := deals_of_advance hopen h
  cases hstart : stage.callee? e with
  | some target => cases stage <;> first | rfl | cases hstart
  | none =>
    rw [hstart] at hcallee
    obtain ⟨rfl, _⟩ := List.append_eq_nil_iff.1 hcallee
    exact absurd (hdeals.connects_eq.trans (List.append_nil _)) hcalls

end Stage

end RemoteFleet
