import Mathlib.Data.List.Nodup
import RemoteFleet.Proofs.Session.Ledger
import RemoteFleet.Session.Table

/-!
# Sessions under names

What a table has under a name after a session is replaced, taken out or held, and that the record of
scripted hosts says how many of the sessions in a table are open (`SessionTable.Counted`).
-/

namespace RemoteFleet

/-! ## Any steps -/

/-- The target of a connect that is answered with a session. -/
def SessionStep.connected? : SessionStep → SessionAnswer → Option RemoteTarget
  | .connect _ target, .done => some target
  | _, _ => none

namespace SessionTable

variable {Net Session : Type}

/-- What is held after some steps. -/
def after (c : Connector Net Session) (t : SessionTable Net Session) (steps : List SessionStep) :
    SessionTable Net Session :=
  steps.foldl (fun t step => (t.step c step).2) t

/-- The targets of the connects among some steps that are answered with a session, in order. -/
def connected (c : Connector Net Session) :
    SessionTable Net Session → List SessionStep → List RemoteTarget
  | _, [] => []
  | t, step :: steps =>
    (step.connected? (t.step c step).1).toList ++ connected c (t.step c step).2 steps

end SessionTable

/-! ## What a connect does -/

namespace MockScript

variable {m : MockScript} {target : RemoteTarget}

theorem connect_of_accepts (haccepts : m.accepts target.address = true) (r : MockRecord) :
    m.connect target r
      = (.opened ⟨target, false⟩,
        { r with connects := r.connects ++ [target.address] }.opened) := by
  unfold accepts at haccepts
  unfold connect
  cases hhost : m.behaviorOf target.address with
  | refuse | timeout =>
    rw [hhost] at haccepts
    cases haccepts
  | succeed | exit | dropConnection | dropAfter => rfl

theorem connect_of_refuses (hrefuses : m.accepts target.address = false) (r : MockRecord) :
    ∃ error, m.connect target r
      = (.refused error, { r with connects := r.connects ++ [target.address] }) := by
  unfold accepts at hrefuses
  unfold connect
  cases hhost : m.behaviorOf target.address with
  | refuse | timeout => exact ⟨_, rfl⟩
  | succeed | exit | dropConnection | dropAfter =>
    rw [hhost] at hrefuses
    cases hrefuses

end MockScript

namespace SessionTable

variable {Net Session : Type}

/-! ## What has a name -/

theorem lookup_cons_eq (name other : String) (session : Session)
    (sessions : List (String × Session)) :
    ((name, session) :: sessions).lookup other
      = if other = name then some session else sessions.lookup other := by
  rw [List.lookup_cons]
  by_cases h : other = name
  · rw [if_pos h, beq_iff_eq.2 h]
  · rw [if_neg h, beq_eq_false_iff_ne.2 h]

theorem lookup_without (name other : String) (sessions : List (String × Session)) :
    (without name sessions).lookup other
      = if other = name then none else sessions.lookup other := by
  induction sessions with
  | nil => simp [without]
  | cons entry sessions ih =>
    obtain ⟨n, session⟩ := entry
    unfold without at ih ⊢
    by_cases hn : n = name
    · rw [List.filter_cons_of_neg (by simp [hn]), ih, lookup_cons_eq, hn]
      by_cases ho : other = name
      · rw [if_pos ho, if_pos ho]
      · rw [if_neg ho, if_neg ho, if_neg ho]
    · rw [List.filter_cons_of_pos (by simp [hn]), lookup_cons_eq, lookup_cons_eq, ih]
      by_cases ho : other = n
      · rw [if_pos ho, if_pos ho, if_neg (ho ▸ hn)]
      · rw [if_neg ho, if_neg ho]

theorem lookup_replaced (name other : String) (session : Session)
    (sessions : List (String × Session)) :
    (sessions.map fun (n, s) => if n = name then (n, session) else (n, s)).lookup other
      = if other = name then (sessions.lookup other).map (fun _ => session)
        else sessions.lookup other := by
  induction sessions with
  | nil => simp
  | cons entry sessions ih =>
    obtain ⟨n, s⟩ := entry
    rw [List.map_cons, lookup_cons_eq]
    by_cases hn : n = name
    · rw [if_pos hn, lookup_cons_eq, ih]
      by_cases ho : other = n
      · rw [if_pos ho, if_pos ho, if_pos (ho.trans hn)]
        rfl
      · rw [if_neg ho, if_neg ho]
    · rw [if_neg hn, lookup_cons_eq, ih]
      by_cases ho : other = n
      · rw [if_pos ho, if_pos ho, if_neg (ho ▸ hn)]
      · rw [if_neg ho, if_neg ho]

theorem without_without (name : String) (sessions : List (String × Session)) :
    without name (without name sessions) = without name sessions := by
  simp only [without, List.filter_filter, Bool.and_self]

/-- To hold a session lets the one go that had its name. -/
theorem hold_dropped (c : Connector Net Session) (t : SessionTable Net Session) (name : String)
    (session : Session) :
    (t.step c (.drop name)).2.hold c name session = t.hold c name session := by
  cases hold : t.sessions.lookup name with
  | none => simp only [step, hold]
  | some old =>
    have hnone : (without name t.sessions).lookup name = none := by
      rw [lookup_without, if_pos rfl]
    simp only [step, hold, SessionTable.hold, hnone, without_without]

/-! ## Names that are there once -/

variable {name : String} {session : Session} {sessions : List (String × Session)}

theorem not_mem_names_without (name : String) (sessions : List (String × Session)) :
    name ∉ (without name sessions).map (·.1) := by
  simp [without]

theorem nodup_names_without (name : String) (hnodup : (sessions.map (·.1)).Nodup) :
    ((without name sessions).map (·.1)).Nodup :=
  hnodup.sublist (List.filter_sublist.map _)

theorem not_mem_names (hlookup : sessions.lookup name = none) : name ∉ sessions.map (·.1) := by
  intro hmem
  obtain ⟨entry, hentry, rfl⟩ := List.mem_map.1 hmem
  exact absurd (List.lookup_eq_none_iff.1 hlookup entry hentry) (by simp)

theorem without_of_not_mem (hname : name ∉ sessions.map (·.1)) :
    without name sessions = sessions := by
  refine List.filter_eq_self.2 fun entry hentry => decide_eq_true ?_
  rintro rfl
  exact hname (List.mem_map_of_mem hentry)

/-- The session of a name is beside those of the other names. -/
theorem perm_without (hnodup : (sessions.map (·.1)).Nodup)
    (hlookup : sessions.lookup name = some session) :
    sessions.Perm ((name, session) :: without name sessions) := by
  induction sessions with
  | nil => cases hlookup
  | cons entry sessions ih =>
    obtain ⟨n, s⟩ := entry
    obtain ⟨hn, hnodup⟩ := List.nodup_cons.1 hnodup
    rw [lookup_cons_eq] at hlookup
    split at hlookup
    · next heq =>
      cases hlookup
      subst heq
      have hwithout : without name ((name, session) :: sessions) = sessions := by
        rw [without, List.filter_cons_of_neg (by simp)]
        exact without_of_not_mem hn
      rw [hwithout]
    · next hne =>
      have hwithout : without name ((n, s) :: sessions) = (n, s) :: without name sessions := by
        rw [without, List.filter_cons_of_pos (by simpa using Ne.symm hne)]
        rfl
      rw [hwithout]
      exact ((ih hnodup hlookup).cons _).trans (.swap ..)

theorem perm_replaced (hnodup : (sessions.map (·.1)).Nodup)
    (hlookup : sessions.lookup name = some session) (session' : Session) :
    (sessions.map fun (n, s) => if n = name then (n, session') else (n, s)).Perm
      ((name, session') :: without name sessions) := by
  have hperm := (perm_without hnodup hlookup).map
    fun (n, s) => if n = name then (n, session') else (n, s)
  have hothers : ((without name sessions).map
      fun (n, s) => if n = name then (n, session') else (n, s)) = without name sessions := by
    refine (List.map_congr_left fun entry hentry => ?_).trans (List.map_id _)
    have hne : entry.1 ≠ name := of_decide_eq_true (List.mem_filter.1 hentry).2
    simp only [if_neg hne, id]
  rw [List.map_cons, hothers] at hperm
  simpa only [if_pos] using hperm

theorem names_replaced (name : String) (session : Session) (sessions : List (String × Session)) :
    (sessions.map fun (n, s) => if n = name then (n, session) else (n, s)).map (·.1)
      = sessions.map (·.1) := by
  rw [List.map_map]
  refine List.map_congr_left fun entry _ => ?_
  simp only [Function.comp_apply]
  split <;> rfl

end SessionTable

/-! ## Sessions that are open -/

namespace SessionTable

/-- How many sessions are open. -/
def openSessions (sessions : List (String × MockSession)) : Nat :=
  sessions.countP (!·.2.closed)

theorem openSessions_cons (name : String) (s : MockSession)
    (sessions : List (String × MockSession)) :
    openSessions ((name, s) :: sessions) = openSessions sessions + if s.closed then 0 else 1 := by
  rw [openSessions, List.countP_cons]
  cases s.closed <;> rfl

/-- Whether each name is there once and the record of the hosts says how many sessions are open. -/
structure Counted (t : SessionTable MockRecord MockSession) : Prop where
  names : (t.sessions.map (·.1)).Nodup
  openNow : t.net.openNow = openSessions t.sessions

namespace Counted

variable {t : SessionTable MockRecord MockSession} {m : MockScript} {name : String}
  {session : MockSession}

theorem openNow_eq (h : t.Counted) (hlookup : t.sessions.lookup name = some session) :
    t.net.openNow
      = openSessions (without name t.sessions) + if session.closed then 0 else 1 := by
  rw [h.openNow, ← openSessions_cons name]
  exact (perm_without h.names hlookup).countP_eq _

/-- A call that leaves as many open as there were beside the session, and the session itself. -/
theorem update (h : t.Counted) (hlookup : t.sessions.lookup name = some session)
    {session' : MockSession} {net : MockRecord}
    (hopenNow : net.openNow
      = openSessions (without name t.sessions) + if session'.closed then 0 else 1) :
    (t.update name session' net).Counted where
  names := (names_replaced name session' t.sessions).symm ▸ h.names
  openNow := by
    rw [← openSessions_cons name] at hopenNow
    exact hopenNow.trans ((perm_replaced h.names hlookup session').countP_eq _).symm

theorem run (h : t.Counted) (name command : String) :
    (t.step m.connector (.run name command)).2.Counted := by
  cases hlookup : t.sessions.lookup name with
  | none =>
    simp only [step, hlookup]
    exact h
  | some session =>
    simp only [step, hlookup, MockScript.connector]
    have hsame : (m.run session command t.net).2.1 = session := by
      unfold MockScript.run
      split <;> rfl
    have hopenNow : (m.run session command t.net).2.2.openNow = t.net.openNow := by
      unfold MockScript.run
      split <;> rfl
    refine h.update hlookup ?_
    rw [hopenNow, hsame]
    exact h.openNow_eq hlookup

theorem close (h : t.Counted) (name : String) :
    (t.step m.connector (.close name)).2.Counted := by
  cases hlookup : t.sessions.lookup name with
  | none =>
    simp only [step, hlookup]
    exact h
  | some session =>
    simp only [step, hlookup, MockScript.connector]
    refine h.update hlookup ?_
    have hopenNow := h.openNow_eq hlookup
    cases hclosed : session.closed <;>
      simp [MockScript.close, MockRecord.released, hclosed, hopenNow]

theorem openNow_drop (h : t.Counted) (hlookup : t.sessions.lookup name = some session)
    {r : MockRecord} {n : Nat} (hnet : r.openNow = t.net.openNow + n) :
    (MockScript.drop session r).openNow = openSessions (without name t.sessions) + n := by
  have hopenNow := h.openNow_eq hlookup
  unfold MockScript.drop
  split
  · next hclosed =>
    rw [if_pos hclosed] at hopenNow
    rw [hnet, hopenNow]
    rfl
  · next hopen =>
    rw [if_neg hopen] at hopenNow
    simp only [MockRecord.released]
    omega

theorem drop (h : t.Counted) (name : String) : (t.step m.connector (.drop name)).2.Counted := by
  cases hlookup : t.sessions.lookup name with
  | none =>
    simp only [step, hlookup]
    exact h
  | some session =>
    simp only [step, hlookup, MockScript.connector]
    exact ⟨nodup_names_without name h.names, h.openNow_drop hlookup (n := 0) rfl⟩

theorem connect (h : t.Counted) (name : String) (target : RemoteTarget) :
    (t.step m.connector (.connect name target)).2.Counted := by
  cases haccepts : m.accepts target.address with
  | false =>
    obtain ⟨error, hrefused⟩ := MockScript.connect_of_refuses haccepts t.net
    simp only [step, MockScript.connector, hrefused]
    exact ⟨h.names, h.openNow⟩
  | true =>
    simp only [step, MockScript.connector, MockScript.connect_of_accepts haccepts, hold]
    refine ⟨List.nodup_cons.2 ⟨not_mem_names_without name _, nodup_names_without name h.names⟩, ?_⟩
    rw [openSessions_cons]
    cases hlookup : t.sessions.lookup name with
    | none =>
      rw [without_of_not_mem (not_mem_names hlookup), ← h.openNow]
      rfl
    | some old => exact h.openNow_drop hlookup rfl

theorem step (h : t.Counted) {s : SessionStep} : (t.step m.connector s).2.Counted := by
  cases s with
  | connect name target => exact h.connect name target
  | run name command => exact h.run name command
  | close name => exact h.close name
  | drop name => exact h.drop name

theorem initial : Counted ⟨{}, []⟩ := ⟨.nil, rfl⟩

theorem steps (h : t.Counted) (steps : List SessionStep) :
    (t.after m.connector steps).Counted := by
  induction steps generalizing t with
  | nil => exact h
  | cons s steps ih => exact ih h.step

end Counted

end SessionTable

end RemoteFleet
