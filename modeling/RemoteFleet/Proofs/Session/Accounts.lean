import RemoteFleet.Proofs.Session.Events
import RemoteFleet.Proofs.Session.Names

/-!
# Any number of sessions, in any order

Steps are taken with sessions that go by names, and a scripted connector counts.  `SessionLog.note`
writes down what a step does to which session, and nothing is counted there.  A log describes a
table when the record of the hosts accounts for the events (`SessionLog.Describes`).

* `SessionLog.Sound`: a name stands for one session, which was opened and was not dropped.
* `Describes.run`, `Describes.close`, `Describes.drop` and `Describes.connect` are the steps, put
  together in `Describes.step`; `Describes.steps` is the induction over them.
* `opens_steps`: the log opens a session where a connect is answered with one, and nowhere else.
-/

namespace RemoteFleet

open SessionEvent (Orderly opens held unclosed peak opened? command? closed? dropped? released?)

/-! ## What has happened under which name -/

/-- What has happened, and which session has which name. -/
structure SessionLog where
  past : List SessionEvent := []
  named : String → Option SessionId := fun _ => none

namespace SessionLog

/-- The log with another session, or none, under a name. -/
def rename (l : SessionLog) (name : String) (id? : Option SessionId) : SessionLog :=
  { l with named := fun n => if n = name then id? else l.named n }

/-- The log with an event more, if there is one. -/
def add (l : SessionLog) (e? : Option SessionEvent) : SessionLog :=
  { l with past := e?.toList ++ l.past }

/-- Follows a step.  A session that is opened under a name in use drops the one that had it. -/
def note (m : MockScript) (l : SessionLog) : SessionStep → SessionLog
  | .connect name target =>
    if m.accepts target.address then
      let id : SessionId := ⟨(opens l.past).length, target⟩
      ((l.add (some (.opened id))).add ((l.named name).map .dropped)).rename name (some id)
    else l
  | .run name command => l.add ((l.named name).map (.ran · command))
  | .close name => l.add ((l.named name).map .closed)
  | .drop name => (l.add ((l.named name).map .dropped)).rename name none

/-- The log of some steps. -/
def ofSteps (m : MockScript) (steps : List SessionStep) : SessionLog := steps.foldl (note m) {}

/-! ### Logs are in order -/

/-- Whether what has a name is a session that was opened and not dropped, each under one name. -/
structure Sound (l : SessionLog) : Prop where
  orderly : Orderly l.past
  kept : ∀ name id, l.named name = some id → id ∈ opens l.past ∧ .dropped id ∉ l.past
  injective : ∀ name name' id, l.named name = some id → l.named name' = some id → name = name'

namespace Sound

variable {l : SessionLog} {name : String} {id : SessionId}

theorem opened (h : l.Sound) (target : RemoteTarget) :
    (l.add (some (.opened ⟨(opens l.past).length, target⟩))).Sound where
  orderly := .opened target h.orderly
  kept := by
    intro name id hname
    obtain ⟨hopened, hkept⟩ := h.kept name id hname
    exact ⟨List.mem_cons_of_mem _ hopened,
      List.not_mem_cons_of_ne_of_not_mem (by simp) hkept⟩
  injective := h.injective

/-- A call on a session that has a name. -/
theorem call (h : l.Sound) (hname : l.named name = some id) {e : SessionEvent}
    (hsession : e.session = id) (hcall : e.opened? = none) (hnodrop : e.dropped? = none) :
    (l.add (some e)).Sound where
  orderly := by
    obtain ⟨hopened, hkept⟩ := h.kept name id hname
    subst hsession
    exact .call hcall hopened hkept h.orderly
  kept := by
    intro name' id' hname'
    obtain ⟨hopened, hkept⟩ := h.kept name' id' hname'
    refine ⟨(SessionEvent.opens_cons_call hcall).symm ▸ hopened,
      List.not_mem_cons_of_ne_of_not_mem ?_ hkept⟩
    rintro rfl
    cases hnodrop
  injective := h.injective

/-- A session that is dropped loses its name. -/
theorem dropped (h : l.Sound) (hname : l.named name = some id) :
    ((l.add (some (.dropped id))).rename name none).Sound where
  orderly := by
    obtain ⟨hopened, hkept⟩ := h.kept name id hname
    exact .call rfl hopened hkept h.orderly
  kept := by
    intro name' id' hname'
    dsimp only [rename, add] at hname'
    split at hname'
    · cases hname'
    · next hother =>
      obtain ⟨hopened, hkept⟩ := h.kept name' id' hname'
      refine ⟨hopened, List.not_mem_cons_of_ne_of_not_mem ?_ hkept⟩
      rintro ⟨⟩
      exact hother (h.injective name' name _ hname' hname)
  injective := by
    intro name' name'' id' hname' hname''
    dsimp only [rename, add] at hname' hname''
    split at hname'
    · cases hname'
    · split at hname''
      · cases hname''
      · exact h.injective name' name'' id' hname' hname''

/-- A session that has no name is given one. -/
theorem renamed (h : l.Sound) (hopened : id ∈ opens l.past) (hkept : .dropped id ∉ l.past)
    (hfree : ∀ other, l.named other ≠ some id) : (l.rename name (some id)).Sound where
  orderly := h.orderly
  kept := by
    intro name' id' hname'
    dsimp only [rename] at hname'
    split at hname'
    · cases hname'
      exact ⟨hopened, hkept⟩
    · exact h.kept name' id' hname'
  injective := by
    intro name' name'' id' hname' hname''
    dsimp only [rename] at hname' hname''
    split at hname'
    · next heq =>
      split at hname''
      · next heq' => rw [heq, heq']
      · cases hname'
        exact absurd hname'' (hfree name'')
    · split at hname''
      · cases hname''
        exact absurd hname' (hfree name')
      · exact h.injective name' name'' id' hname' hname''

end Sound

/-! ### Logs and tables stay together -/

/-- Whether the sessions of a table and the record of their hosts are what a log makes of them. -/
structure Describes (l : SessionLog) (t : SessionTable MockRecord MockSession) : Prop where
  sound : l.Sound
  sessions : ∀ name, t.sessions.lookup name = (l.named name).map (.after l.past)
  accounts : t.net.Accounts l.past

theorem rename_none_rename (l : SessionLog) (name : String) (id? : Option SessionId) :
    (l.rename name none).rename name id? = l.rename name id? := by
  simp only [rename]
  congr 1
  funext n
  split <;> rfl

theorem rename_none (l : SessionLog) {name : String} (hname : l.named name = none) :
    l.rename name none = l := by
  have hnamed : (fun n => if n = name then none else l.named n) = l.named := by
    funext n
    split
    · next heq => rw [heq, hname]
    · rfl
  rw [rename, hnamed]

/-- Only a close changes a session. -/
theorem after_cons {past : List SessionEvent} {e : SessionEvent} {id : SessionId}
    (h : e ≠ .closed id) : MockSession.after (e :: past) id = .after past id := by
  simp [MockSession.after, Ne.symm h]

theorem after_cons_call {past : List SessionEvent} {e : SessionEvent} (h : e.closed? = none) :
    MockSession.after (e :: past) = .after past := by
  funext id
  refine after_cons ?_
  rintro rfl
  cases h

namespace Describes

variable {l : SessionLog} {t : SessionTable MockRecord MockSession} {name : String} {id : SessionId}
  {m : MockScript}

theorem initial : Describes {} ⟨{}, []⟩ where
  sound := ⟨.nil, nofun, nofun⟩
  sessions := fun _ => rfl
  accounts := .initial

/-- The session of a name, if there is one. -/
theorem lookup_eq_none (hd : l.Describes t) (hname : l.named name = none) :
    t.sessions.lookup name = none := by
  rw [hd.sessions, hname]
  rfl

theorem lookup_eq_some (hd : l.Describes t) (hname : l.named name = some id) :
    t.sessions.lookup name = some (.after l.past id) := by
  rw [hd.sessions, hname]
  rfl

/-- A session that something has happened to takes the place of what it was before. -/
theorem lookup_update (hd : l.Describes t) (hname : l.named name = some id) {e : SessionEvent}
    (hsession : e.session = id) (net : MockRecord) (other : String) :
    (t.update name (.after (e :: l.past) id) net).sessions.lookup other
      = (l.named other).map (.after (e :: l.past)) := by
  rw [SessionTable.update, SessionTable.lookup_replaced]
  split
  · next heq =>
    rw [heq, hd.lookup_eq_some hname, hname]
    rfl
  · next hother =>
    rw [hd.sessions other]
    cases hid' : l.named other with
    | none => rfl
    | some id' =>
      have hne : e ≠ .closed id' := by
        rintro rfl
        cases hsession
        exact hother (hd.sound.injective other name _ hid' hname)
      rw [Option.map_some, Option.map_some, after_cons hne]

theorem run (hd : l.Describes t) (hname : l.named name = some id) (command : String) :
    (l.add (some (.ran id command))).Describes
      (t.step m.connector (.run name command)).2 where
  sound := hd.sound.call hname rfl rfl rfl
  sessions := by
    have hsame : (m.run (.after l.past id) command t.net).2.1
        = .after (.ran id command :: l.past) id := by
      rw [after_cons_call rfl, MockScript.run]
      split <;> rfl
    simp only [SessionTable.step, hd.lookup_eq_some hname, MockScript.connector, hsame]
    exact hd.lookup_update hname rfl _
  accounts := by
    simp only [SessionTable.step, hd.lookup_eq_some hname, MockScript.connector]
    exact hd.accounts.run m id command

theorem close (hd : l.Describes t) (hname : l.named name = some id) :
    (l.add (some (.closed id))).Describes (t.step m.connector (.close name)).2 where
  sound := hd.sound.call hname rfl rfl rfl
  sessions := by
    have hclosed : (MockScript.close (.after l.past id) t.net).2.1
        = .after (.closed id :: l.past) id := by
      by_cases hbefore : .closed id ∈ l.past <;>
        simp [MockScript.close, MockSession.after, hbefore]
    simp only [SessionTable.step, hd.lookup_eq_some hname, MockScript.connector, hclosed]
    exact hd.lookup_update hname rfl _
  accounts := by
    obtain ⟨hopened, hkept⟩ := hd.sound.kept name id hname
    simp only [SessionTable.step, hd.lookup_eq_some hname, MockScript.connector]
    exact hd.accounts.close hd.sound.orderly hopened hkept

theorem drop (hd : l.Describes t) (hname : l.named name = some id) :
    ((l.add (some (.dropped id))).rename name none).Describes
      (t.step m.connector (.drop name)).2 where
  sound := hd.sound.dropped hname
  sessions := by
    intro other
    have hafter : MockSession.after (.dropped id :: l.past) = .after l.past := after_cons_call rfl
    simp only [SessionTable.step, hd.lookup_eq_some hname, SessionTable.lookup_without]
    dsimp only [rename, add]
    split
    · rfl
    · rw [hd.sessions other]
      exact congrArg (fun f => Option.map f (l.named other)) hafter.symm
  accounts := by
    obtain ⟨hopened, hkept⟩ := hd.sound.kept name id hname
    simp only [SessionTable.step, hd.lookup_eq_some hname, MockScript.connector]
    exact hd.accounts.drop hd.sound.orderly hopened hkept

/-! ### Connecting -/

/-- A session that was opened and has no name yet. -/
theorem opened (hd : l.Describes t) (target : RemoteTarget) (connects : List String) :
    (l.add (some (.opened ⟨(opens l.past).length, target⟩))).Describes
      { t with net := { t.net with connects }.opened } where
  sound := hd.sound.opened target
  sessions := by
    intro other
    have hafter : MockSession.after (.opened ⟨(opens l.past).length, target⟩ :: l.past)
        = .after l.past := after_cons_call rfl
    rw [hd.sessions other, ← hafter]
    rfl
  accounts := (hd.accounts.connects connects).opened hd.sound.orderly target

/-- A session gets a name that is free. -/
theorem hold_free (hd : l.Describes t) (hname : l.named name = none) (hopened : id ∈ opens l.past)
    (hkept : .dropped id ∉ l.past) (hfree : ∀ other, l.named other ≠ some id) :
    (l.rename name (some id)).Describes (t.hold m.connector name (.after l.past id)) where
  sound := hd.sound.renamed hopened hkept hfree
  sessions := by
    intro other
    simp only [SessionTable.hold, SessionTable.lookup_cons_eq, SessionTable.lookup_without, rename]
    split
    · rfl
    · exact hd.sessions other
  accounts := by
    simp only [SessionTable.hold, hd.lookup_eq_none hname]
    exact hd.accounts

/-- A session gets a name.  The one that had it is dropped. -/
theorem hold (hd : l.Describes t) (name : String) (hopened : id ∈ opens l.past)
    (hkept : .dropped id ∉ l.past) (hfree : ∀ other, l.named other ≠ some id) :
    ((l.add ((l.named name).map .dropped)).rename name (some id)).Describes
      (t.hold m.connector name (.after l.past id)) := by
  cases hname : l.named name with
  | none => exact hd.hold_free hname hopened hkept hfree
  | some old =>
    -- The old session is dropped first, and then the name is free.
    have hdropped := hd.drop (m := m) hname
    rw [← SessionTable.hold_dropped, ← rename_none_rename]
    have hafter : MockSession.after (.dropped old :: l.past) = .after l.past := after_cons_call rfl
    rw [← hafter]
    refine hdropped.hold_free ?_ hopened ?_ ?_
    · exact if_pos rfl
    · refine List.not_mem_cons_of_ne_of_not_mem ?_ hkept
      rintro ⟨⟩
      exact hfree name hname
    · intro other hother
      dsimp only [rename, add] at hother
      split at hother
      · cases hother
      · exact hfree other hother

theorem connect (hd : l.Describes t) (name : String) {target : RemoteTarget}
    (haccepts : m.accepts target.address = true) :
    (l.note m (.connect name target)).Describes
      (t.step m.connector (.connect name target)).2 := by
  have hopened := hd.opened target (t.net.connects ++ [target.address])
  have horderly := hd.sound.orderly
  have hsession : MockSession.after
      (.opened ⟨(opens l.past).length, target⟩ :: l.past) ⟨(opens l.past).length, target⟩
      = ⟨target, false⟩ := by
    rw [after_cons_call rfl, MockSession.after]
    exact congrArg _ (decide_eq_false fun hmem => horderly.session_ne target hmem rfl)
  simp only [note, if_pos haccepts, SessionTable.step, MockScript.connector,
    MockScript.connect_of_accepts haccepts]
  rw [← hsession]
  refine hopened.hold name List.mem_cons_self ?_ ?_
  · exact List.not_mem_cons_of_ne_of_not_mem (by simp) fun hmem =>
      horderly.session_ne target hmem rfl
  · intro other hother
    exact horderly.not_mem_opens target (hd.sound.kept other _ hother).1

theorem refused (hd : l.Describes t) (name : String) {target : RemoteTarget}
    (hrefuses : m.accepts target.address = false) :
    l.Describes (t.step m.connector (.connect name target)).2 := by
  obtain ⟨error, hrefused⟩ := MockScript.connect_of_refuses hrefuses t.net
  simp only [SessionTable.step, MockScript.connector, hrefused]
  exact ⟨hd.sound, hd.sessions, hd.accounts.connects _⟩

/-! ### Any steps -/

theorem step (hd : l.Describes t) (s : SessionStep) :
    (l.note m s).Describes (t.step m.connector s).2 := by
  cases s with
  | connect name target =>
    cases haccepts : m.accepts target.address with
    | true => exact hd.connect name haccepts
    | false =>
      simp only [note, haccepts]
      exact hd.refused name haccepts
  | run name command =>
    cases hname : l.named name with
    | none =>
      simp only [note, hname, SessionTable.step, hd.lookup_eq_none hname]
      exact hd
    | some id =>
      simp only [note, hname]
      exact hd.run hname command
  | close name =>
    cases hname : l.named name with
    | none =>
      simp only [note, hname, SessionTable.step, hd.lookup_eq_none hname]
      exact hd
    | some id =>
      simp only [note, hname]
      exact hd.close hname
  | drop name =>
    cases hname : l.named name with
    | none =>
      have hsame : l.note m (.drop name) = l := by
        simp only [note, hname]
        exact l.rename_none hname
      simp only [hsame, SessionTable.step, hd.lookup_eq_none hname]
      exact hd
    | some id =>
      simp only [note, hname]
      exact hd.drop hname

theorem steps (hd : l.Describes t) (steps : List SessionStep) :
    (steps.foldl (note m) l).Describes (t.after m.connector steps) := by
  induction steps generalizing l t with
  | nil => exact hd
  | cons s steps ih => exact ih (hd.step s)

end Describes

/-! ### Which sessions are opened -/

variable (m : MockScript)

theorem opens_note (l : SessionLog) (t : SessionTable MockRecord MockSession) (s : SessionStep) :
    (opens (l.note m s).past).map (·.target)
      = (s.connected? (t.step m.connector s).1).toList ++ (opens l.past).map (·.target) := by
  cases s with
  | connect name target =>
    cases haccepts : m.accepts target.address with
    | true =>
      simp only [SessionTable.step, MockScript.connector, MockScript.connect_of_accepts haccepts,
        note, haccepts]
      cases l.named name <;> rfl
    | false =>
      obtain ⟨error, hrefused⟩ := MockScript.connect_of_refuses haccepts t.net
      simp only [SessionTable.step, MockScript.connector, hrefused, note, haccepts]
      rfl
  | run name | close name | drop name =>
    simp only [note, SessionStep.connected?]
    cases l.named name <;> rfl

/-- What a log says was opened is what was answered with a session, the latest first. -/
theorem opens_steps (l : SessionLog) (t : SessionTable MockRecord MockSession)
    (steps : List SessionStep) :
    (opens (steps.foldl (note m) l).past).map (·.target)
      = (t.connected m.connector steps).reverse ++ (opens l.past).map (·.target) := by
  induction steps generalizing l t with
  | nil => rfl
  | cons s steps ih =>
    have hone : (s.connected? (t.step m.connector s).1).toList.reverse
        = (s.connected? (t.step m.connector s).1).toList := by
      cases s.connected? (t.step m.connector s).1 <;> rfl
    rw [List.foldl_cons, ih _ (t.step m.connector s).2, opens_note m l t, SessionTable.connected,
      List.reverse_append, hone, List.append_assoc]

end SessionLog

/-- Whatever is done with sessions of scripted hosts, in any order, the counters are right: as many
sessions are open as were opened and neither closed nor dropped, and as many at most as were at one
time; every session that is not held is released once, by its first close or by a drop before any;
and the commands are those that were run in sessions not closed yet. -/
theorem MockScript.accounts_for_sessions (m : MockScript) (steps : List SessionStep) :
    let past := (SessionLog.ofSteps m steps).past
    let t := SessionTable.after m.connector ⟨{}, []⟩ steps
    t.net.openNow = (held past).length
      ∧ t.net.openNow = SessionTable.openSessions t.sessions
      ∧ t.net.maxOpen = peak past
      ∧ (opens past).Nodup
      ∧ (held past ++ unclosed released? past).Perm (opens past)
      ∧ (opens past).reverse.map (·.target)
        = SessionTable.connected m.connector ⟨{}, []⟩ steps
      ∧ t.net.closes = (unclosed closed? past).map (·.target.address)
      ∧ t.net.droppedOpen = (unclosed dropped? past).length
      ∧ (opens past).length = t.net.closes.length + t.net.droppedOpen + t.net.openNow
      ∧ (t.net.openNow : Int) = (opens past).length - (unclosed released? past).length
      ∧ t.net.runs = unclosed command? past := by
  intro past t
  have hd : SessionLog.Describes _ t := SessionLog.Describes.initial.steps steps
  have horderly : Orderly past := hd.sound.orderly
  have haccounts : t.net.Accounts past := hd.accounts
  have hperm := SessionEvent.perm_opens horderly
  have hlength := hperm.length_eq
  have hreleased := SessionEvent.length_unclosed_released past
  rw [List.length_append] at hlength
  refine ⟨haccounts.openNow, (SessionTable.Counted.initial.steps steps).openNow,
    haccounts.maxOpen, horderly.nodup_opens, hperm, ?_, haccounts.closes, haccounts.droppedOpen,
    ?_, ?_, haccounts.runs⟩
  · have hopens : (opens past).map (·.target) = _ := SessionLog.opens_steps m {} ⟨{}, []⟩ steps
    rw [List.map_reverse, hopens, List.reverse_append, List.reverse_reverse]
    rfl
  · rw [haccounts.closes, List.length_map, haccounts.droppedOpen, haccounts.openNow]
    omega
  · rw [haccounts.openNow]
    omega

/-- A session that takes the name of another is open beside it for a moment, and what is run after
a close does not count. -/
example :
    let host : RemoteTarget := ⟨1, "h", "root", none, 22⟩
    (SessionTable.after ({} : MockScript).connector ⟨{}, []⟩
      [.connect "a" host, .connect "a" host, .run "a" "x", .close "a", .run "a" "y", .drop "a"]).net
      = { connects := ["h", "h"], runs := [("h", "x")], closes := ["h"], maxOpen := 2,
          droppedOpen := 1 } := by
  decide

end RemoteFleet
