import Mathlib.Data.List.Nodup
import RemoteFleet.Session.Mock

/-!
# What happens to sessions, and what scripted hosts count

Sessions are numbered in the order in which they are opened.  What happens to them is a list of
events, the latest first; it says what was called, and nothing of counters, nor of sessions that
remember that they were closed.

* `Orderly`: sessions are used after they were opened, and not after they were dropped.
* `perm_opens`: every session is held or was released, and it was released once.  Its first close
  releases it, or a drop before any close.
* `MockRecord.Accounts`: what a record counts, said of the events.  There is one lemma for each call
  (`Accounts.opened`, `Accounts.run`, `Accounts.close`, `Accounts.drop`).
-/

namespace RemoteFleet

/-! ## What happens to sessions -/

/-- A session, by its number among those that were opened. -/
structure SessionId where
  number : Nat
  target : RemoteTarget
  deriving DecidableEq

/-- Something that happens to a session. -/
inductive SessionEvent where
  | opened (id : SessionId)
  | ran (id : SessionId) (command : String)
  | closed (id : SessionId)
  | dropped (id : SessionId)
  deriving DecidableEq

namespace SessionEvent

/-- The session that it happens to. -/
def session : SessionEvent → SessionId
  | .opened id => id
  | .ran id _ => id
  | .closed id => id
  | .dropped id => id

def opened? : SessionEvent → Option SessionId
  | .opened id => some id
  | _ => none

/-- The address and the command, if a command is run. -/
def command? : SessionEvent → Option (String × String)
  | .ran id command => some (id.target.address, command)
  | _ => none

def closed? : SessionEvent → Option SessionId
  | .closed id => some id
  | _ => none

def dropped? : SessionEvent → Option SessionId
  | .dropped id => some id
  | _ => none

/-- The session that is let go, closed or not. -/
def released? : SessionEvent → Option SessionId
  | .closed id => some id
  | .dropped id => some id
  | _ => none

/-! ### The past, the latest first -/

variable {α : Type}

/-- The sessions that were opened. -/
def opens (past : List SessionEvent) : List SessionId := past.filterMap opened?

/-- The sessions that were opened and neither closed nor dropped. -/
def held (past : List SessionEvent) : List SessionId :=
  (opens past).filter fun id => .closed id ∉ past ∧ .dropped id ∉ past

/-- What is picked of the events on sessions that were not closed before, the first one first. -/
def unclosed (pick : SessionEvent → Option α) : List SessionEvent → List α
  | [] => []
  | e :: past => unclosed pick past ++ if .closed e.session ∈ past then [] else (pick e).toList

/-- How many sessions were held at most at one time. -/
def peak : List SessionEvent → Nat
  | [] => 0
  | e :: past => max (peak past) (held (e :: past)).length

/-- Whether sessions get the next number when they are opened, and whether nothing happens to a
session before that, nor after it was dropped. -/
inductive Orderly : List SessionEvent → Prop where
  | nil : Orderly []
  | opened {past : List SessionEvent} (target : RemoteTarget) (h : Orderly past) :
      Orderly (.opened ⟨(opens past).length, target⟩ :: past)
  | call {past : List SessionEvent} {e : SessionEvent} (hcall : e.opened? = none)
      (hopened : e.session ∈ opens past) (hkept : .dropped e.session ∉ past) (h : Orderly past) :
      Orderly (e :: past)

variable {past : List SessionEvent} {e : SessionEvent} {id : SessionId}

theorem length_held_le_peak (past : List SessionEvent) : (held past).length ≤ peak past := by
  cases past with
  | nil => exact Nat.le_refl 0
  | cons e past => exact Nat.le_max_right _ _

theorem opens_cons_opened (id : SessionId) : opens (.opened id :: past) = id :: opens past := rfl

theorem opens_cons_call (hcall : e.opened? = none) : opens (e :: past) = opens past := by
  rw [opens, List.filterMap_cons_none hcall]
  rfl

namespace Orderly

theorem number_lt (h : Orderly past) (hid : id ∈ opens past) :
    id.number < (opens past).length := by
  induction h with
  | nil => cases hid
  | opened target h ih =>
    rcases List.mem_cons.1 hid with rfl | hold
    · exact Nat.lt_succ_self _
    · exact Nat.lt_succ_of_lt (ih hold)
  | call hcall hopened hkept h ih =>
    rw [opens_cons_call hcall] at hid ⊢
    exact ih hid

/-- A session with the next number is a new one. -/
theorem not_mem_opens (h : Orderly past) (target : RemoteTarget) :
    ⟨(opens past).length, target⟩ ∉ opens past := fun hmem =>
  absurd (h.number_lt hmem) (Nat.lt_irrefl _)

theorem nodup_opens (h : Orderly past) : (opens past).Nodup := by
  induction h with
  | nil => exact List.nodup_nil
  | opened target h ih => exact List.nodup_cons.2 ⟨h.not_mem_opens target, ih⟩
  | call hcall hopened hkept h ih =>
    rw [opens_cons_call hcall]
    exact ih

theorem session_mem_opens (h : Orderly past) (he : e ∈ past) : e.session ∈ opens past := by
  induction h with
  | nil => cases he
  | opened target h ih =>
    rcases List.mem_cons.1 he with rfl | hold
    · exact List.mem_cons_self
    · exact List.mem_cons_of_mem _ (ih hold)
  | call hcall hopened hkept h ih =>
    rw [opens_cons_call hcall]
    rcases List.mem_cons.1 he with rfl | hold
    · exact hopened
    · exact ih hold

/-- Nothing has happened to a session with the next number. -/
theorem session_ne (h : Orderly past) (target : RemoteTarget) (he : e ∈ past) :
    e.session ≠ ⟨(opens past).length, target⟩ := fun heq =>
  h.not_mem_opens target (heq ▸ h.session_mem_opens he)

end Orderly

/-! ### What is held -/

theorem mem_held_iff :
    id ∈ held past ↔ id ∈ opens past ∧ .closed id ∉ past ∧ .dropped id ∉ past := by
  simp [held]

theorem held_opened (h : Orderly past) (target : RemoteTarget) :
    held (.opened ⟨(opens past).length, target⟩ :: past)
      = ⟨(opens past).length, target⟩ :: held past := by
  have hclosed : SessionEvent.closed ⟨(opens past).length, target⟩ ∉ past := fun hmem =>
    h.session_ne target hmem rfl
  have hdropped : SessionEvent.dropped ⟨(opens past).length, target⟩ ∉ past := fun hmem =>
    h.session_ne target hmem rfl
  simp [held, opens_cons_opened, hclosed, hdropped]

theorem held_ran (id : SessionId) (command : String) :
    held (.ran id command :: past) = held past := by
  have hcall : (SessionEvent.ran id command).opened? = none := rfl
  simp [held, opens_cons_call hcall]

/-- A session that is released is not held any more, if it was. -/
theorem held_released (hreleased : e.released? = some id) :
    held (e :: past) = (held past).filter (· != id) := by
  have hcall : e.opened? = none := by
    cases e <;> first | rfl | cases hreleased
  rw [held, held, opens_cons_call hcall, List.filter_filter]
  refine List.filter_congr fun id' _ => ?_
  cases e with
  | opened => cases hreleased
  | ran => cases hreleased
  | closed | dropped =>
    cases hreleased
    by_cases hsame : id' = id <;> simp [hsame]

/-- A session that was closed is not held, whatever happens to it. -/
theorem held_of_closed (hcall : e.opened? = none) (hclosed : .closed e.session ∈ past) :
    held (e :: past) = held past := by
  cases e with
  | opened => cases hcall
  | ran id command => exact held_ran id command
  | closed id | dropped id =>
    rw [held_released rfl, List.filter_eq_self]
    intro id' hheld
    have hne : id' ≠ id := by
      rintro rfl
      exact (mem_held_iff.1 hheld).2.1 hclosed
    exact bne_iff_ne.2 hne

/-- A session that is held and then released is one fewer that is held. -/
theorem Orderly.perm_held_released (h : Orderly past) (hreleased : e.released? = some id)
    (hheld : id ∈ held past) : (held past).Perm (id :: held (e :: past)) := by
  have hnodup : (held past).Nodup := h.nodup_opens.filter _
  rw [held_released hreleased, ← hnodup.erase_eq_filter]
  exact List.perm_cons_erase hheld

/-! ### Every session is released once -/

theorem unclosed_of_none {pick : SessionEvent → Option α} (hpick : pick e = none) :
    unclosed pick (e :: past) = unclosed pick past := by
  simp [unclosed, hpick]

theorem unclosed_of_closed (pick : SessionEvent → Option α) (hclosed : .closed e.session ∈ past) :
    unclosed pick (e :: past) = unclosed pick past := by
  rw [unclosed, if_pos hclosed, List.append_nil]

theorem unclosed_of_not_closed (pick : SessionEvent → Option α)
    (hclosed : .closed e.session ∉ past) :
    unclosed pick (e :: past) = unclosed pick past ++ (pick e).toList := by
  rw [unclosed, if_neg hclosed]

/-- A release is a close or a drop. -/
theorem length_unclosed_released (past : List SessionEvent) :
    (unclosed released? past).length
      = (unclosed closed? past).length + (unclosed dropped? past).length := by
  induction past with
  | nil => rfl
  | cons e past ih =>
    by_cases hclosed : .closed e.session ∈ past
    · simp only [unclosed_of_closed _ hclosed, ih]
    · simp only [unclosed_of_not_closed _ hclosed, List.length_append, ih]
      cases e <;> simp only [released?, closed?, dropped?, Option.toList, List.length_cons,
        List.length_nil] <;> omega

/-- Every session is held or was released, and that once. -/
theorem perm_opens (h : Orderly past) :
    (held past ++ unclosed released? past).Perm (opens past) := by
  induction h with
  | nil => exact .nil
  | opened target h ih =>
    rw [held_opened h, unclosed_of_none rfl, opens_cons_opened, List.cons_append]
    exact ih.cons _
  | @call past e hcall hopened hkept h ih =>
    rw [opens_cons_call hcall]
    cases e with
    | opened => cases hcall
    | ran id command =>
      rw [held_ran, unclosed_of_none rfl]
      exact ih
    | closed id | dropped id =>
      by_cases hclosed : .closed id ∈ past
      · rw [held_of_closed rfl hclosed, unclosed_of_closed released? hclosed]
        exact ih
      · have hheld : id ∈ held past := mem_held_iff.2 ⟨hopened, hclosed, hkept⟩
        rw [unclosed_of_not_closed released? hclosed]
        rw [← List.append_assoc]
        refine (List.perm_append_singleton id _).trans (.trans ?_ ih)
        exact (h.perm_held_released rfl hheld).symm.append_right _

/-! ### How many are held -/

theorem Orderly.length_held_released (h : Orderly past) (hreleased : e.released? = some id)
    (hheld : id ∈ held past) : (held (e :: past)).length = (held past).length - 1 := by
  have hlength := (h.perm_held_released hreleased hheld).length_eq
  rw [List.length_cons] at hlength
  omega

theorem peak_of_le (hle : (held (e :: past)).length ≤ (held past).length) :
    peak (e :: past) = peak past := by
  have hpeak := length_held_le_peak past
  rw [peak]
  omega

end SessionEvent

/-! ## What a record says of the past -/

open SessionEvent (Orderly opens held unclosed peak opened? command? closed? dropped? released?)

/-- A session, once all of that has happened. -/
def MockSession.after (past : List SessionEvent) (id : SessionId) : MockSession :=
  ⟨id.target, decide (.closed id ∈ past)⟩

/-- Whether a record counts what has happened. -/
structure MockRecord.Accounts (r : MockRecord) (past : List SessionEvent) : Prop where
  openNow : r.openNow = (held past).length
  maxOpen : r.maxOpen = peak past
  runs : r.runs = unclosed command? past
  closes : r.closes = (unclosed closed? past).map (·.target.address)
  droppedOpen : r.droppedOpen = (unclosed dropped? past).length

namespace MockRecord.Accounts

variable {r : MockRecord} {past : List SessionEvent} {id : SessionId}

theorem initial : Accounts {} [] := ⟨rfl, rfl, rfl, rfl, rfl⟩

/-- Connects that are only asked for do not count. -/
theorem connects (h : r.Accounts past) (connects : List String) :
    { r with connects }.Accounts past :=
  ⟨h.openNow, h.maxOpen, h.runs, h.closes, h.droppedOpen⟩

/-- Nothing counts that happens to a session after it was closed. -/
theorem of_closed (h : r.Accounts past) {e : SessionEvent} (hcall : e.opened? = none)
    (hclosed : .closed e.session ∈ past) : r.Accounts (e :: past) := by
  have hheld := SessionEvent.held_of_closed hcall hclosed
  constructor
  · rw [hheld, h.openNow]
  · rw [SessionEvent.peak_of_le (Nat.le_of_eq (by rw [hheld])), h.maxOpen]
  · rw [SessionEvent.unclosed_of_closed _ hclosed, h.runs]
  · rw [SessionEvent.unclosed_of_closed _ hclosed, h.closes]
  · rw [SessionEvent.unclosed_of_closed _ hclosed, h.droppedOpen]

/-- What happens to a session before that is added to what was counted. -/
theorem of_not_closed (h : r.Accounts past) {e : SessionEvent} {r' : MockRecord}
    (hclosed : .closed e.session ∉ past) (hopenNow : r'.openNow = (held (e :: past)).length)
    (hmaxOpen : r'.maxOpen = peak (e :: past)) (hruns : r'.runs = r.runs ++ e.command?.toList)
    (hcloses : r'.closes = r.closes ++ e.closed?.toList.map (·.target.address))
    (hdroppedOpen : r'.droppedOpen = r.droppedOpen + e.dropped?.toList.length) :
    r'.Accounts (e :: past) := by
  refine ⟨hopenNow, hmaxOpen, ?_, ?_, ?_⟩
  · rw [SessionEvent.unclosed_of_not_closed _ hclosed, hruns, h.runs]
  · rw [SessionEvent.unclosed_of_not_closed _ hclosed, List.map_append, hcloses, h.closes]
  · rw [SessionEvent.unclosed_of_not_closed _ hclosed, List.length_append, hdroppedOpen,
      h.droppedOpen]

theorem opened (h : r.Accounts past) (ho : Orderly past) (target : RemoteTarget) :
    r.opened.Accounts (.opened ⟨(opens past).length, target⟩ :: past) := by
  have hheld := SessionEvent.held_opened ho target
  refine h.of_not_closed (fun hmem => ho.session_ne target hmem rfl) ?_ ?_ ?_ ?_ rfl
  · rw [hheld, List.length_cons, ← h.openNow]
    rfl
  · rw [peak, hheld, List.length_cons, ← h.openNow, ← h.maxOpen]
    rfl
  · exact (List.append_nil _).symm
  · exact (List.append_nil _).symm

theorem run (h : r.Accounts past) (m : MockScript) (id : SessionId) (command : String) :
    (m.run (.after past id) command r).2.2.Accounts (.ran id command :: past) := by
  by_cases hclosed : .closed id ∈ past
  · have hsame : (m.run (.after past id) command r).2.2 = r := by
      simp [MockScript.run, MockSession.after, hclosed]
    rw [hsame]
    exact h.of_closed rfl hclosed
  · have hcounted : (m.run (.after past id) command r).2.2
        = { r with runs := r.runs ++ [(id.target.address, command)] } := by
      simp [MockScript.run, MockSession.after, hclosed]
    have hheld : held (.ran id command :: past) = held past := SessionEvent.held_ran id command
    rw [hcounted]
    refine h.of_not_closed hclosed ?_ ?_ rfl (List.append_nil _).symm rfl
    · rw [hheld]
      exact h.openNow
    · rw [SessionEvent.peak_of_le (Nat.le_of_eq (by rw [hheld]))]
      exact h.maxOpen

/-- A session that is held is released: it is one fewer, and no more than before. -/
theorem released (h : r.Accounts past) (ho : Orderly past) {e : SessionEvent}
    (hreleased : e.released? = some id) (hheld : id ∈ held past) :
    r.released.openNow = (held (e :: past)).length ∧ r.released.maxOpen = peak (e :: past) := by
  have hlength := ho.length_held_released hreleased hheld
  have hfewer := Nat.le_trans (Nat.le_of_eq hlength) (Nat.sub_le _ 1)
  constructor
  · rw [hlength, ← h.openNow]
    rfl
  · rw [SessionEvent.peak_of_le hfewer]
    exact h.maxOpen

theorem close (h : r.Accounts past) (ho : Orderly past) (hopened : id ∈ opens past)
    (hkept : .dropped id ∉ past) :
    (MockScript.close (.after past id) r).2.2.Accounts (.closed id :: past) := by
  by_cases hclosed : .closed id ∈ past
  · have hsame : (MockScript.close (.after past id) r).2.2 = r := by
      simp [MockScript.close, MockSession.after, hclosed]
    rw [hsame]
    exact h.of_closed rfl hclosed
  · have hcounted : (MockScript.close (.after past id) r).2.2
        = { r.released with closes := r.closes ++ [id.target.address] } := by
      simp [MockScript.close, MockSession.after, hclosed]
    have hheld : id ∈ held past := SessionEvent.mem_held_iff.2 ⟨hopened, hclosed, hkept⟩
    obtain ⟨hopenNow, hmaxOpen⟩ := h.released ho (e := .closed id) rfl hheld
    rw [hcounted]
    exact h.of_not_closed hclosed hopenNow hmaxOpen (List.append_nil _).symm rfl rfl

theorem drop (h : r.Accounts past) (ho : Orderly past) (hopened : id ∈ opens past)
    (hkept : .dropped id ∉ past) :
    (MockScript.drop (.after past id) r).Accounts (.dropped id :: past) := by
  by_cases hclosed : .closed id ∈ past
  · have hsame : MockScript.drop (.after past id) r = r := by
      simp [MockScript.drop, MockSession.after, hclosed]
    rw [hsame]
    exact h.of_closed rfl hclosed
  · have hcounted : MockScript.drop (.after past id) r
        = { r.released with droppedOpen := r.droppedOpen + 1 } := by
      simp [MockScript.drop, MockSession.after, hclosed]
    have hheld : id ∈ held past := SessionEvent.mem_held_iff.2 ⟨hopened, hclosed, hkept⟩
    obtain ⟨hopenNow, hmaxOpen⟩ := h.released ho (e := .dropped id) rfl hheld
    rw [hcounted]
    exact h.of_not_closed hclosed hopenNow hmaxOpen (List.append_nil _).symm
      (List.append_nil _).symm rfl

end MockRecord.Accounts

end RemoteFleet
