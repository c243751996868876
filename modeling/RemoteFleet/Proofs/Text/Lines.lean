import RemoteFleet.Text.Lines
import RemoteFleet.Text.Utf8

/-!
# Lines of bytes that are read as text

A line feed cuts bytes and text alike, whatever stands before it.

* `decodeLossy_append`: a byte below `0x80` ends a character that was begun, and what follows is
  read as if it stood alone.  A begun character counts once, as it does at the end of the bytes.
* `lines_append`: the lines up to a line feed and those behind it are the lines of the whole text.
* `not_mem_of_mem_lines`, `length_lines_le`: a line has no line feed of its own, and there is at
  most one line more than there are line feeds.
-/

namespace RemoteFleet.Text

/-! ## Bytes below `0x80` -/

/-- Whether only bytes from `0x80` on go on with the character that was begun. -/
def Breakable (pending : Option Pending) : Prop := ∀ p, pending = some p → 0x80 ≤ p.least

theorem breakable_none : Breakable none := nofun

theorem breakable_some {value missing : Nat} {least greatest : UInt8} (h : 0x80 ≤ least) :
    Breakable (some ⟨value, missing, least, greatest⟩) := by
  rintro p ⟨⟩
  exact h

theorem breakable_start (b : UInt8) : Breakable (start b).2 := by
  unfold start
  repeat' split
  all_goals first | exact breakable_none | exact breakable_some (by decide)

theorem breakable_feed (pending : Option Pending) (b : UInt8) : Breakable (feed pending b).2 := by
  cases pending with
  | none => exact breakable_start b
  | some p =>
    unfold feed
    dsimp only
    split
    · split
      · exact breakable_none
      · exact breakable_some (by decide)
    · exact breakable_start b

theorem start_of_lt {b : UInt8} (hb : b < 0x80) : start b = ([Char.ofNat b.toNat], none) :=
  if_pos hb

/-- What was begun comes out as it would at the end, and then the byte. -/
theorem feed_of_lt {pending : Option Pending} (hpending : Breakable pending) {b : UInt8}
    (hb : b < 0x80) :
    feed pending b = (decodeFrom pending [] ++ [Char.ofNat b.toNat], none) := by
  cases pending with
  | none => exact start_of_lt hb
  | some p =>
    have hbreaks : ¬(p.least ≤ b ∧ b ≤ p.greatest) := fun h =>
      UInt8.not_le.2 hb (UInt8.le_trans (hpending p rfl) h.1)
    simp only [feed, if_neg hbreaks, start_of_lt hb]
    rfl

theorem decodeFrom_append {pending : Option Pending} (hpending : Breakable pending) {b : UInt8}
    (hb : b < 0x80) (before after : Bytes) :
    decodeFrom pending (before ++ b :: after)
      = decodeFrom pending before ++ Char.ofNat b.toNat :: decodeLossy after := by
  induction before generalizing pending with
  | nil =>
    rw [List.nil_append, decodeFrom, feed_of_lt hpending hb, List.append_assoc]
    rfl
  | cons x before ih =>
    rw [List.cons_append, decodeFrom, ih (breakable_feed pending x), decodeFrom, List.append_assoc]

/-- Bytes on the two sides of one below `0x80` are read apart. -/
theorem decodeLossy_append {b : UInt8} (hb : b < 0x80) (before after : Bytes) :
    decodeLossy (before ++ b :: after)
      = decodeLossy before ++ Char.ofNat b.toNat :: decodeLossy after :=
  decodeFrom_append breakable_none hb before after

/-! ## Lines -/

theorem rawLines_ne_nil {s : List Char} (hs : s ≠ []) : rawLines s ≠ [] := by
  intro h
  have hflat := flatten_rawLines s
  rw [h] at hflat
  exact hs hflat.symm

theorem rawLines_append (before after : List Char) :
    rawLines (before ++ '\n' :: after) = rawLines (before ++ ['\n']) ++ rawLines after := by
  induction before with
  | nil => rfl
  | cons c before ih =>
    have hsome : rawLines (before ++ ['\n']) ≠ [] := rawLines_ne_nil (by simp)
    obtain ⟨first, rest, hfirst⟩ := List.exists_cons_of_ne_nil hsome
    simp only [List.cons_append, rawLines, ih, hfirst]
    split <;> rfl

/-- The lines up to a line feed, and those behind it. -/
theorem lines_append (before after : List Char) :
    lines (before ++ '\n' :: after) = lines (before ++ ['\n']) ++ lines after := by
  rw [lines, rawLines_append, List.map_append]
  rfl

/-- A line feed stands nowhere but at the end of a line. -/
theorem exists_of_mem_rawLines {s l : List Char} (h : l ∈ rawLines s) :
    ∃ body, '\n' ∉ body ∧ (l = body ∨ l = body ++ ['\n']) := by
  induction s generalizing l with
  | nil => cases h
  | cons c s ih =>
    simp only [rawLines] at h
    split at h
    · rcases List.mem_cons.1 h with rfl | hrest
      · exact ⟨[], List.not_mem_nil, .inr rfl⟩
      · exact ih hrest
    · next hc =>
      have hbody : ∀ body, '\n' ∉ body → '\n' ∉ c :: body := fun body hbody => by
        simp [hbody, Ne.symm hc]
      split at h
      · obtain rfl := List.mem_singleton.1 h
        exact ⟨[c], hbody [] List.not_mem_nil, .inl rfl⟩
      · next first rest hraw =>
        rw [hraw] at ih
        rcases List.mem_cons.1 h with rfl | hrest
        · obtain ⟨body, hnot, hfirst⟩ := ih List.mem_cons_self
          refine ⟨c :: body, hbody body hnot, ?_⟩
          rcases hfirst with rfl | rfl
          · exact .inl rfl
          · exact .inr rfl
        · exact ih (List.mem_cons_of_mem _ hrest)

theorem chopLine_of_not_mem {body : List Char} (h : '\n' ∉ body) : chopLine body = body := by
  unfold chopLine
  split
  · next r hr =>
    exact absurd (List.mem_reverse.1 (hr ▸ List.mem_cons_self)) h
  · next r _ hr =>
    exact absurd (List.mem_reverse.1 (hr ▸ List.mem_cons_self)) h
  · rfl

/-- The ending goes, and at most a carriage return with it. -/
theorem isPrefix_chopLine (body : List Char) : chopLine (body ++ ['\n']) <+: body := by
  unfold chopLine
  split
  · next r hr =>
    rw [List.reverse_append] at hr
    have hbody : body.reverse = '\r' :: r := (List.cons.inj hr).2
    refine ⟨['\r'], ?_⟩
    rw [← List.reverse_cons, ← hbody, List.reverse_reverse]
  · next r _ hr =>
    rw [List.reverse_append] at hr
    have hbody : body.reverse = r := (List.cons.inj hr).2
    refine ⟨[], ?_⟩
    rw [List.append_nil, ← hbody, List.reverse_reverse]
  · next _ hnone =>
    refine absurd ?_ (hnone body.reverse)
    rw [List.reverse_append]
    rfl

theorem not_mem_of_mem_lines {s l : List Char} (h : l ∈ lines s) : '\n' ∉ l := by
  obtain ⟨raw, hraw, rfl⟩ := List.mem_map.1 h
  obtain ⟨body, hbody, rfl | rfl⟩ := exists_of_mem_rawLines hraw
  · rw [chopLine_of_not_mem hbody]
    exact hbody
  · exact fun hmem => hbody ((isPrefix_chopLine body).subset hmem)

theorem length_lines_le (s : List Char) : (lines s).length ≤ s.count '\n' + 1 := by
  rw [lines, List.length_map]
  induction s with
  | nil => exact Nat.zero_le _
  | cons c s ih =>
    simp only [rawLines]
    split
    · next hc =>
      rw [hc, List.count_cons_self, List.length_cons]
      exact Nat.succ_le_succ ih
    · next hc =>
      rw [List.count_cons_of_ne hc]
      split
      · exact Nat.le_add_left 1 _
      · next first rest hraw =>
        rw [hraw] at ih
        exact ih

/-- Line feeds between lines are as many as the lines, less one. -/
theorem count_intercalate {ls : List (List Char)} (h : ∀ l ∈ ls, '\n' ∉ l) :
    (['\n'].intercalate ls).count '\n' = ls.length - 1 := by
  induction ls with
  | nil => rfl
  | cons l ls ih =>
    obtain ⟨hl, hls⟩ := List.forall_mem_cons.1 h
    cases ls with
    | nil => rw [List.intercalate_singleton, List.count_eq_zero.2 hl]; rfl
    | cons l' ls =>
      rw [List.intercalate_cons_cons, List.count_append, List.count_append, ih hls,
        List.count_eq_zero.2 hl]
      simp [Nat.add_comm]

end RemoteFleet.Text
