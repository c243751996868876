import RemoteFleet.Proofs.Text.Lines
import RemoteFleet.Report.Output

/-!
# The tail of an output

`RemoteOutput.tail` is what an error quotes of the output of its command.  It depends on the end of
the output alone (`lines_append_line`): what stands before a line feed, be it text or not, neither
joins the lines that follow nor changes them.
-/

namespace RemoteFleet.RemoteOutput

/-- The lines of an output with something in front are lines of that, and then its own. -/
theorem lines_append_line (before stdout stderr : Bytes) :
    (⟨before ++ 0x0A :: stdout, stderr⟩ : RemoteOutput).lines
      = Text.lines (Text.decodeLossy before ++ ['\n']) ++ lines ⟨stdout, stderr⟩ := by
  have hcombined : combined ⟨before ++ 0x0A :: stdout, stderr⟩
      = before ++ 0x0A :: combined ⟨stdout, stderr⟩ := by
    rw [combined, combined, List.append_assoc, List.cons_append]
  rw [lines, hcombined, Text.decodeLossy_append (by decide)]
  exact Text.lines_append _ _

/-- The last elements of two lists in a row are those of the second one, if it has enough. -/
theorem drop_append_of_le {α : Type} {n : Nat} (a : List α) {b : List α} (h : n ≤ b.length) :
    (a ++ b).drop ((a ++ b).length - n) = b.drop (b.length - n) := by
  rw [List.length_append, Nat.add_sub_assoc h, List.drop_append]
  simp

theorem toList_tail (o : RemoteOutput) (n : Nat) :
    (o.tail n).toList = ['\n'].intercalate (o.lines.drop (o.lines.length - n)) :=
  String.toList_ofList

/-- The tail has the line feeds that stand between its lines. -/
theorem count_tail (o : RemoteOutput) (n : Nat) :
    (o.tail n).toList.count '\n' = min n o.lines.length - 1 := by
  have hlast : ∀ l ∈ o.lines.drop (o.lines.length - n), '\n' ∉ l := fun l hl =>
    Text.not_mem_of_mem_lines (List.mem_of_mem_drop hl)
  rw [toList_tail, Text.count_intercalate hlast, List.length_drop]
  omega

theorem tail_zero (o : RemoteOutput) : o.tail 0 = "" := by
  rw [tail, Nat.sub_zero, List.drop_length]
  rfl

theorem length_lines_tail_le (o : RemoteOutput) (n : Nat) :
    (Text.lines (o.tail n).toList).length ≤ n := by
  cases n with
  | zero =>
    rw [tail_zero]
    exact Nat.le_refl 0
  | succ n =>
    have hlines := Text.length_lines_le (o.tail (n + 1)).toList
    rw [count_tail] at hlines
    omega

/-- The tail depends on the end of the output alone: bytes in front of a line feed do not change it
if there are lines enough behind.  It has as many lines as were asked for at most, and all lines if
there are no more. -/
theorem tail_reads_the_end :
    (∀ (n : Nat) (before stdout stderr : Bytes),
      n ≤ (⟨stdout, stderr⟩ : RemoteOutput).lines.length →
      (⟨before ++ 0x0A :: stdout, stderr⟩ : RemoteOutput).tail n = tail ⟨stdout, stderr⟩ n) ∧
    ∀ (o : RemoteOutput) (n : Nat),
      (Text.lines (o.tail n).toList).length ≤ n ∧
      (o.tail n).toList.count '\n' ≤ n - 1 ∧
      (n = 0 → o.tail n = "") ∧
      (o.lines.length ≤ n → o.tail n = String.ofList (['\n'].intercalate o.lines)) := by
  constructor
  · intro n before stdout stderr hn
    rw [tail, tail, lines_append_line, drop_append_of_le _ hn]
  · intro o n
    refine ⟨o.length_lines_tail_le n, ?_, ?_, ?_⟩
    · rw [count_tail]
      exact Nat.sub_le_sub_right (Nat.min_le_left _ _) 1
    · rintro rfl
      exact o.tail_zero
    · intro hn
      rw [tail, Nat.sub_eq_zero_of_le hn, List.drop_zero]

/-- Two lines are asked for, behind the beginning of a character and a carriage return. -/
theorem tail_reads_the_end_broken :
    tail ⟨[0x61, 0xE2, 0x82] ++ 0x0A :: [0x62, 0x0D, 0x0A, 0x63], [0x0A, 0xFF]⟩ 2 = "c\n\ufffd" ∧
      tail ⟨[0x62, 0x0D, 0x0A, 0x63], [0x0A, 0xFF]⟩ 9 = "b\nc\n\ufffd" := by
  obtain ⟨hend, hall⟩ := tail_reads_the_end
  constructor
  · rw [hend 2 [0x61, 0xE2, 0x82] [0x62, 0x0D, 0x0A, 0x63] [0x0A, 0xFF] (by decide)]
    rfl
  · rw [(hall ⟨[0x62, 0x0D, 0x0A, 0x63], [0x0A, 0xFF]⟩ 9).2.2.2 (by decide)]
    rfl

end RemoteFleet.RemoteOutput
