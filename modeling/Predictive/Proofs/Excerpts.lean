import Predictive.Proofs.TextOffsets

/-!
# What an excerpt shows

Newlines cut a text into its lines. A position counts them from the front; an excerpt does
not count, but searches for a newline on either side of an offset. Both are compared with
one cut of the text: lines in front, and behind them the part of a line up to the offset.
So the excerpt at a position shows the line with the number of the position, and the caret
below it stands in the column of the position.
-/

namespace Predictive.Text

/-- An excerpt shows a line of a text, counted from one, and on the next line a caret in a
column of it. -/
def Shows (text : List Char) (line column : Nat) (shown : String) : Prop :=
  0 < line ∧ 0 < column ∧ ∃ cs, (text.splitOn '\n')[line - 1]? = some cs ∧
    shown = String.ofList cs ++ "\n" ++ String.ofList (List.replicate (column - 1) ' ' ++ ['^'])

/-- An excerpt shows the last line of a text, and on the next line a caret behind it. -/
def ShowsEnd (text : List Char) (shown : String) : Prop :=
  ∃ cs, (text.splitOn '\n').getLast? = some cs ∧
    shown = String.ofList cs ++ "\n" ++ String.ofList (List.replicate cs.length ' ' ++ ['^'])

/-! The lines of a text. -/

/-- The first line of a text goes up to its first newline. -/
theorem head?_splitOn (text : List Char) :
    (text.splitOn '\n').head? = some (text.takeWhile (· ≠ '\n')) := by
  induction text with
  | nil => rfl
  | cons c rest inductionHypothesis =>
    rw [List.splitOn_cons_eq_if_modifyHead]
    by_cases newline : c = '\n'
    · simp [newline]
    · simp [newline, inductionHypothesis]

/-- Every newline begins one more line. -/
theorem length_splitOn (text : List Char) : (text.splitOn '\n').length = text.count '\n' + 1 := by
  induction text with
  | nil => rfl
  | cons c rest inductionHypothesis =>
    rw [List.splitOn_cons_eq_if_modifyHead]
    by_cases newline : c = '\n'
    · simp [newline, inductionHypothesis]
    · simp [newline, inductionHypothesis]

/-- A piece of text that whole lines make up, each with its newline. -/
def IsLines (front : List Char) : Prop := front = [] ∨ ∃ lines, front = lines ++ ['\n']

variable {earlier before : List Char}

/-- Whole lines are cut off from the text behind them. -/
theorem IsLines.splitOn (lines : IsLines earlier) (behind : List Char) :
    ∃ cut, (earlier ++ behind).splitOn '\n' = cut ++ behind.splitOn '\n' ∧
      cut.length = earlier.count '\n' := by
  rcases lines with rfl | ⟨front, rfl⟩
  · exact ⟨[], rfl, rfl⟩
  · refine ⟨front.splitOn '\n', ?_, ?_⟩
    · rw [List.append_assoc, List.singleton_append, List.splitOn_append_cons_self]
    · rw [length_splitOn]
      simp

/-- A text ends in the beginning of a line. -/
theorem exists_lines (front : List Char) :
    ∃ earlier before, front = earlier ++ before ∧ IsLines earlier ∧ '\n' ∉ before := by
  induction front with
  | nil => exact ⟨[], [], rfl, Or.inl rfl, List.not_mem_nil⟩
  | cons c rest inductionHypothesis =>
    obtain ⟨earlier, before, rfl, lines, free⟩ := inductionHypothesis
    rcases lines with rfl | ⟨front, rfl⟩
    · by_cases newline : c = '\n'
      · exact ⟨['\n'], before, by simp [newline], Or.inr ⟨[], rfl⟩, free⟩
      · exact ⟨[], c :: before, rfl, Or.inl rfl, by simp [free, Ne.symm newline]⟩
    · exact ⟨c :: (front ++ ['\n']), before, rfl, Or.inr ⟨c :: front, rfl⟩, free⟩

section Cut

variable (lines : IsLines earlier) (free : '\n' ∉ before) (rest : List Char)

include lines free

/-- Behind whole lines, an offset has the beginning of its line in front of it. -/
theorem lineBefore_of_lines :
    lineBefore (earlier ++ before ++ rest) (earlier ++ before).length = before := by
  have passes : ∀ c ∈ before.reverse, decide (c ≠ '\n') = true := by
    intro c member
    exact decide_eq_true (fun same => free (same ▸ List.mem_reverse.mp member))
  have stops : earlier.reverse.takeWhile (fun c => decide (c ≠ '\n')) = [] := by
    rcases lines with rfl | ⟨front, rfl⟩
    · rfl
    · simp
  rw [lineBefore, List.take_left, List.reverse_append, List.takeWhile_append_of_pos passes, stops,
    List.append_nil, List.reverse_reverse]

/-- The excerpt there shows the whole line, up to its newline or the end of the text. -/
theorem excerpt_of_lines : excerpt (earlier ++ before ++ rest) (earlier ++ before).length =
    String.ofList (before ++ rest.takeWhile (· ≠ '\n')) ++ "\n" ++
      String.ofList (List.replicate before.length ' ' ++ ['^']) := by
  have start : lineStart (earlier ++ before ++ rest) (earlier ++ before).length =
      earlier.length := by
    rw [lineStart, lineBefore_of_lines lines free, List.take_left, List.length_append]
    omega
  have stop : lineEnd (earlier ++ before ++ rest) (earlier ++ before).length =
      earlier.length + (before ++ rest.takeWhile (· ≠ '\n')).length := by
    rw [lineEnd, List.take_left, List.drop_left]
    simp only [List.length_append]
    omega
  have width : earlier.length + (before ++ rest.takeWhile (· ≠ '\n')).length - earlier.length =
      (before ++ rest.takeWhile (· ≠ '\n')).length := by omega
  have line : lineAt (earlier ++ before ++ rest) (earlier ++ before).length =
      before ++ rest.takeWhile (· ≠ '\n') := by
    rw [lineAt, start, stop, width, List.append_assoc, List.drop_left]
    exact List.prefix_iff_eq_take.mp ((List.prefix_append_right_inj before).mpr
      (List.takeWhile_prefix _)) |>.symm
  have column : (earlier ++ before).length - earlier.length = before.length := by
    rw [List.length_append]
    omega
  have newline : String.ofList ['\n'] = "\n" := rfl
  rw [excerpt, line, start, column, caret, ← newline, ← String.ofList_append,
    ← String.ofList_append, List.append_cons]

/-- That line has the number of the lines in front of it. -/
theorem line_of_lines : ((earlier ++ before ++ rest).splitOn '\n')[earlier.count '\n']? =
    some (before ++ rest.takeWhile (· ≠ '\n')) := by
  obtain ⟨cut, split, size⟩ := lines.splitOn (before ++ rest)
  have passes : ∀ c ∈ before, decide (c ≠ '\n') = true := by
    intro c member
    exact decide_eq_true (fun same => free (same ▸ member))
  rw [List.append_assoc, split, ← size, List.getElem?_append_right (Nat.le_refl _), Nat.sub_self,
    ← List.head?_eq_getElem?, head?_splitOn, List.takeWhile_append_of_pos passes]

end Cut

/-- The excerpt at a position of a text shows the line and the column of the position. -/
theorem Located.shows {text : List Char} {p : Position} (located : Located text 1 1 p)
    (inside : p.offset ≤ text.length) : Shows text p.line p.column (excerpt text p.offset) := by
  obtain ⟨earlier, before, cut, lines, free⟩ := exists_lines (text.take p.offset)
  have whole : text = earlier ++ before ++ text.drop p.offset := by
    rw [← cut, List.take_append_drop]
  have offset : p.offset = (earlier ++ before).length := by
    rw [← cut, List.length_take_of_le inside]
  have line : p.line = earlier.count '\n' + 1 := by
    rw [located.line_eq, cut, List.count_append, List.count_eq_zero_of_not_mem free]
    omega
  have column : p.column = before.length + 1 := by
    rcases lines with rfl | ⟨front, rfl⟩
    · rw [located.column_first (cut ▸ free), offset, List.nil_append, Nat.add_comm]
    · -- The last newline in front of the offset ends the earlier lines.
      have newline : text[front.length]? = some '\n' := by
        rw [whole]
        simp
      have last : ∀ i, front.length < i → i < p.offset → text[i]? ≠ some '\n' := by
        intro i behind inFront isNewline
        have index : before[i - (front.length + 1)]? = some '\n' := by
          have size : i < (front ++ ['\n'] ++ before).length := offset ▸ inFront
          rw [whole, List.getElem?_append_left size, List.getElem?_append_right (by simp; omega)]
            at isNewline
          simpa using isNewline
        exact free (List.mem_of_getElem? index)
      rw [located.column_later front.length (by rw [offset]; simp) newline last, offset]
      simp only [List.length_append, List.length_singleton]
      omega
  have excerpted := excerpt_of_lines lines free (text.drop p.offset)
  have numbered := line_of_lines lines free (text.drop p.offset)
  have index : p.line - 1 = earlier.count '\n' := by omega
  have width : p.column - 1 = before.length := by omega
  rw [← whole, ← offset, ← width] at excerpted
  rw [← whole, ← index] at numbered
  exact ⟨by omega, by omega, _, numbered, excerpted⟩

/-- The excerpt at the end of a text shows its last line. -/
theorem showsEnd (text : List Char) : ShowsEnd text (excerpt text text.length) := by
  obtain ⟨earlier, before, rfl, lines, free⟩ := exists_lines text
  obtain ⟨cut, split, _⟩ := lines.splitOn before
  refine ⟨before, ?_, ?_⟩
  · rw [split, List.splitOn_eq_singleton free]
    simp
  · have excerpted := excerpt_of_lines lines free []
    simpa using excerpted

end Predictive.Text
