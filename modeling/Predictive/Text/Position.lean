/-!
# Positions in a text

A text is a list of characters, and an offset counts them from zero. Only a
newline ends a line. Lines and columns count from one unless a reader starts
elsewhere. `excerpt` shows the line of an offset with a caret below it; the
offset may lie at the end of the text or behind it.
-/

namespace Predictive.Text

/-- A place in a text. -/
structure Position where
  offset : Nat := 0
  line : Nat := 1
  column : Nat := 1
deriving DecidableEq

namespace Position

/-- The place behind one character. -/
def after (p : Position) (c : Char) : Position :=
  if c = '\n' then ⟨p.offset + 1, p.line + 1, 1⟩ else ⟨p.offset + 1, p.line, p.column + 1⟩

/-- The place behind a piece of text. -/
def advance (p : Position) (cs : List Char) : Position := cs.foldl after p

/-- The place behind a piece of text, read off the piece as a whole: its newlines
count lines, and the column counts from the last one of them. -/
def behind (p : Position) (piece : List Char) : Position where
  offset := p.offset + piece.length
  line := p.line + piece.count '\n'
  column :=
    if '\n' ∈ piece then (piece.reverse.takeWhile (· ≠ '\n')).length + 1
    else p.column + piece.length

/-- Line and column in a message. -/
def shown (p : Position) : String := toString p.line ++ ":" ++ toString p.column

@[simp] theorem advance_nil (p : Position) : p.advance [] = p := rfl

@[simp] theorem advance_cons (p : Position) (c : Char) (cs : List Char) :
    p.advance (c :: cs) = (p.after c).advance cs := rfl

theorem advance_append (p : Position) (first second : List Char) :
    p.advance (first ++ second) = (p.advance first).advance second :=
  List.foldl_append

theorem after_offset (p : Position) (c : Char) : (p.after c).offset = p.offset + 1 := by
  unfold after
  split <;> rfl

/-- Offsets count characters. -/
theorem advance_offset (p : Position) (cs : List Char) :
    (p.advance cs).offset = p.offset + cs.length := by
  induction cs generalizing p with
  | nil => rfl
  | cons c rest inductionHypothesis =>
    rw [advance_cons, inductionHypothesis, after_offset, List.length_cons]
    omega

/-- Nothing behind the first stop matters to a run of characters. -/
theorem takeWhile_append_of_stop {p : Char → Bool} {front : List Char} {c : Char}
    (member : c ∈ front) (stops : p c = false) (back : List Char) :
    (front ++ back).takeWhile p = front.takeWhile p := by
  induction front with
  | nil => simp at member
  | cons d rest inductionHypothesis =>
    simp only [List.cons_append, List.takeWhile_cons]
    split
    · rename_i passes
      rcases List.mem_cons.mp member with rfl | later
      · simp [stops] at passes
      · rw [inductionHypothesis later]
    · rfl

/-- One character more in front of a piece. -/
theorem behind_cons (p : Position) (c : Char) (piece : List Char) :
    p.behind (c :: piece) = (p.after c).behind piece := by
  by_cases later : '\n' ∈ piece
  · have column : ((c :: piece).reverse.takeWhile (· ≠ '\n')) =
        piece.reverse.takeWhile (· ≠ '\n') := by
      rw [List.reverse_cons]
      exact takeWhile_append_of_stop (List.mem_reverse.mpr later) (by simp) [c]
    by_cases newline : c = '\n'
    · subst newline
      simp only [behind, after, later, column, List.mem_cons, or_true, if_true, List.length_cons,
        List.count_cons_self, mk.injEq, and_true]
      omega
    · simp only [behind, after, later, column, List.mem_cons, or_true, if_true, List.length_cons,
        newline, if_false, List.count_cons_of_ne newline, mk.injEq, and_true]
      omega
  · by_cases newline : c = '\n'
    · subst newline
      have whole : ('\n' :: piece).reverse.takeWhile (· ≠ '\n') = piece.reverse := by
        rw [List.reverse_cons, List.takeWhile_append_of_pos]
        · simp
        · intro d member
          have other : d ≠ '\n' := fun same => later (same ▸ List.mem_reverse.mp member)
          simp [other]
      simp only [behind, after, later, whole, List.mem_cons, true_or, if_true, if_false,
        List.length_cons, List.length_reverse, List.count_cons_self, mk.injEq]
      omega
    · simp only [behind, after, later, List.mem_cons, Ne.symm newline, or_self, if_false, newline,
        List.length_cons, List.count_cons_of_ne newline, mk.injEq, true_and]
      omega

/-- Going character by character leads to the place behind the whole piece. -/
theorem advance_eq_behind (p : Position) (piece : List Char) : p.advance piece = p.behind piece := by
  induction piece generalizing p with
  | nil => simp [behind]
  | cons c rest inductionHypothesis => rw [advance_cons, inductionHypothesis, behind_cons]

end Position

/-- The characters of the current line that stand in front of an offset. -/
def lineBefore (text : List Char) (offset : Nat) : List Char :=
  ((text.take offset).reverse.takeWhile (· ≠ '\n')).reverse

/-- The offset at which the line of an offset begins. -/
def lineStart (text : List Char) (offset : Nat) : Nat :=
  (text.take offset).length - (lineBefore text offset).length

/-- The offset at which the line of an offset ends: its newline or the end of
the text. -/
def lineEnd (text : List Char) (offset : Nat) : Nat :=
  (text.take offset).length + ((text.drop offset).takeWhile (· ≠ '\n')).length

/-- The characters of the line of an offset, without its newline. -/
def lineAt (text : List Char) (offset : Nat) : List Char :=
  (text.drop (lineStart text offset)).take (lineEnd text offset - lineStart text offset)

/-- A caret under a column counted from zero. -/
def caret (column : Nat) : List Char := List.replicate column ' ' ++ ['^']

/-- The line of an offset with a caret below the offset. -/
def excerpt (text : List Char) (offset : Nat) : String :=
  String.ofList (lineAt text offset ++ '\n' :: caret (offset - lineStart text offset))

end Predictive.Text
