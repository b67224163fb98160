import Mathlib
import Predictive.RuleFile.Cover
import Predictive.RuleFile.Fault
import Predictive.Proofs.Scanning
import Predictive.Proofs.TextOffsets

/-!
# Where the lexemes of a rule file stand

Every alternative that matches takes at least one character and no more than there are. So a
rule file is cut match by match, up to its end or up to a character at which no alternative
matches, and the cut covers it. Each lexeme is then the piece of the text at its offset, on
the line and in the column of that offset; no two of them overlap; and nothing but white
space and comments lies in front of, between and behind them.

A match is decided by the text at its place. So matches one behind the other lead from the
text to one rest at which no alternative matches, and this is where a fault is found.
-/

namespace Predictive.RuleFile

open Text (Position Located quoted)

/-! Lengths of matches. -/

section Lengths

variable {cs rest : List Char} {n : Nat}

theorem run?_bounds {p : Char → Bool} (matched : run? p cs = some n) : 0 < n ∧ n ≤ cs.length := by
  unfold run? at matched
  split at matched
  · cases matched
  · rename_i filled
    obtain rfl := Option.some.inj matched
    exact ⟨Nat.pos_of_ne_zero filled, (List.takeWhile_prefix p).length_le⟩

theorem one?_bounds {p : Char → Bool} (matched : one? p cs = some n) : 0 < n ∧ n ≤ cs.length := by
  unfold one? at matched
  split at matched
  · split at matched
    · obtain rfl := Option.some.inj matched
      simp
    · cases matched
  · cases matched

theorem comment?_bounds (matched : comment? cs = some n) : 0 < n ∧ n ≤ cs.length := by
  unfold comment? at matched
  split at matched
  · rename_i rest
    obtain rfl := Option.some.inj matched
    have line := (List.takeWhile_prefix (l := rest) (fun c => decide (c ≠ '\n'))).length_le
    simp only [List.length_cons]
    omega
  · cases matched

theorem blockEnd?_bounds (matched : blockEnd? cs = some n) : 0 < n ∧ n ≤ cs.length := by
  induction cs generalizing n with
  | nil => cases matched
  | cons c rest inductionHypothesis =>
    unfold blockEnd? at matched
    split at matched
    · rename_i same
      obtain rfl := Option.some.inj matched
      rw [same]
      simp
    · rename_i same
      obtain ⟨_, rfl⟩ := List.cons.inj same
      obtain ⟨m, found, rfl⟩ := Option.map_eq_some_iff.mp matched
      have bounds := inductionHypothesis found
      simp only [List.length_cons]
      omega
    · cases matched

theorem blockComment?_bounds (matched : blockComment? cs = some n) : 0 < n ∧ n ≤ cs.length := by
  unfold blockComment? at matched
  split at matched
  · obtain ⟨m, found, rfl⟩ := Option.map_eq_some_iff.mp matched
    have bounds := blockEnd?_bounds found
    simp only [List.length_cons]
    omega
  · cases matched

/-- The units of a text end inside it, and those of its tail inside the tail. -/
theorem closings_bounds (cs : List Char) : (∀ n ∈ (closings cs).1, 0 < n ∧ n ≤ cs.length) ∧
    ∀ n ∈ (closings cs).2, 0 < n ∧ n < cs.length := by
  induction cs with
  | nil => simp [closings]
  | cons c rest inductionHypothesis =>
    obtain ⟨here, next⟩ := inductionHypothesis
    refine ⟨?_, fun n found => ?_⟩
    · intro n found
      simp only [closings, Option.mem_def] at found
      split at found
      · obtain rfl := Option.some.inj found
        simp
      split at found
      · cases found
      split at found
      · rcases Option.or_eq_some_iff.mp found with pair | ⟨_, lone⟩
        · obtain ⟨m, later, rfl⟩ := Option.map_eq_some_iff.mp pair
          have bounds := next m later
          simp only [List.length_cons]
          omega
        · obtain ⟨m, later, rfl⟩ := Option.map_eq_some_iff.mp lone
          have bounds := here m later
          simp only [List.length_cons]
          omega
      · obtain ⟨m, later, rfl⟩ := Option.map_eq_some_iff.mp found
        have bounds := here m later
        simp only [List.length_cons]
        omega
    · have bounds := here n found
      simp only [List.length_cons]
      omega

theorem regex?_bounds (matched : regex? cs = some n) : 0 < n ∧ n ≤ cs.length := by
  unfold regex? at matched
  split at matched
  · cases matched
  · rename_i rest _
    obtain ⟨m, closed, rfl⟩ := Option.map_eq_some_iff.mp matched
    have bounds := (closings_bounds rest).1 m closed
    have flags := (List.takeWhile_prefix (l := rest.drop m) isFlag).length_le
    rw [List.length_drop] at flags
    simp only [flagCount, List.length_cons]
    omega
  · cases matched

theorem quoteEnd?_bounds {quote : Char} (matched : quoteEnd? quote cs = some n) :
    0 < n ∧ n ≤ cs.length := by
  fun_induction quoteEnd? quote cs generalizing n with
  | case1 => cases matched
  | case2 =>
    obtain rfl := Option.some.inj matched
    simp
  | case3 c others _ inductionHypothesis =>
    obtain ⟨m, found, rfl⟩ := Option.map_eq_some_iff.mp matched
    have bounds := inductionHypothesis found
    simp only [List.length_cons]
    omega
  | case4 => cases matched
  | case5 c rest _ _ inductionHypothesis =>
    obtain ⟨m, found, rfl⟩ := Option.map_eq_some_iff.mp matched
    have bounds := inductionHypothesis found
    simp only [List.length_cons]
    omega

theorem quoted?_bounds {quote : Char} (matched : quoted? quote cs = some n) :
    0 < n ∧ n ≤ cs.length := by
  unfold quoted? at matched
  split at matched
  · split at matched
    · obtain ⟨m, found, rfl⟩ := Option.map_eq_some_iff.mp matched
      have bounds := quoteEnd?_bounds found
      simp only [List.length_cons]
      omega
    · cases matched
  · cases matched

theorem identifier?_bounds (matched : identifier? cs = some n) : 0 < n ∧ n ≤ cs.length := by
  unfold identifier? at matched
  split at matched
  · rename_i c rest
    split at matched
    · obtain rfl := Option.some.inj matched
      have others := (List.takeWhile_prefix (l := rest) isNameContinue).length_le
      simp only [List.length_cons]
      omega
    · cases matched
  · cases matched

/-- A match takes at least one character and no more than there are. -/
theorem Kind.match?_bounds {kind : Kind} (matched : kind.match? cs = some n) :
    0 < n ∧ n ≤ cs.length := by
  cases kind with
  | blank => exact run?_bounds matched
  | newline | percent | colon | semicolon | bar | operator => exact one?_bounds matched
  | comment => exact comment?_bounds matched
  | blockComment => exact blockComment?_bounds matched
  | regex => exact regex?_bounds matched
  | doubleQuoted | singleQuoted => exact quoted?_bounds matched
  | identifier => exact identifier?_bounds matched
  | finish => cases matched

/-- So does the first alternative that matches. -/
theorem Kind.first?_bounds {kind : Kind} (first : first? cs = some (kind, n)) :
    0 < n ∧ n ≤ cs.length :=
  match?_bounds (match?_of_first? first).2

end Lengths

/-- A text at which an alternative matches begins with a piece that is the match. -/
theorem Kind.exists_piece_of_first? {cs : List Char} {kind : Kind} {n : Nat}
    (first : first? cs = some (kind, n)) : ∃ piece behind, cs = piece ++ behind ∧ piece ≠ [] ∧
      first? (piece ++ behind) = some (kind, piece.length) := by
  obtain ⟨positive, within⟩ := first?_bounds first
  have size : (cs.take n).length = n := List.length_take_of_le within
  refine ⟨cs.take n, cs.drop n, (List.take_append_drop n cs).symm, ?_, ?_⟩
  · exact List.ne_nil_of_length_pos (by omega)
  · rw [List.take_append_drop, size, first]

/-! A cut covers the text. -/

section Cut

variable {p : Position} {piece behind text rest : List Char} {kind : Kind}
  {list : List Lexeme}

/-- A match in front of what is covered goes into the first gap, or it is the first lexeme. -/
theorem Covers.behind_match (filled : piece ≠ [])
    (first : Kind.first? (piece ++ behind) = some (kind, piece.length))
    (covers : Covers (p.behind piece) behind list rest) :
    Covers p (piece ++ behind)
      (if kind.isGap then list
        else ⟨kind, String.ofList piece, p, p.offset + piece.length⟩ :: list) rest := by
  split
  · rename_i separates
    cases covers with
    | stop blank =>
      rw [← List.append_assoc]
      exact .stop (.cons filled first separates blank)
    | @cons _ gap _ _ _ _ _ blank full matched stands covered =>
      rw [← List.append_assoc]
      rw [← Position.behind_append p piece gap] at covered ⊢
      exact .cons (.cons filled first separates blank) full matched stands covered
  · rename_i stands
    exact .cons (.nil _) filled first (eq_false_of_ne_true stands) covers

theorem Lexemes.withMatch_list (after : Lexemes) (kind : Kind) (piece : List Char) (p : Position) :
    (after.withMatch kind piece p).list =
      if kind.isGap then after.list
      else ⟨kind, String.ofList piece, p, p.offset + piece.length⟩ :: after.list := by
  unfold withMatch
  split <;> rfl

theorem Lexemes.withMatch_finish (after : Lexemes) (kind : Kind) (piece : List Char)
    (p : Position) : (after.withMatch kind piece p).finish = after.finish := by
  unfold withMatch
  split <;> rfl

/-- What a cut of a text says of the text: its lexemes cover it up to its end, where the end
of the file stands, or up to a character at which no alternative matches. -/
def CutsInto (p : Position) (text : List Char) : Except StrayChar Lexemes → Prop
  | .ok lexemes => Covers p text lexemes.list [] ∧
      lexemes.finish = ⟨.finish, "", p.behind text, (p.behind text).offset⟩
  | .error stray => ∃ list front others, text = front ++ stray.char :: others ∧
      stray.position = p.behind front ∧ Kind.first? (stray.char :: others) = none ∧
      Covers p text list (stray.char :: others)

/-- A match in front of a text goes into its cut. -/
theorem CutsInto.behind_match {cut : Except StrayChar Lexemes} (filled : piece ≠ [])
    (first : Kind.first? (piece ++ behind) = some (kind, piece.length))
    (later : CutsInto (p.behind piece) behind cut) :
    CutsInto p (piece ++ behind) (cut.map (fun after => after.withMatch kind piece p)) := by
  cases cut with
  | ok after =>
    obtain ⟨covers, finish⟩ := later
    rw [← Position.behind_append] at finish
    constructor
    · rw [Lexemes.withMatch_list]
      exact covers.behind_match filled first
    · rw [Lexemes.withMatch_finish]
      exact finish
  | error stray =>
    obtain ⟨list, front, others, rfl, place, none, covers⟩ := later
    rw [← Position.behind_append] at place
    exact ⟨_, piece ++ front, others, by simp, place, none, covers.behind_match filled first⟩

/-- Every cut covers its text. The induction is on the length of the text, because a match
may have any length but zero. -/
theorem cutsInto_scanFrom (p : Position) (text : List Char) :
    CutsInto p text (scanFrom 0 p text) := by
  generalize size : text.length = count
  induction count using Nat.strongRecOn generalizing p text with
  | ind count inductionHypothesis =>
    cases text with
    | nil => exact ⟨.stop (.nil []), by simp [Position.behind]⟩
    | cons c others =>
      cases first : Kind.first? (c :: others) with
      | none =>
        simp only [scanFrom, first]
        exact ⟨[], [], others, rfl, by simp [Position.behind], first, .stop (.nil _)⟩
      | some found =>
        obtain ⟨kind, n⟩ := found
        obtain ⟨piece, behind, same, filled, first⟩ := Kind.exists_piece_of_first? first
        rw [same] at size ⊢
        have positive : 0 < piece.length := List.length_pos_iff.mpr filled
        rw [List.length_append] at size
        rw [scanFrom_append filled first, Position.advance_eq_behind]
        exact (inductionHypothesis _ (by omega) _ behind rfl).behind_match filled first

end Cut

/-- The offset behind the last one of several lexemes, or a given one if there is none. -/
def Lexeme.lastStop (start : Nat) (lexemes : List Lexeme) : Nat :=
  (lexemes.getLast?.map Lexeme.stop).getD start

theorem Lexeme.lastStop_cons (start : Nat) (l : Lexeme) (others : List Lexeme) :
    lastStop start (l :: others) = lastStop l.stop others := by
  cases others with
  | nil => rfl
  | cons m others =>
    rw [lastStop, lastStop, List.getLast?_cons_cons]
    simp [List.getLast?_cons]

theorem Lexeme.lastStop_concat (start : Nat) (others : List Lexeme) (l : Lexeme) :
    lastStop start (others ++ [l]) = l.stop := by
  simp [lastStop]

/-- A piece of a text, from one offset to another, is a gap. -/
structure GapBetween (text : List Char) (start stop : Nat) : Prop where
  ordered : start ≤ stop
  within : stop ≤ text.length
  blank : IsGap ((text.drop start).take (stop - start)) (text.drop stop)

/-- A lexeme is a piece of a text that is not empty: the match of its kind at its offset, on
the line and in the column of the offset. -/
structure Lexeme.StandsIn (l : Lexeme) (text : List Char) : Prop where
  filled : l.start.offset < l.stop
  within : l.stop ≤ text.length
  slice : l.text.toList = (text.drop l.start.offset).take (l.stop - l.start.offset)
  located : Located text 1 1 l.start
  matched : Kind.first? (text.drop l.start.offset) = some (l.kind, l.stop - l.start.offset)
  stands : l.kind.isGap = false
  not_finish : l.kind ≠ .finish

/-- Lexemes account for a text up to an offset: they stand in it, one behind the other, and
only gaps lie in front of, between and behind them. -/
structure AccountFor (lexemes : List Lexeme) (text : List Char) (stop : Nat) : Prop where
  stand : ∀ l ∈ lexemes, l.StandsIn text
  apart : lexemes.Pairwise (fun l m => l.stop ≤ m.start.offset)
  gaps : ∀ front back, lexemes = front ++ back →
    GapBetween text (Lexeme.lastStop 0 front) ((back.head?.map (·.start.offset)).getD stop)

/-! From a cover to offsets. -/

section Offsets

variable {p : Position} {text rest : List Char} {lexemes earlier later : List Lexeme}

/-- What is covered can be cut behind any number of its lexemes. -/
theorem Covers.cut (covers : Covers p text (earlier ++ later) rest) :
    ∃ front behind, text = front ++ behind ∧
      Lexeme.lastStop p.offset earlier = p.offset + front.length ∧
      Covers (p.behind front) behind later rest := by
  induction earlier generalizing p text with
  | nil => exact ⟨[], text, rfl, rfl, by simpa [Position.behind] using covers⟩
  | cons l earlier inductionHypothesis =>
    cases covers with
    | @cons _ gap piece _ _ kind _ _ _ _ _ covered =>
      obtain ⟨front, behind, rfl, stop, others⟩ := inductionHypothesis covered
      refine ⟨gap ++ (piece ++ front), behind, by simp, ?_, ?_⟩
      · rw [Lexeme.lastStop_cons]
        have first : ((p.behind gap).behind piece).offset = (p.behind gap).offset + piece.length :=
          rfl
        rw [← first, stop]
        simp [Position.behind]
        omega
      · simpa [Position.behind_append] using others

/-- Behind what is covered the rest is left. -/
theorem Covers.exists_front (covers : Covers p text lexemes rest) :
    ∃ front, text = front ++ rest := by
  induction covers with
  | @stop _ gap _ _ => exact ⟨gap, rfl⟩
  | @cons _ gap piece _ _ _ _ _ _ _ _ _ inductionHypothesis =>
    obtain ⟨front, rfl⟩ := inductionHypothesis
    exact ⟨gap ++ (piece ++ front), by simp⟩

/-- What is covered begins with a gap, up to its first lexeme or to the rest. -/
theorem Covers.gap (covers : Covers p text lexemes rest) :
    ∃ gap behind, text = gap ++ behind ∧ IsGap gap behind ∧
      (lexemes.head?.map (·.start.offset)).getD (p.offset + (text.length - rest.length)) =
        p.offset + gap.length := by
  cases covers with
  | @stop _ gap _ blank => exact ⟨gap, rest, rfl, blank, by simp⟩
  | @cons _ gap piece behind _ _ _ blank _ _ _ _ => exact ⟨gap, piece ++ behind, rfl, blank, rfl⟩

/-- Lexemes that cover a text stand behind the place where it begins, each behind the one in
front of it. -/
theorem Covers.pairwise (covers : Covers p text lexemes rest) :
    (∀ l ∈ lexemes, p.offset ≤ l.start.offset) ∧
      lexemes.Pairwise (fun l m => l.stop ≤ m.start.offset) := by
  induction covers with
  | stop _ => exact ⟨List.forall_mem_nil _, .nil⟩
  | @cons p gap piece _ _ kind later _ _ _ _ _ inductionHypothesis =>
    obtain ⟨below, apart⟩ := inductionHypothesis
    have place : (p.behind gap).offset = p.offset + gap.length := rfl
    have behind : ((p.behind gap).behind piece).offset = (p.behind gap).offset + piece.length := rfl
    constructor
    · refine List.forall_mem_cons.mpr ⟨by simp only [place]; omega, fun m member => ?_⟩
      have further := below m member
      omega
    · refine List.pairwise_cons.mpr ⟨fun m member => ?_, apart⟩
      exact behind ▸ below m member

/-- A lexeme of what is covered is the match of its kind at a piece that is not empty. -/
theorem Covers.exists_piece {l : Lexeme} (covers : Covers p text lexemes rest)
    (member : l ∈ lexemes) : ∃ front piece behind, text = front ++ (piece ++ behind) ∧
      piece ≠ [] ∧ Kind.first? (piece ++ behind) = some (l.kind, piece.length) ∧
      l.kind.isGap = false ∧
      l = ⟨l.kind, String.ofList piece, p.behind front,
        (p.behind front).offset + piece.length⟩ := by
  obtain ⟨earlier, later, rfl⟩ := List.append_of_mem member
  obtain ⟨front, behind, rfl, _, covers⟩ := covers.cut
  cases covers with
  | @cons _ gap piece others _ kind _ _ filled first stands _ =>
    refine ⟨front ++ gap, piece, others, by simp, filled, first, stands, ?_⟩
    rw [Position.behind_append]

/-- A lexeme of a covered text stands in the text. -/
theorem Covers.standsIn {l : Lexeme} (covers : Covers {} text lexemes rest) (member : l ∈ lexemes) :
    l.StandsIn text := by
  obtain ⟨front, piece, behind, rfl, filled, first, stands, same⟩ := covers.exists_piece member
  have start : l.start = Position.behind {} front := by rw [same]
  have offset : l.start.offset = front.length := by
    rw [start]
    exact Nat.zero_add _
  have stop : l.stop = front.length + piece.length := by
    rw [← offset, start, same]
  have width : l.stop - l.start.offset = piece.length := by omega
  have positive : 0 < piece.length := List.length_pos_iff.mpr filled
  constructor
  · omega
  · simp only [List.length_append]
    omega
  · rw [width, offset, List.drop_left, List.take_left, same, String.toList_ofList]
  · rw [start]
    exact Text.located_behind front _ 1 1
  · rw [width, offset, List.drop_left, first]
  · exact stands
  · exact Kind.ne_finish_of_first? first

/-- Lexemes that cover a text up to a rest account for it up to the rest. -/
theorem Covers.accountFor (covers : Covers {} text lexemes rest) :
    AccountFor lexemes text (text.length - rest.length) where
  stand := fun _ member => covers.standsIn member
  apart := covers.pairwise.2
  gaps := by
    rintro front back rfl
    obtain ⟨done, behind, rfl, start, covers⟩ := covers.cut
    obtain ⟨gap, others, rfl, blank, stop⟩ := covers.gap
    obtain ⟨_, left⟩ := covers.exists_front
    have start : Lexeme.lastStop 0 front = done.length := by simpa using start
    have inside : rest.length ≤ (gap ++ others).length := by
      rw [left, List.length_append]
      omega
    have stop : (back.head?.map (·.start.offset)).getD
        ((done ++ (gap ++ others)).length - rest.length) = done.length + gap.length := by
      have place : (Position.behind {} done).offset = done.length := Nat.zero_add _
      rw [place, ← Nat.add_sub_assoc inside, ← List.length_append] at stop
      exact stop
    rw [start, stop]
    constructor
    · exact Nat.le_add_right _ _
    · simp only [List.length_append]
      omega
    · have width : done.length + gap.length - done.length = gap.length := by omega
      have whole : done ++ (gap ++ others) = done ++ gap ++ others := by simp
      rw [List.drop_left, width, List.take_left, whole, ← List.length_append, List.drop_left]
      exact blank

end Offsets

/-! Back from offsets to the cut. -/

section Stray

variable {text : List Char} {start stop : Nat} {stray : StrayChar}

/-- The cut of a text from one of its offsets on. -/
def scanAt (text : List Char) (offset : Nat) : Except StrayChar Lexemes :=
  scanFrom 0 (Position.behind {} (text.take offset)) (text.drop offset)

/-- From one offset to another there is a piece of the text. -/
theorem drop_eq_piece_append (ordered : start ≤ stop) (text : List Char) :
    text.drop start = (text.drop start).take (stop - start) ++ text.drop stop := by
  have rest : (text.drop start).drop (stop - start) = text.drop stop := by
    rw [List.drop_drop, Nat.add_sub_cancel' ordered]
  rw [← rest, List.take_append_drop]

/-- A cut goes over the piece between two offsets to the second one of them. -/
theorem scanAt_eq (ordered : start ≤ stop) (text : List Char) :
    scanAt text start = scanFrom 0 (Position.behind {} (text.take start))
        ((text.drop start).take (stop - start) ++ text.drop stop) ∧
      scanAt text stop = scanFrom 0 ((Position.behind {} (text.take start)).behind
        ((text.drop start).take (stop - start))) (text.drop stop) := by
  constructor
  · rw [← drop_eq_piece_append ordered, scanAt]
  · rw [scanAt, ← Position.behind_append, ← List.take_add, Nat.add_sub_cancel' ordered]

/-- If the cut behind a match faults, the cut from the match on has the same fault. -/
theorem scanFrom_error_of_first? {piece behind : List Char} {kind : Kind} {p : Position}
    (filled : piece ≠ []) (first : Kind.first? (piece ++ behind) = some (kind, piece.length))
    (faults : scanFrom 0 (p.behind piece) behind = .error stray) :
    scanFrom 0 p (piece ++ behind) = .error stray := by
  rw [scanFrom_append filled first, Position.advance_eq_behind, faults]
  rfl

/-- If the cut behind a gap faults, the cut from the gap on has the same fault. The induction
goes over the matches of the gap. -/
theorem IsGap.scanFrom_error {piece behind : List Char} (blank : IsGap piece behind) {p : Position}
    (faults : scanFrom 0 (p.behind piece) behind = .error stray) :
    scanFrom 0 p (piece ++ behind) = .error stray := by
  induction blank generalizing p with
  | nil behind => simpa [Position.behind] using faults
  | cons filled first _ _ inductionHypothesis =>
    rw [Position.behind_append] at faults
    rw [List.append_assoc]
    exact scanFrom_error_of_first? filled first (inductionHypothesis faults)

theorem GapBetween.scanAt_error (gap : GapBetween text start stop)
    (faults : scanAt text stop = .error stray) : scanAt text start = .error stray := by
  obtain ⟨here, there⟩ := scanAt_eq gap.ordered text
  rw [there] at faults
  rw [here]
  exact gap.blank.scanFrom_error faults

theorem Lexeme.StandsIn.scanAt_error {l : Lexeme} (stands : l.StandsIn text)
    (faults : scanAt text l.stop = .error stray) : scanAt text l.start.offset = .error stray := by
  obtain ⟨here, there⟩ := scanAt_eq (Nat.le_of_lt stands.filled) text
  have within := stands.within
  have filled := stands.filled
  have size : ((text.drop l.start.offset).take (l.stop - l.start.offset)).length =
      l.stop - l.start.offset := by
    rw [List.length_take, List.length_drop]
    omega
  have pieceFilled : (text.drop l.start.offset).take (l.stop - l.start.offset) ≠ [] :=
    List.ne_nil_of_length_pos (by omega)
  have matched : Kind.first? ((text.drop l.start.offset).take (l.stop - l.start.offset) ++
      text.drop l.stop) =
      some (l.kind, ((text.drop l.start.offset).take (l.stop - l.start.offset)).length) := by
    rw [← drop_eq_piece_append (Nat.le_of_lt filled), size]
    exact stands.matched
  rw [there] at faults
  rw [here]
  exact scanFrom_error_of_first? pieceFilled matched faults

/-- A fault behind lexemes that account for a text up to there is the fault of the text. The
induction goes back over the lexemes, each with the gap in front of it. -/
theorem AccountFor.scan_error {lexemes : List Lexeme} (account : AccountFor lexemes text stop)
    (faults : scanAt text stop = .error stray) : scan text = .error stray := by
  have back : ∀ front behind, lexemes = front ++ behind →
      scanAt text (Lexeme.lastStop 0 front) = .error stray → scan text = .error stray := by
    intro front
    induction front using List.reverseRecOn with
    | nil => exact fun _ _ faults => faults
    | append_singleton front l inductionHypothesis =>
      intro behind same faults
      rw [Lexeme.lastStop_concat] at faults
      rw [List.append_assoc] at same
      have member : l ∈ lexemes := by simp [same]
      have gap := account.gaps front _ same
      have here := (account.stand l member).scanAt_error faults
      exact inductionHypothesis _ same (gap.scanAt_error here)
  have gap := account.gaps lexemes [] (List.append_nil lexemes).symm
  exact back lexemes [] (List.append_nil lexemes).symm (gap.scanAt_error faults)

end Stray

/-- The end of a file stands behind a text. -/
structure Lexeme.Ends (finish : Lexeme) (text : List Char) : Prop where
  kind_eq : finish.kind = .finish
  text_eq : finish.text = ""
  start_eq : finish.start.offset = text.length
  stop_eq : finish.stop = text.length
  located : Located text 1 1 finish.start

/-- A stray character stands at the one offset of a text up to which lexemes account for the
text and at which no alternative matches; its message names the line and the column there. -/
structure StrayChar.StopsIn (stray : StrayChar) (text : List Char) : Prop where
  char_eq : text[stray.position.offset]? = some stray.char
  located : Located text 1 1 stray.position
  accounted : ∃ lexemes, AccountFor lexemes text stray.position.offset
  no_match : Kind.first? (text.drop stray.position.offset) = none
  only : ∀ offset < text.length, (∃ lexemes, AccountFor lexemes text offset) →
    Kind.first? (text.drop offset) = none → offset = stray.position.offset
  worded : (Fault.strayChar stray).headline =
    "Unexpected char " ++ quoted (String.singleton stray.char) ++ " at " ++
      (toString stray.position.line ++ ":" ++ toString stray.position.column)

/-- The lexemes of a text account for it up to its end, and the end of the file stands there. -/
theorem accountFor_of_scan {text : List Char} {lexemes : Lexemes} (cut : scan text = .ok lexemes) :
    AccountFor lexemes.list text text.length ∧ lexemes.finish.Ends text := by
  have covers := cutsInto_scanFrom {} text
  rw [show scanFrom 0 {} text = .ok lexemes from cut] at covers
  obtain ⟨covers, finish⟩ := covers
  have offset : (Position.behind {} text).offset = text.length := Nat.zero_add _
  refine ⟨covers.accountFor, ?_⟩
  rw [finish]
  constructor
  · rfl
  · rfl
  · exact offset
  · exact offset
  · have located := Text.located_behind text [] 1 1
    rwa [List.append_nil] at located

/-- The fault of a text stands at the first character that no lexeme and no gap takes. -/
theorem stopsIn_of_scan {text : List Char} {stray : StrayChar} (faults : scan text = .error stray) :
    stray.StopsIn text := by
  have cut := cutsInto_scanFrom {} text
  rw [show scanFrom 0 {} text = .error stray from faults] at cut
  obtain ⟨lexemes, front, others, rfl, place, none, covers⟩ := cut
  have offset : stray.position.offset = front.length := by
    rw [place]
    exact Nat.zero_add _
  have account := covers.accountFor
  have size : (front ++ stray.char :: others).length - (stray.char :: others).length =
      front.length := by
    simp
  rw [size] at account
  constructor
  · simp [offset]
  · rw [place]
    exact Text.located_behind front _ 1 1
  · rw [offset]
    exact ⟨lexemes, account⟩
  · rw [offset, List.drop_left]
    exact none
  · rintro i inside ⟨earlier, account⟩ missing
    -- The cut faults right at such an offset, and there is one cut only.
    have here : scanAt (front ++ stray.char :: others) i = .error
        ⟨(front ++ stray.char :: others)[i],
          Position.behind {} ((front ++ stray.char :: others).take i)⟩ := by
      rw [List.drop_eq_getElem_cons inside] at missing
      rw [scanAt, List.drop_eq_getElem_cons inside]
      simp only [scanFrom, missing]
    have same := (account.scan_error here).symm.trans faults
    have position := congrArg (fun s => s.position.offset) (Except.error.inj same)
    rw [← position]
    simp only [Position.behind, List.length_take_of_le (Nat.le_of_lt inside), Nat.zero_add]
  · rfl

/-- Every alternative that matches takes at least one character and no more than there are. A
text is either cut as a whole: its lexemes account for it up to its end, and the end of the
file stands there. Or the cut stops at the first character at which no alternative matches. -/
theorem scanning_accounts_for_text (text : List Char) :
    (∀ rest kind length, Kind.first? rest = some (kind, length) →
      0 < length ∧ length ≤ rest.length) ∧
    match scan text with
    | .ok lexemes => AccountFor lexemes.list text text.length ∧ lexemes.finish.Ends text
    | .error stray => stray.StopsIn text := by
  refine ⟨fun rest kind length first => Kind.first?_bounds first, ?_⟩
  cases cut : scan text with
  | ok lexemes => exact accountFor_of_scan cut
  | error stray => exact stopsIn_of_scan cut

/-- A comment and a literal, each over two lines, move the lexemes behind them to the second
and the third line. Behind a colon and a blank on the next line nothing takes a dollar sign. -/
theorem lines_inside_lexemes_are_accounted_for :
    (0 < 2 ∧ 2 ≤ [' ', '\t'].length) ∧
    AccountFor [⟨.singleQuoted, "'\n'", ⟨5, 2, 3⟩, 8⟩, ⟨.semicolon, ";", ⟨9, 3, 3⟩, 10⟩]
      "/*\n*/'\n' ;".toList 10 ∧
    (⟨.finish, "", ⟨10, 3, 4⟩, 10⟩ : Lexeme).Ends "/*\n*/'\n' ;".toList ∧
    (⟨'$', ⟨3, 2, 2⟩⟩ : StrayChar).StopsIn ":\n\t$;".toList := by
  have whole := scanning_accounts_for_text "/*\n*/'\n' ;".toList
  have faulty := scanning_accounts_for_text ":\n\t$;".toList
  have cut : scan "/*\n*/'\n' ;".toList = .ok
      ⟨[⟨.singleQuoted, "'\n'", ⟨5, 2, 3⟩, 8⟩, ⟨.semicolon, ";", ⟨9, 3, 3⟩, 10⟩],
        ⟨.finish, "", ⟨10, 3, 4⟩, 10⟩⟩ := by cbv
  have fault : scan ":\n\t$;".toList = .error ⟨'$', ⟨3, 2, 2⟩⟩ := by cbv
  rw [cut] at whole
  rw [fault] at faulty
  exact ⟨whole.1 [' ', '\t'] .blank 2 (by decide), whole.2.1, whole.2.2, faulty.2⟩

end Predictive.RuleFile
