import Predictive.Proofs.TextCover

/-!
# Where the tokens of a text stand

The tokens of a lexer account for the whole text. Each is the piece of the text at its
offset, on the line and in the column of that offset; no two of them overlap, and nothing
but ignored text lies in front of, between and behind them. If the lexer faults, then at
the first character that is neither in a token nor in ignored text.

A cover of the text can be cut behind any of its tokens: what lies in front of the cut is
a beginning of the text, and what lies behind it is covered by the other tokens. So every
statement about offsets is one about a cover right behind such a cut.
-/

namespace Predictive

namespace Text

/-- A position is the one of its offset in a text whose first character counts as the
given line and column: newlines in front of it count lines, and its column is counted from
the last one of them. -/
structure Located (text : List Char) (line column : Nat) (p : Position) : Prop where
  line_eq : p.line = line + (text.take p.offset).count '\n'
  column_first : '\n' ∉ text.take p.offset → p.column = column + p.offset
  column_later : ∀ newline < p.offset, text[newline]? = some '\n' →
    (∀ i, newline < i → i < p.offset → text[i]? ≠ some '\n') → p.column = p.offset - newline

/-- The place behind the front of a text is the one of its offset. -/
theorem located_behind (front rest : List Char) (line column : Nat) :
    Located (front ++ rest) line column (Position.behind ⟨0, line, column⟩ front) := by
  have offset : (Position.behind ⟨0, line, column⟩ front).offset = front.length := Nat.zero_add _
  have taken : (front ++ rest).take front.length = front := List.take_left
  constructor
  · rw [offset, taken]
    rfl
  · rw [offset, taken]
    intro noNewline
    simp [Position.behind, noNewline]
  · rw [offset]
    intro newline inside isNewline last
    -- The front is cut at its last newline.
    obtain ⟨earlier, later, rfl, rfl⟩ : ∃ earlier later,
        front = earlier ++ '\n' :: later ∧ earlier.length = newline := by
      refine ⟨front.take newline, front.drop (newline + 1), ?_, by simp; omega⟩
      rw [List.getElem?_append_left inside] at isNewline
      obtain ⟨_, same⟩ := List.getElem?_eq_some_iff.mp isNewline
      rw [← same, List.getElem_cons_drop, List.take_append_drop]
    have free : '\n' ∉ later := by
      intro member
      obtain ⟨i, bound, same⟩ := List.getElem_of_mem member
      refine last (earlier.length + 1 + i) (by omega) (by simp; omega) ?_
      rw [List.append_assoc, List.getElem?_append_right (by omega)]
      have index : earlier.length + 1 + i - earlier.length = i + 1 := by omega
      rw [index, List.cons_append, List.getElem?_cons_succ, List.getElem?_append_left bound,
        List.getElem?_eq_getElem bound, same]
    have run : (earlier ++ '\n' :: later).reverse.takeWhile (· ≠ '\n') = later.reverse := by
      have passes : ∀ c ∈ later.reverse, decide (c ≠ '\n') = true := by
        intro c member
        exact decide_eq_true (fun same => free (same ▸ List.mem_reverse.mp member))
      rw [List.reverse_append, List.reverse_cons, List.append_assoc,
        List.takeWhile_append_of_pos passes]
      simp
    have present : '\n' ∈ earlier ++ '\n' :: later := by simp
    simp only [Position.behind, present, if_true, run, List.length_reverse, List.length_append,
      List.length_cons]
    omega

end Text

open Text (Position Located quoted)

namespace Token

/-- Where a token begins. -/
def position (t : Token) : Position := ⟨t.offset, t.line, t.column⟩

/-- The offset behind a token. -/
def stop (t : Token) : Nat := t.offset + t.text.length

/-- The offset behind the last one of several tokens, or a given one if there is none. -/
def lastStop (start : Nat) (tokens : List Token) : Nat :=
  (tokens.getLast?.map stop).getD start

theorem lastStop_cons (start : Nat) (t : Token) (others : List Token) :
    lastStop start (t :: others) = lastStop t.stop others := by
  cases others with
  | nil => rfl
  | cons u others =>
    rw [lastStop, lastStop, List.getLast?_cons_cons]
    simp [List.getLast?_cons]

end Token

/-- The wording of a fault ends in its line and its column. -/
theorem LexFault.message_eq (f : LexFault) : f.message =
    "Lexing error: unexpected character " ++ quoted (String.singleton f.char) ++ " at " ++
      toString f.position.line ++ ":" ++ toString f.position.column := by
  have joined : ∀ a b c d : String, a ++ (b ++ c ++ d) = a ++ b ++ c ++ d := by
    intro a b c d
    simp only [String.append_assoc]
  exact joined _ _ _ _

namespace Lexicon

variable {lx : Lexicon} {before rest text : List Char} {p : Position} {tokens : List Token}
  {fault : Option LexFault}

/-- A piece of a text, from one offset to another, is ignored text. -/
structure IgnoredBetween (lx : Lexicon) (text : List Char) (start stop : Nat) : Prop where
  ordered : start ≤ stop
  within : stop ≤ text.length
  ignored : lx.IsIgnored (text.take start).reverse ((text.drop start).take (stop - start))
    (text.drop stop)

/-- At the character of a fault nothing is ignored and no candidate stands; the fault and
its wording name the line and the column of that character. -/
structure StraysAt (lx : Lexicon) (text : List Char) (line column : Nat) (f : LexFault) :
    Prop where
  char_eq : text[f.position.offset]? = some f.char
  located : Located text line column f.position
  nothing_ignored : lx.NothingIgnored (text.take f.position.offset).reverse
    (text.drop f.position.offset)
  no_candidate : ∀ kind piece, ¬ lx.Candidate (text.take f.position.offset).reverse
    (text.drop f.position.offset) kind piece
  worded : f.message = "Lexing error: unexpected character " ++ quoted (String.singleton f.char) ++
    " at " ++ toString f.position.line ++ ":" ++ toString f.position.column

/-- Where the tokens of a text come to an end: at the offset of the fault, or at the end
of the text. -/
def endOf (text : List Char) (fault : Option LexFault) : Nat :=
  (fault.map (fun f => f.position.offset)).getD text.length

/-- Tokens and a fault account for a text whose first character counts as the given line
and column. -/
structure Accounts (lx : Lexicon) (text : List Char) (line column : Nat) (tokens : List Token)
    (fault : Option LexFault) : Prop where
  filled : ∀ t ∈ tokens, t.text ≠ ""
  slice : ∀ t ∈ tokens, (text.drop t.offset).take t.text.length = t.text.toList
  located : ∀ t ∈ tokens, Located text line column t.position
  increasing : tokens.Pairwise (fun t u => t.offset < u.offset)
  apart : tokens.Pairwise (fun t u => t.stop ≤ u.offset)
  /-- The text between neighbouring tokens, in front of the first one and behind the last
  one, up to the end or the fault. -/
  gaps : ∀ front back, tokens = front ++ back →
    lx.IgnoredBetween text (Token.lastStop 0 front)
      ((back.head?.map Token.offset).getD (endOf text fault))
  strays : ∀ f, fault = some f → lx.StraysAt text line column f
  count : tokens.length ≤ text.length

/-- A cover can be cut behind any number of its tokens. -/
theorem Covers.cut {earlier later : List Token}
    (covers : lx.Covers before p rest (earlier ++ later) fault) :
    ∃ front behind, rest = front ++ behind ∧
      Token.lastStop p.offset earlier = p.offset + front.length ∧
      lx.Covers (front.reverse ++ before) (p.behind front) behind later fault := by
  induction earlier generalizing before p rest with
  | nil => exact ⟨[], rest, rfl, rfl, by simpa [Position.behind] using covers⟩
  | cons t earlier inductionHypothesis =>
    cases covers with
    | @token _ piece text rest _ kind _ _ _ _ _ _ covered =>
      obtain ⟨front, behind, rfl, stop, others⟩ := inductionHypothesis covered
      refine ⟨piece ++ (text ++ front), behind, by simp, ?_, ?_⟩
      · rw [Token.lastStop_cons]
        have first : (tokenOf kind text (p.behind piece)).stop =
            ((p.behind piece).behind text).offset := by
          simp [Token.stop, tokenOf, Position.behind]
        rw [first, stop]
        simp [Position.behind]
        omega
      · simpa [Position.behind_append] using others

/-- A cover begins with ignored text, up to its first token, its fault or its end. -/
theorem Covers.gap (covers : lx.Covers before p rest tokens fault) :
    ∃ piece behind, rest = piece ++ behind ∧ lx.IsIgnored before piece behind ∧
      (tokens.head?.map Token.offset).getD
        ((fault.map (fun f => f.position.offset)).getD (p.offset + rest.length)) =
          p.offset + piece.length := by
  cases covers with
  | finish ignored => exact ⟨rest, [], by simp, ignored, rfl⟩
  | @stray _ piece others c _ ignored _ _ => exact ⟨piece, c :: others, rfl, ignored, rfl⟩
  | @token _ piece text others _ _ _ _ ignored _ _ _ _ =>
    exact ⟨piece, text ++ others, rfl, ignored, rfl⟩

/-- The tokens of a cover stand behind the place where it begins, each behind the one in
front of it. -/
theorem Covers.pairwise (covers : lx.Covers before p rest tokens fault) :
    (∀ t ∈ tokens, p.offset ≤ t.offset) ∧ tokens.Pairwise (fun t u => t.stop ≤ u.offset) := by
  induction covers with
  | finish _ => exact ⟨List.forall_mem_nil _, .nil⟩
  | stray _ _ _ => exact ⟨List.forall_mem_nil _, .nil⟩
  | @token _ piece text _ p kind later _ _ _ _ _ _ inductionHypothesis =>
    obtain ⟨below, apart⟩ := inductionHypothesis
    have first : (tokenOf kind text (p.behind piece)).offset = p.offset + piece.length := rfl
    have stop : (tokenOf kind text (p.behind piece)).stop =
        ((p.behind piece).behind text).offset := by
      simp [Token.stop, tokenOf, Position.behind]
    constructor
    · refine List.forall_mem_cons.mpr ⟨by omega, ?_⟩
      intro u member
      have behind := below u member
      simp only [Position.behind] at behind
      omega
    · refine List.pairwise_cons.mpr ⟨?_, apart⟩
      intro u member
      rw [stop]
      exact below u member

/-- Every token of a cover is a piece of the text, at its place, that is not empty. -/
theorem Covers.exists_slice {t : Token} (covers : lx.Covers before p rest tokens fault)
    (member : t ∈ tokens) : ∃ front piece behind, rest = front ++ (piece ++ behind) ∧
      piece ≠ [] ∧ t.text = String.ofList piece ∧ t.position = p.behind front := by
  obtain ⟨earlier, later, rfl⟩ := List.append_of_mem member
  obtain ⟨front, behind, rfl, _, covers⟩ := covers.cut
  cases covers with
  | @token _ gap piece others _ kind _ _ _ _ filled _ _ =>
    refine ⟨front ++ gap, piece, others, by simp, filled, rfl, ?_⟩
    rw [Position.behind_append]
    rfl

/-- Behind its tokens a cover with a fault holds ignored text and then the character of
the fault. -/
theorem Covers.exists_stray {f : LexFault} (covers : lx.Covers before p rest tokens (some f)) :
    ∃ front others, rest = front ++ f.char :: others ∧ f.position = p.behind front ∧
      lx.NothingIgnored (front.reverse ++ before) (f.char :: others) ∧
      ∀ kind piece, ¬ lx.Candidate (front.reverse ++ before) (f.char :: others) kind piece := by
  rw [← List.append_nil tokens] at covers
  obtain ⟨front, behind, rfl, _, covers⟩ := covers.cut
  cases covers with
  | @stray _ gap others c _ _ stops none =>
    refine ⟨front ++ gap, others, by simp, ?_, ?_, ?_⟩
    · rw [Position.behind_append]
    · rwa [List.reverse_append, List.append_assoc]
    · rwa [List.reverse_append, List.append_assoc]

section Whole

variable {line column : Nat}

/-- In a cover of a whole text every token is the piece of the text at its offset. -/
theorem Covers.slice (covers : lx.Covers [] ⟨0, line, column⟩ text tokens fault) {t : Token}
    (member : t ∈ tokens) : t.text ≠ "" ∧
      (text.drop t.offset).take t.text.length = t.text.toList ∧
      Located text line column t.position := by
  obtain ⟨front, piece, behind, rfl, filled, same, place⟩ := covers.exists_slice member
  have offset : t.offset = front.length := by
    have first : t.position.offset = 0 + front.length := by rw [place]; rfl
    simpa [Token.position] using first
  refine ⟨?_, ?_, ?_⟩
  · rw [same]
    intro empty
    exact filled (String.ofList_eq_empty_iff.mp empty)
  · simp [same, offset]
  · rw [place]
    exact Text.located_behind front _ line column

/-- In a cover of a whole text the fault stands at the first character that is in no token
and in no ignored text. -/
theorem Covers.straysAt {f : LexFault}
    (covers : lx.Covers [] ⟨0, line, column⟩ text tokens (some f)) :
    lx.StraysAt text line column f := by
  obtain ⟨front, others, rfl, place, stops, none⟩ := covers.exists_stray
  have offset : f.position.offset = front.length := by
    rw [place]
    exact Nat.zero_add _
  rw [List.append_nil] at stops none
  constructor
  · simp [offset]
  · rw [place]
    exact Text.located_behind front _ line column
  · rw [offset, List.take_left, List.drop_left]
    exact stops
  · rw [offset, List.take_left, List.drop_left]
    exact none
  · exact f.message_eq

/-- In a cover of a whole text only ignored text lies between the tokens. -/
theorem Covers.ignoredBetween {earlier later : List Token}
    (covers : lx.Covers [] ⟨0, line, column⟩ text (earlier ++ later) fault) :
    lx.IgnoredBetween text (Token.lastStop 0 earlier)
      ((later.head?.map Token.offset).getD (endOf text fault)) := by
  obtain ⟨front, behind, rfl, stop, covers⟩ := covers.cut
  obtain ⟨piece, others, rfl, ignored, next⟩ := covers.gap
  have start : Token.lastStop 0 earlier = front.length := by simpa using stop
  have stop : (later.head?.map Token.offset).getD (endOf (front ++ (piece ++ others)) fault) =
      front.length + piece.length := by
    simpa [endOf, Position.behind] using next
  rw [start, stop]
  constructor
  · exact Nat.le_add_right _ _
  · simp only [List.length_append]
    omega
  · have whole : front ++ (piece ++ others) = front ++ piece ++ others := by simp
    have width : front.length + piece.length - front.length = piece.length := by omega
    rw [List.take_left, List.drop_left, width, List.take_left, whole, ← List.length_append,
      List.drop_left]
    simpa using ignored

/-- A cover of a whole text accounts for it. -/
theorem Covers.accounts (covers : lx.Covers [] ⟨0, line, column⟩ text tokens fault)
    (count : tokens.length ≤ text.length) : lx.Accounts text line column tokens fault where
  filled := fun _ member => (covers.slice member).1
  slice := fun _ member => (covers.slice member).2.1
  located := fun _ member => (covers.slice member).2.2
  apart := covers.pairwise.2
  increasing := by
    refine covers.pairwise.2.imp_of_mem ?_
    intro t u member _ behind
    have filled : 0 < t.text.length := by
      rw [Nat.pos_iff_ne_zero]
      intro empty
      exact (covers.slice member).1 (String.length_eq_zero_iff.mp empty)
    simp only [Token.stop] at behind
    omega
  gaps := by
    rintro front back rfl
    exact covers.ignoredBetween
  strays := by
    rintro f rfl
    exact covers.straysAt
  count := count

end Whole

end Lexicon

namespace Lexer

/-- The tokens of a lexer that was given a text account for the text, up to the fault if
there is one. They are pieces of the text that are not empty, at increasing offsets, and
do not overlap; line and column of each are those of its offset, counted from the start
that was given with the text; and all else in front of the end or the fault is ignored
text. There are no more tokens than characters. -/
theorem tokens_account_for_text {l : Lexer} (filled : l.lexicon.Filled) (text : List Char)
    (line column : Nat) {tokens : List Token} {fault : Option LexFault} {last : Lexer}
    (taken : (l.reset text line column).tokens = (tokens, fault, last)) :
    l.lexicon.Accounts text line column tokens fault := by
  have gives := tokens_gives (l := l.reset text line column) filled rfl taken
  exact (gives.covers filled).accounts (gives.length_le filled)

/-- A lexer of `x` that passes over runs of blanks and newlines. -/
def spacedLexer : Lexer where
  lexicon := ⟨[['x']], [], [.rep .greedy 1 none
    (.one (.set [.range 32 32, .range 10 10] false .exact))]⟩

/-- From line 3 and column 5 on, the first `x` stands in column 6. The second one stands
behind a newline, on line 4 and in column 2, and the fault behind it in column 4. -/
theorem spaced_text_is_accounted_for : spacedLexer.lexicon.Filled ∧
    (spacedLexer.reset " x\n x ?".toList 3 5).tokens.1 =
      [⟨"x", "x", 3, 6, 1⟩, ⟨"x", "x", 4, 2, 4⟩] ∧
    (spacedLexer.reset " x\n x ?".toList 3 5).tokens.2.1 = some ⟨'?', ⟨6, 4, 4⟩⟩ ∧
    spacedLexer.lexicon.Accounts " x\n x ?".toList 3 5
      [⟨"x", "x", 3, 6, 1⟩, ⟨"x", "x", 4, 2, 4⟩] (some ⟨'?', ⟨6, 4, 4⟩⟩) := by
  have filled : spacedLexer.lexicon.Filled := by unfold Lexicon.Filled; decide
  have taken : (spacedLexer.reset " x\n x ?".toList 3 5).tokens =
      ([⟨"x", "x", 3, 6, 1⟩, ⟨"x", "x", 4, 2, 4⟩], some ⟨'?', ⟨6, 4, 4⟩⟩,
        (spacedLexer.reset " x\n x ?".toList 3 5).tokens.2.2) := rfl
  exact ⟨filled, rfl, rfl, tokens_account_for_text filled _ 3 5 taken⟩

end Lexer

end Predictive
