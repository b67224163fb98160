import Predictive.RuleFile.Lexeme

/-!
# Cutting a text match by match

Inside a lexeme the cut only moves the position on. So a cut goes from match to match:
where the first alternative matches a piece in front of a text, the text behind the
piece is cut next, and the piece becomes a lexeme unless it only separates others.
-/

namespace Predictive.RuleFile

open Text (Position)

namespace Kind

/-- The first alternative that matches is one of the alternatives, with its own match. -/
theorem match?_of_first? {cs : List Char} {kind : Kind} {n : Nat}
    (first : first? cs = some (kind, n)) : kind ∈ alternatives ∧ kind.match? cs = some n := by
  obtain ⟨tried, listed, matched⟩ := List.exists_of_findSome?_eq_some first
  obtain ⟨length, found, same⟩ := Option.map_eq_some_iff.mp matched
  obtain ⟨rfl, rfl⟩ := Prod.mk.inj same
  exact ⟨listed, found⟩

/-- The characters with which a match of a kind begins. -/
def opens : Kind → Char → Bool
  | blank, c => c = ' ' || c = '\t' || c = Char.ofNat 12
  | newline, c => c = '\n'
  | comment, c | blockComment, c | regex, c => c = '/'
  | percent, c => c = '%'
  | colon, c => c = ':'
  | semicolon, c => c = ';'
  | bar, c => c = '|'
  | operator, c => c ∈ ['?', '*', '+', '(', ')']
  | doubleQuoted, c => c = Char.ofNat 34
  | singleQuoted, c => c = Char.ofNat 39
  | identifier, c => isNameStart c
  | finish, _ => false

theorem opens_of_run? {p : Char → Bool} {c : Char} {rest : List Char} {n : Nat}
    (matched : run? p (c :: rest) = some n) : p c = true := by
  cases passes : p c with
  | true => rfl
  | false => simp [run?, passes] at matched

theorem opens_of_one? {p : Char → Bool} {c : Char} {rest : List Char} {n : Nat}
    (matched : one? p (c :: rest) = some n) : p c = true := by
  cases passes : p c with
  | true => rfl
  | false => simp [one?, passes] at matched

theorem opens_of_quoted? {quote c : Char} {rest : List Char} {n : Nat}
    (matched : quoted? quote (c :: rest) = some n) : c = quote := by
  by_cases same : c = quote
  · exact same
  · simp [quoted?, same] at matched

theorem opens_of_identifier? {c : Char} {rest : List Char} {n : Nat}
    (matched : identifier? (c :: rest) = some n) : isNameStart c = true := by
  cases passes : isNameStart c with
  | true => rfl
  | false => simp [identifier?, passes] at matched

/-- A match begins with a character of its kind. -/
theorem opens_of_match? {kind : Kind} {c : Char} {rest : List Char} {n : Nat}
    (matched : kind.match? (c :: rest) = some n) : kind.opens c = true := by
  cases kind with
  | blank => exact opens_of_run? matched
  | newline => exact opens_of_one? (show one? _ (c :: rest) = some n from matched)
  | percent => exact opens_of_one? (show one? _ (c :: rest) = some n from matched)
  | colon => exact opens_of_one? (show one? _ (c :: rest) = some n from matched)
  | semicolon => exact opens_of_one? (show one? _ (c :: rest) = some n from matched)
  | bar => exact opens_of_one? (show one? _ (c :: rest) = some n from matched)
  | operator => exact opens_of_one? (show one? _ (c :: rest) = some n from matched)
  | doubleQuoted => simp [opens, opens_of_quoted? matched]
  | singleQuoted => simp [opens, opens_of_quoted? matched]
  | identifier => exact opens_of_identifier? matched
  | finish => simp [match?] at matched
  | comment =>
    simp only [match?, comment?] at matched
    split at matched
    · rename_i same
      simp [opens, (List.cons.inj same).1]
    · simp at matched
  | blockComment =>
    simp only [match?, blockComment?] at matched
    split at matched
    · rename_i same
      simp [opens, (List.cons.inj same).1]
    · simp at matched
  | regex =>
    simp only [match?, regex?] at matched
    split at matched
    · simp at matched
    · rename_i same
      simp [opens, (List.cons.inj same).1]
    · simp at matched

/-- Where one kind alone can begin, it is the first to match. -/
theorem first?_of_only {kind : Kind} {c : Char} {rest : List Char} {n : Nat}
    (matched : kind.match? (c :: rest) = some n)
    (only : ∀ other, other.opens c = true → other = kind) :
    first? (c :: rest) = some (kind, n) := by
  have others : ∀ other, other ≠ kind → other.match? (c :: rest) = none := by
    intro other different
    cases found : other.match? (c :: rest) with
    | none => rfl
    | some m => exact absurd (only other (opens_of_match? found)) different
  cases kind with
  | finish => simp [match?] at matched
  | _ => simp [first?, alternatives, matched, others]

/-- The end of a file is never the match of an alternative. -/
theorem ne_finish_of_first? {cs : List Char} {kind : Kind} {n : Nat}
    (first : first? cs = some (kind, n)) : kind ≠ .finish := by
  rintro rfl
  exact absurd (match?_of_first? first).1 (by decide)

end Kind

/-- Inside a lexeme nothing is cut; only the position moves on. -/
theorem scanFrom_eq_drop (skip : Nat) (p : Position) (cs : List Char) :
    scanFrom skip p cs = scanFrom 0 (p.advance (cs.take skip)) (cs.drop skip) := by
  induction cs generalizing skip p with
  | nil => cases skip <;> rfl
  | cons c rest inductionHypothesis =>
    cases skip with
    | zero => rfl
    | succ skip => exact inductionHypothesis skip (p.after c)

/-- The cut of a text with a match in front of it. -/
def Lexemes.withMatch (after : Lexemes) (kind : Kind) (piece : List Char) (p : Position) : Lexemes :=
  if kind.isGap then after
  else ⟨⟨kind, String.ofList piece, p, p.offset + piece.length⟩ :: after.list, after.finish⟩

/-- One match is cut off, and the text behind it is cut next. -/
theorem scanFrom_append {piece behind : List Char} {kind : Kind} (filled : piece ≠ [])
    (first : Kind.first? (piece ++ behind) = some (kind, piece.length)) (p : Position) :
    scanFrom 0 p (piece ++ behind) =
      (scanFrom 0 (p.advance piece) behind).map (fun after => after.withMatch kind piece p) := by
  obtain ⟨c, rest, rfl⟩ := List.exists_cons_of_ne_nil filled
  -- The cut walks over the rest of the piece before it looks for the next match.
  have next : scanFrom ((c :: rest).length - 1) (p.after c) (rest ++ behind) =
      scanFrom 0 (p.advance (c :: rest)) behind := by
    rw [scanFrom_eq_drop]
    simp
  have whole : (c :: rest ++ behind).take (c :: rest).length = c :: rest := by simp
  rw [List.cons_append] at first whole ⊢
  simp only [scanFrom, first, next, whole]
  cases scanFrom 0 (p.advance (c :: rest)) behind with
  | error stray => rfl
  | ok after =>
    simp only [Except.map, Lexemes.withMatch]
    split <;> rfl

/-- The end behind all lexemes is of its own kind, and no lexeme in front of it is. -/
theorem scanFrom_ends {skip : Nat} {p : Position} {cs : List Char} {lexemes : Lexemes}
    (cut : scanFrom skip p cs = .ok lexemes) :
    lexemes.finish.kind = .finish ∧ ∀ l ∈ lexemes.list, l.kind ≠ .finish := by
  induction cs generalizing skip p lexemes with
  | nil =>
    cases skip <;>
    · obtain rfl := Except.ok.inj cut
      exact ⟨rfl, by simp⟩
  | cons c rest inductionHypothesis =>
    cases skip with
    | succ skip => exact inductionHypothesis cut
    | zero =>
      unfold scanFrom at cut
      split at cut
      · simp at cut
      · rename_i kind length first
        split at cut
        · simp at cut
        · rename_i after behind
          have later := inductionHypothesis behind
          split at cut
          · obtain rfl := Except.ok.inj cut
            exact later
          · obtain rfl := Except.ok.inj cut
            refine ⟨later.1, ?_⟩
            intro l member
            rcases List.mem_cons.mp member with rfl | others
            · exact Kind.ne_finish_of_first? first
            · exact later.2 l others

end Predictive.RuleFile
