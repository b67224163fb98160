import Mathlib.Computability.Language
import Mathlib.Data.List.TakeWhile
import Mathlib.Order.CompletePartialOrder
import Predictive.Proofs.WrittenLiterals

/-!
# Written lines as lexemes

A written line is a list of words with one space between each two and a newline behind
the last. What a word is cut into does not depend on the line around it: a word gives
lexemes of a language in front of any text that begins with a space or a newline. Words
in a row give the product of their languages, and so do lines.
-/

namespace Predictive.RuleFile

open Text (Position literal)
open Grammar (writtenLine)

variable {L M : Language Lexeme}

/-- A text is cut into lexemes of a language, wherever it stands. -/
def ScansInto (text : List Char) (L : Language Lexeme) : Prop :=
  ∀ p, ∃ lexemes, scanFrom 0 p text = .ok lexemes ∧ lexemes.list ∈ L

/-- One lexeme of a kind and a text. -/
def lexemeOf (kind : Kind) (text : List Char) : Language Lexeme :=
  fun lexemes => ∃ l : Lexeme, l.kind = kind ∧ l.text = String.ofList text ∧ lexemes = [l]

theorem scansInto_nil : ScansInto [] 1 := fun _ => ⟨_, rfl, rfl⟩

theorem ScansInto.mono {text : List Char} (scans : ScansInto text L) (within : L ≤ M) :
    ScansInto text M := by
  intro p
  obtain ⟨lexemes, cut, member⟩ := scans p
  exact ⟨lexemes, cut, within member⟩

section Piece

variable {piece behind : List Char} {kind : Kind} (filled : piece ≠ [])
  (first : Kind.first? (piece ++ behind) = some (kind, piece.length))

include filled first

/-- A match that only separates leaves the lexemes behind it as they are. -/
theorem ScansInto.gap (separates : kind.isGap = true) (scans : ScansInto behind L) :
    ScansInto (piece ++ behind) L := by
  intro p
  obtain ⟨lexemes, cut, member⟩ := scans (p.advance piece)
  refine ⟨lexemes, ?_, member⟩
  rw [scanFrom_append filled first, cut]
  simp [Except.map, Lexemes.withMatch, separates]

/-- Any other match is a lexeme in front of those behind it. -/
theorem ScansInto.lexeme (stands : kind.isGap = false) (scans : ScansInto behind L) :
    ScansInto (piece ++ behind) (lexemeOf kind piece * L) := by
  intro p
  obtain ⟨lexemes, cut, member⟩ := scans (p.advance piece)
  refine ⟨lexemes.withMatch kind piece p, ?_, ?_⟩
  · rw [scanFrom_append filled first, cut]
    rfl
  · simp only [Lexemes.withMatch, stands, Bool.false_eq_true, if_false]
    exact ⟨[_], ⟨_, rfl, rfl, rfl⟩, lexemes.list, member, rfl⟩

end Piece

/-- The text does not begin with a blank, and it is not empty. -/
def Upright (text : List Char) : Prop := ∃ c rest, text = c :: rest ∧ Kind.blank.opens c = false

/-- The text begins with a space or a newline. -/
def Parted (text : List Char) : Prop := ∃ c rest, text = c :: rest ∧ (c = ' ' ∨ c = '\n')

/-- A space in front of a text without a blank at its front only separates. -/
theorem ScansInto.space {text : List Char} (upright : Upright text) (scans : ScansInto text L) :
    ScansInto (' ' :: text) L := by
  obtain ⟨c, rest, rfl, plain⟩ := upright
  have matched : Kind.blank.match? (' ' :: c :: rest) = some 1 := by
    have stops : ¬ (c = ' ' || c = '\t' || c = Char.ofNat 12) = true := by
      rw [Bool.not_eq_true]
      exact plain
    simp only [Kind.match?, run?, List.takeWhile_cons, stops]
    rfl
  have first : Kind.first? ([' '] ++ c :: rest) = some (.blank, [' '].length) := by
    refine Kind.first?_of_only matched ?_
    intro other
    cases other <;> decide
  exact scans.gap (List.cons_ne_nil _ _) first rfl

/-- A newline in front of a text only separates. -/
theorem ScansInto.newline {text : List Char} (scans : ScansInto text L) :
    ScansInto ('\n' :: text) L := by
  have matched : Kind.newline.match? ('\n' :: text) = some 1 := rfl
  have first : Kind.first? (['\n'] ++ text) = some (.newline, ['\n'].length) := by
    refine Kind.first?_of_only matched ?_
    intro other
    cases other <;> decide
  exact scans.gap (List.cons_ne_nil _ _) first rfl

/-- A word gives lexemes of a language in front of a space or a newline. -/
structure WordOf (L : Language Lexeme) (word : List Char) : Prop where
  upright : Upright word
  scans : ∀ {behind : List Char} {M : Language Lexeme}, Parted behind → ScansInto behind M →
    ScansInto (word ++ behind) (L * M)

/-- The words of a line give lexemes of a language in front of any text. -/
structure LineOf (L : Language Lexeme) (words : List (List Char)) : Prop where
  upright : Upright (writtenLine words)
  scans : ∀ {behind : List Char} {M : Language Lexeme}, ScansInto behind M →
    ScansInto (writtenLine words ++ behind) (L * M)

/-- A line without words is a newline. -/
theorem lineOf_nil : LineOf 1 [] where
  upright := ⟨'\n', [], rfl, rfl⟩
  scans := by
    intro behind M scans
    rw [one_mul]
    exact scans.newline

/-- A word in front of the words of a line. -/
theorem WordOf.line {word : List Char} {words : List (List Char)} (first : WordOf L word)
    (others : LineOf M words) : LineOf (L * M) (word :: words) where
  upright := by
    obtain ⟨c, rest, rfl, plain⟩ := first.upright
    cases words with
    | nil => exact ⟨c, _, rfl, plain⟩
    | cons next later => exact ⟨c, _, rfl, plain⟩
  scans := by
    intro behind N scans
    have tail := others.scans scans
    rw [mul_assoc]
    -- The last word meets the newline, and any other one a space, which the next word
    -- does not prolong.
    cases words with
    | nil =>
      rw [writtenLine, List.append_assoc]
      exact first.scans ⟨'\n', behind, rfl, Or.inr rfl⟩ tail
    | cons next later =>
      rw [writtenLine, List.append_assoc, List.cons_append]
      refine first.scans ⟨' ', _, rfl, Or.inl rfl⟩ (tail.space ?_)
      obtain ⟨c, rest, same, plain⟩ := others.upright
      exact ⟨c, rest ++ behind, by rw [same, List.cons_append], plain⟩

theorem LineOf.mono {words : List (List Char)} (line : LineOf L words) (within : L ≤ M) :
    LineOf M words where
  upright := line.upright
  scans := fun scans => (line.scans scans).mono (mul_le_mul_left within _)

/-- Words that stand in a line, with the language that they give there. -/
def PhraseOf (L : Language Lexeme) (words : List (List Char)) : Prop :=
  ∀ (rest : List (List Char)) (M : Language Lexeme), LineOf M rest → LineOf (L * M) (words ++ rest)

section Phrase

variable {words others : List (List Char)}

theorem phraseOf_nil : PhraseOf 1 [] := by
  intro rest M line
  rw [one_mul]
  exact line

theorem WordOf.phrase {word : List Char} (only : WordOf L word) : PhraseOf L [word] :=
  fun _ _ line => only.line line

theorem PhraseOf.append (first : PhraseOf L words) (second : PhraseOf M others) :
    PhraseOf (L * M) (words ++ others) := by
  intro rest N line
  rw [mul_assoc, List.append_assoc]
  exact first _ _ (second rest N line)

theorem PhraseOf.mono (phrase : PhraseOf L words) (within : L ≤ M) : PhraseOf M words :=
  fun rest N line => (phrase rest N line).mono (mul_le_mul_left within N)

/-- A phrase is a line of its own. -/
theorem PhraseOf.line (phrase : PhraseOf L words) : LineOf L words := by
  have line := phrase [] 1 lineOf_nil
  rwa [mul_one, List.append_nil] at line

end Phrase

/-! The words of a written grammar: names, literals, marks, and keywords behind a
percent sign. -/

/-- The characters with which a lexeme of another kind than a name begins. -/
def marks : List Char :=
  [' ', '\t', Char.ofNat 12, '\n', '/', '%', ':', ';', '|', '?', '*', '+', '(', ')', Char.ofNat 34,
    Char.ofNat 39]

theorem mem_marks_of_opens {kind : Kind} {c : Char} (opens : kind.opens c = true)
    (other : kind ≠ .identifier) : c ∈ marks := by
  cases kind with
  | identifier => exact absurd rfl other
  | finish => exact absurd opens Bool.false_ne_true
  | _ =>
    simp only [Kind.opens, Bool.or_eq_true, decide_eq_true_eq, List.mem_cons, List.not_mem_nil,
      or_false] at opens
    simp only [marks, List.mem_cons]
    tauto

/-- Nothing else than a name begins with a character that may begin a name. -/
theorem only_of_isNameStart {c : Char} (starts : isNameStart c = true) (kind : Kind)
    (opens : kind.opens c = true) : kind = .identifier := by
  have plain : marks.all (fun mark => !isNameStart mark) = true := by decide
  by_contra other
  have stops := List.all_eq_true.mp plain c (mem_marks_of_opens opens other)
  simp [starts] at stops

/-- A name stands for itself. -/
theorem wordOf_name {name : List Char} (named : identifier? name = some name.length) :
    WordOf (lexemeOf .identifier name) name := by
  cases name with
  | nil => simp [identifier?] at named
  | cons c rest =>
    have starts : isNameStart c = true := Kind.opens_of_identifier? named
    have whole : rest.takeWhile isNameContinue = rest := by
      simp only [identifier?, starts, if_true, Option.some.injEq, List.length_cons] at named
      exact (List.takeWhile_sublist _).eq_of_length (by omega)
    have continues : ∀ d ∈ rest, isNameContinue d = true := List.takeWhile_eq_self_iff.mp whole
    refine ⟨⟨c, rest, rfl, ?_⟩, ?_⟩
    · cases blank : Kind.blank.opens c with
      | false => rfl
      | true => exact absurd (only_of_isNameStart starts .blank blank) (by decide)
    · rintro behind M ⟨d, later, rfl, parts⟩ scans
      have stops : ¬ isNameContinue d = true := by rcases parts with rfl | rfl <;> decide
      have run : (rest ++ d :: later).takeWhile isNameContinue = rest := by
        rw [List.takeWhile_append_of_pos continues, List.takeWhile_cons_of_neg stops,
          List.append_nil]
      have matched : Kind.identifier.match? (c :: (rest ++ d :: later)) =
          some (c :: rest).length := by
        rw [Kind.match?, identifier?, if_pos starts, run, List.length_cons, Nat.add_comm]
      exact scans.lexeme (List.cons_ne_nil _ _)
        (Kind.first?_of_only matched (only_of_isNameStart starts)) rfl

/-- A written literal is one word, whatever it holds. -/
theorem wordOf_literal (cs : List Char) : WordOf (lexemeOf .doubleQuoted (literal cs)) (literal cs) where
  upright := ⟨Text.doubleQuote, _, rfl, rfl⟩
  scans := fun _ scans => scans.lexeme (List.cons_ne_nil _ _) (first?_literal cs _) rfl

section Mark

variable {kind : Kind} {c : Char}

/-- A mark of one character is a lexeme in front of any text. -/
theorem ScansInto.mark {text : List Char} (matched : ∀ rest, kind.match? (c :: rest) = some 1)
    (only : ∀ other : Kind, other.opens c = true → other = kind) (stands : kind.isGap = false)
    (scans : ScansInto text L) : ScansInto (c :: text) (lexemeOf kind [c] * L) :=
  scans.lexeme (List.cons_ne_nil c []) (Kind.first?_of_only (matched text) only) stands

theorem wordOf_mark (matched : ∀ rest, kind.match? (c :: rest) = some 1)
    (only : ∀ other : Kind, other.opens c = true → other = kind) (stands : kind.isGap = false) :
    WordOf (lexemeOf kind [c]) [c] where
  upright := by
    refine ⟨c, [], rfl, ?_⟩
    cases blank : Kind.blank.opens c with
    | false => rfl
    | true => simp [← only .blank blank, Kind.isGap] at stands
  scans := fun _ scans => scans.mark matched only stands

end Mark

theorem wordOf_colon : WordOf (lexemeOf .colon [':']) [':'] :=
  wordOf_mark (fun _ => rfl) (fun other => by cases other <;> decide) rfl

theorem wordOf_semicolon : WordOf (lexemeOf .semicolon [';']) [';'] :=
  wordOf_mark (fun _ => rfl) (fun other => by cases other <;> decide) rfl

theorem wordOf_bar : WordOf (lexemeOf .bar ['|']) ['|'] :=
  wordOf_mark (fun _ => rfl) (fun other => by cases other <;> decide) rfl

/-- A keyword behind a percent sign is one word, and two lexemes. -/
theorem wordOf_keyword {keyword : List Char} (named : identifier? keyword = some keyword.length) :
    WordOf (lexemeOf .percent ['%'] * lexemeOf .identifier keyword) ('%' :: keyword) where
  upright := ⟨'%', keyword, rfl, rfl⟩
  scans := by
    intro behind M parted scans
    rw [mul_assoc]
    exact ((wordOf_name named).scans parted scans).mark (fun _ => rfl)
      (fun other => by cases other <;> decide) rfl

end Predictive.RuleFile
