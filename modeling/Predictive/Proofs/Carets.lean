import Predictive.Proofs.DeclaredKinds
import Predictive.Proofs.Excerpts
import Predictive.Proofs.FaultPlaces
import Predictive.Proofs.LexemeOffsets

/-!
# Carets point at what is reported

A rejection of a text names a token with its line and column, which the lexer has counted on
its way, and so does a fault of a rule file with a lexeme. The excerpt behind the message is
found from the offset alone. Both belong to one position of the text, so the excerpt shows
the line that is named, with a caret in the column that is named. Where the text ends too
early no token is named, and the caret stands behind the last line.
-/

namespace Predictive

open RuleFile (Document Fault StrayChar scan)
open Text (Position Located Shows ShowsEnd)

namespace Parser

variable {p : Parser}

theorem rejection_excerpt (p : Parser) (found : Option Token) (stack : List Symbol) :
    (p.rejection found stack).excerpt = none := by
  unfold rejection
  split
  · rfl
  · split <;> rfl

/-- A parser rejects without an excerpt, at one of the tokens that its source gives or behind
all of them. -/
theorem own_rejection {σ ε : Type} [TokenSource σ ε] {source after : σ} {tokens : List Token}
    {fault : Option ε} {own : ParseError} (opens : Opens source tokens fault after)
    (rejected : (p.run source).ending = .rejected own) :
    own.excerpt = none ∧ ∀ t, own.found = some t → t ∈ tokens := by
  obtain ⟨final, before, behind, split, tracks, effect⟩ := run_last_state (p := p) opens
  generalize p.run source = outcome at effect rejected
  cases effect with
  | accept top => cases rejected
  | broken _ _ _ => cases rejected
  | reject stuck =>
    obtain rfl := Ending.rejected.inj rejected
    refine ⟨p.rejection_excerpt final.look final.stack, ?_⟩
    intro t found
    have shown : behind.head? = some t := by
      rw [← tracks.shows, ← p.rejection_found final.look final.stack]
      exact found
    rw [split]
    exact List.mem_append_right before (List.mem_of_head? shown)

variable {lexer : Lexer} {text : List Char}

/-- A rejection of a text is the parser's own one with an excerpt, and a token that it names
stands at its position in the text. -/
theorem rejection_of_text (filled : lexer.lexicon.Filled) {error : ParseError}
    (rejected : (p.runText lexer text).ending = .rejected error) : ∃ own,
      (p.run (lexer.reset text 1 1)).ending = .rejected own ∧ own.excerpt = none ∧
      error = own.withExcerpt text ∧ ∀ t, own.found = some t →
        Located text 1 1 t.position ∧ t.offset ≤ text.length := by
  obtain ⟨own, ending, rfl⟩ := Ending.exists_own rejected
  rcases taken : (lexer.reset text 1 1).tokens with ⟨tokens, fault, last⟩
  have gives := Lexer.tokens_gives (l := lexer.reset text 1 1) filled rfl taken
  have begins : (∃ after, Opens (lexer.reset text 1 1) tokens fault after) ∨ ∃ f after,
      tokens = [] ∧ fault = some f ∧ TokenSource.peek (lexer.reset text 1 1) = (.error f, after) :=
    Lexer.opens_or_faults filled gives
  rcases begins with ⟨after, opens⟩ | ⟨f, after, _, _, broken⟩
  · obtain ⟨plain, named⟩ := own_rejection opens ending
    refine ⟨own, ending, plain, rfl, ?_⟩
    intro t found
    have accounts := (gives.covers filled).accounts (gives.length_le filled)
    have inside := (takes_of_rejected filled rejected found).inside
    exact ⟨accounts.located t (named t found), Nat.le_of_lt inside⟩
  · simp [run, broken] at ending

end Parser

/-- The place that a fault of a rule file names is a position of the file. -/
theorem RuleFile.located_of_fault {source : List Char} {fault : Fault} {place : Position}
    (faults : Document.ofText source = .error fault) (placed : fault.place? = some place) :
    Located source 1 1 place ∧ place.offset ≤ source.length := by
  unfold Document.ofText at faults
  split at faults
  · rename_i stray cut
    obtain rfl := Except.error.inj faults
    obtain rfl := Option.some.inj placed
    have stops := stopsIn_of_scan cut
    obtain ⟨inside, _⟩ := List.getElem?_eq_some_iff.mp stops.char_eq
    exact ⟨stops.located, Nat.le_of_lt inside⟩
  · rename_i lexemes cut
    obtain ⟨account, finish⟩ := accountFor_of_scan cut
    have each : ∀ l ∈ lexemes.list,
        Located source 1 1 l.start ∧ l.start.offset ≤ source.length := by
      intro l member
      have stands := account.stand l member
      exact ⟨stands.located, Nat.le_trans (Nat.le_of_lt stands.filled) stands.within⟩
    have last := And.intro finish.located (Nat.le_of_eq finish.start_eq)
    have about := Document.about_of_ofLexemes each last faults
    obtain ⟨l, good, rfl⟩ := about.exists_lexeme placed
    exact good

/-- A rejection of a text has the parser's own message with two lines behind it: the line of
the token found with a caret in its column, or the last line with a caret behind it when none
was found. A fault of a rule file whose message names a place has the line of the place behind
the message, with a caret in its column. -/
theorem carets_point_at_what_is_reported :
    (∀ (p : Parser) (lexer : Lexer) (text : List Char) (error : ParseError),
      lexer.lexicon.Filled → (p.runText lexer text).ending = .rejected error →
      ∃ own shown, (p.run (lexer.reset text 1 1)).ending = .rejected own ∧
        own.found = error.found ∧ error.message = own.message ++ "\n" ++ shown ∧
        match error.found with
        | some t => Shows text t.line t.column shown
        | none => ShowsEnd text shown) ∧
    (∀ (source : List Char) (fault : Fault) (place : Position),
      (Document.ofText source = .error fault ∨
        ∃ stray, scan source = .error stray ∧ fault = .strayChar stray) →
      fault.place? = some place →
      (∃ front back, fault.headline =
        front ++ " at " ++ toString place.line ++ ":" ++ toString place.column ++ back) ∧
      ∃ shown, fault.message source = fault.headline ++ "\n" ++ shown ∧
        Shows source place.line place.column shown) := by
  constructor
  · intro p lexer text error filled rejected
    obtain ⟨own, ending, plain, rfl, located⟩ := Parser.rejection_of_text filled rejected
    refine ⟨own, Text.excerpt text (own.place text), ending, rfl, ?_, ?_⟩
    · have words : own.message = own.headline := by
        rw [ParseError.message, plain]
      rw [words]
      rfl
    · dsimp only [ParseError.withExcerpt, ParseError.place]
      cases found : own.found with
      | none => exact Text.showsEnd text
      | some t =>
        obtain ⟨stands, inside⟩ := located t found
        exact stands.shows inside
  · intro source fault place faults placed
    -- Cutting a file faults exactly where reading it does.
    have read : Document.ofText source = .error fault := by
      rcases faults with read | ⟨stray, cut, rfl⟩
      · exact read
      · rw [Document.ofText, cut]
    obtain ⟨located, inside⟩ := RuleFile.located_of_fault read placed
    obtain ⟨front, back, words⟩ := Fault.headline_of_place? placed
    refine ⟨⟨front, back, ?_⟩, Text.excerpt source place.offset, ?_, located.shows inside⟩
    · rw [words, Position.shown]
      simp only [String.append_assoc]
    · rw [Fault.message, Fault.anchor?_of_place? placed]

/-- A lexer of sums that passes over blanks and newlines. -/
def linesLexer : Lexer where
  lexicon := ⟨[['x'], ['+']], [], [.rep .greedy 1 none
    (.one (.set [.range 32 32, .range 10 10] false .exact))]⟩

/-- The second sign of the first sum is one too many, the second sum lacks a term, and the file
lacks a regular expression: each on its second line, behind one character. -/
theorem carets_stand_on_second_lines : linesLexer.lexicon.Filled ∧
    (∃ own error, (Parser.sumsParser.run (linesLexer.reset "x+\n +".toList 1 1)).ending =
        .rejected own ∧
      (Parser.sumsParser.runText linesLexer "x+\n +".toList).ending = .rejected error ∧
      error.message = own.message ++ "\n" ++ " +\n ^") ∧
    (∃ own error, (Parser.sumsParser.run (linesLexer.reset "x\n+".toList 1 1)).ending =
        .rejected own ∧
      (Parser.sumsParser.runText linesLexer "x\n+".toList).ending = .rejected error ∧
      error.message = own.message ++ "\n" ++ "+\n ^") ∧
    ∃ fault, Document.ofText "%token A\n ;".toList = .error fault ∧
      fault.message "%token A\n ;".toList =
        "Expected REGEX, got SEMI at 2:2" ++ "\n" ++ " ;\n ^" := by
  have filled : linesLexer.lexicon.Filled := by unfold Lexicon.Filled; decide
  obtain ⟨texts, files⟩ := carets_point_at_what_is_reported
  refine ⟨filled, ?_, ?_, ?_⟩
  · have rejected : (Parser.sumsParser.runText linesLexer "x+\n +".toList).ending =
        .rejected ⟨some ⟨"+", "+", 2, 2, 4⟩, .mismatch "x", some " +\n ^"⟩ := rfl
    obtain ⟨own, _, ending, _, words, _, _, cs, line, rfl⟩ := texts _ _ _ _ filled rejected
    have second : ("x+\n +".toList.splitOn '\n')[1]? = some [' ', '+'] := rfl
    obtain rfl := Option.some.inj (line.symm.trans second)
    exact ⟨own, _, ending, rejected, words⟩
  · have rejected : (Parser.sumsParser.runText linesLexer "x\n+".toList).ending =
        .rejected ⟨none, .mismatch "x", some "+\n ^"⟩ := rfl
    obtain ⟨own, _, ending, _, words, cs, line, rfl⟩ := texts _ _ _ _ filled rejected
    have last : ("x\n+".toList.splitOn '\n').getLast? = some ['+'] := rfl
    obtain rfl := Option.some.inj (line.symm.trans last)
    exact ⟨own, _, ending, rejected, words⟩
  · have faults : Document.ofText "%token A\n ;".toList =
        .error (.expected .regex ⟨.semicolon, ";", ⟨10, 2, 2⟩, 11⟩) := by cbv
    obtain ⟨_, _, words, _, _, cs, line, rfl⟩ := files _ _ _ (Or.inl faults) rfl
    have second : ("%token A\n ;".toList.splitOn '\n')[1]? = some [' ', ';'] := rfl
    obtain rfl := Option.some.inj (line.symm.trans second)
    exact ⟨_, faults, words⟩

end Predictive
