import Predictive.Proofs.MaximalMunch

/-!
# The lexer and the grammar of one rule file

The literals of a rule file and the names of its tokens are collected twice. A lexicon
gives them to tokens as kinds, and a grammar declares them as its terminals. The two
collections are one: whatever is asked of the lexer, a token that it answers is of a
declared kind, and its text is not empty.

So a parser that reads a text through the lexer only ever looks at a terminal or at the
end of input. This is carried along its loop by an invariant of the lexer and the token
that it shows, which every iteration preserves.
-/

namespace Predictive

open RuleFile (Document)

namespace RuleFile.Document

variable {d : Document} {g : Grammar} {lx : Lexicon} {source text piece : List Char}
  {kind : Symbol} {i : Nat} {t : Token}

/-- The kind of a candidate is a literal or the name of a token. -/
theorem CandidateAt.kind_mem (candidate : d.CandidateAt text i kind piece) :
    kind ∈ d.tokenNames ∨ kind ∈ d.keywords := by
  cases candidate with
  | literal written _ => exact Or.inr written
  | rule declared _ => exact Or.inl (List.mem_map_of_mem declared)

/-- A candidate is not empty if no literal is. -/
theorem CandidateAt.ne_nil (filled : ∀ k ∈ d.keywords, k ≠ "")
    (candidate : d.CandidateAt text i kind piece) : piece ≠ [] := by
  cases candidate with
  | literal written _ => simpa using filled kind written
  | rule _ applies => exact applies.1

/-- A token of a text of the document is of a terminal and not empty. -/
theorem terminal_of_takes (read : ofText source = .ok d) (meant : d.grammar? = .ok g)
    (made : Lexicon.ofDocument d = .ok lx) (takes : lx.Takes text t) :
    t.kind ∈ g.terminals ∧ t.text ≠ "" := by
  have holds := Lexicon.ofDocument_eq_ok_iff.mp made
  have candidate : d.CandidateAt text t.offset t.kind t.text.toList :=
    (holds.longestAt_of_tokenAt? (Nat.le_of_lt takes.inside) takes.taken).candidateAt
  refine ⟨(mem_terminals_iff meant).mpr candidate.kind_mem, ?_⟩
  simpa using candidate.ne_nil (keywords_filled read)

end RuleFile.Document

/-- No keyword of the lexicon of a document that has been read is empty. -/
theorem Lexicon.Holds.filled {source : List Char} {d : Document} {lx : Lexicon}
    (holds : lx.Holds d) (read : Document.ofText source = .ok d) : lx.Filled := by
  intro k member
  obtain ⟨name, written, rfl⟩ := holds.mem_keywords.mp member
  simpa using Document.keywords_filled read name written

/-- A look leaves a lexer sound, with its lexicon and its text, and shows a token of the
text. -/
theorem Lexer.Sound.peek {l after : Lexer} {look : Option Token} (sound : l.Sound)
    (shows : l.peek = (.ok look, after)) : after.Sound ∧ after.lexicon = l.lexicon ∧
      after.text = l.text ∧ ∀ t ∈ look, l.lexicon.Takes l.text t := by
  have left : l.peek.2 = after := congrArg Prod.snd shows
  have soundAfter := sound.call .peek
  have sameLexicon := l.lexicon_call .peek
  simp only [Lexer.call, left] at soundAfter sameLexicon
  refine ⟨soundAfter, sameLexicon, left ▸ l.text_peek, ?_⟩
  rintro t shown
  exact sound.answer_takes (c := .peek) (by simp [Lexer.call, shows, Option.mem_def.mp shown])

/-- A rejection of a text is one without an excerpt that was given its excerpt. -/
theorem Ending.exists_own {ε : Type} {ending : Ending ε} {text : List Char} {error : ParseError}
    (rejected : ending.withExcerpt text = .rejected error) :
    ∃ own, ending = .rejected own ∧ error = own.withExcerpt text := by
  cases ending with
  | rejected own => exact ⟨own, rfl, (Ending.rejected.inj rejected).symm⟩
  | accepted => cases rejected
  | faulted f => cases rejected
  | unfinished => cases rejected

namespace Parser

section Loop

variable {σ ε : Type} [TokenSource σ ε] {p : Parser}

/-- The loop leads from one run to another one. -/
inductive Visits (p : Parser) : Run σ → Run σ → Prop where
  | here (r : Run σ) : Visits p r r
  | next {r after s : Run σ} (goes : p.tick r = .inl after) (rest : Visits p after s) :
      Visits p r s

/-- A loop that ends does so in a run that it leads to. -/
theorem Ends.exists_last {n : Nat} {r : Run σ} {outcome : Outcome σ ε}
    (ends : p.Ends n r outcome) : ∃ s, p.Visits r s ∧ p.tick s = .inr outcome := by
  induction ends with
  | last stops => exact ⟨_, .here _, stops⟩
  | next goes _ inductionHypothesis =>
    obtain ⟨s, visits, stops⟩ := inductionHypothesis
    exact ⟨s, .next goes visits, stops⟩

/-- Where a shift goes on, the next token has been looked at behind the one taken. -/
theorem shift_eq_inl {r after : Run σ} {rest : List Symbol}
    (goes : (shift r rest : Run σ ⊕ Outcome σ ε) = .inl after) : ∃ got taken,
      TokenSource.next r.source = (.ok got, taken) ∧
      TokenSource.peek taken = (.ok after.look, after.source) := by
  unfold shift at goes
  split at goes
  · cases goes
  · rename_i got taken takes
    split at goes
    · cases goes
    · rename_i look source shows
      obtain rfl := Sum.inl.inj goes
      exact ⟨got, taken, takes, shows⟩

/-- A rejection names the token that is shown. -/
theorem found_of_rejected {r : Run σ} {outcome : Outcome σ ε} {error : ParseError}
    (stops : p.tick r = .inr outcome) (rejected : outcome.ending = .rejected error) :
    error.found = r.look := by
  rw [tick_eq_move] at stops
  split at stops
  · cases stops
  · unfold shift at stops
    split at stops
    · obtain rfl := Sum.inr.inj stops
      cases rejected
    · split at stops
      · obtain rfl := Sum.inr.inj stops
        cases rejected
      · cases stops
  · obtain rfl := Sum.inr.inj stops
    cases rejected
  · obtain rfl := Sum.inr.inj stops
    unfold reject at rejected
    split at rejected
    · obtain rfl := Ending.rejected.inj rejected
      exact rejection_found p r.look r.stack
    · cases rejected

end Loop

variable {p : Parser} {lx : Lexicon} {lexer : Lexer} {text : List Char}

/-- A run reads a text through a lexer, and the token it shows is one of the text. -/
structure Reading (lx : Lexicon) (text : List Char) (r : Run Lexer) : Prop where
  sound : r.source.Sound
  lexicon_eq : r.source.lexicon = lx
  text_eq : r.source.text = text
  look_takes : ∀ t ∈ r.look, lx.Takes text t

/-- A run begins to read at its first look. -/
theorem reading_opening {look : Option Token} {after : Lexer}
    (shows : (lexer.reset text 1 1).peek = (.ok look, after)) :
    Reading lexer.lexicon text (p.opening look after) := by
  obtain ⟨sound, sameLexicon, sameText, takes⟩ := (lexer.sound_reset text 1 1).peek shows
  exact ⟨sound, sameLexicon, sameText, takes⟩

/-- An iteration goes on reading the text. -/
theorem Reading.tick {r after : Run Lexer} (reading : Reading lx text r)
    (goes : p.tick r = .inl after) : Reading lx text after := by
  -- An expansion leaves the lexer alone; only a shift asks it for tokens, for one and a look at
  -- the one behind it.
  rw [tick_eq_move] at goes
  split at goes
  · obtain rfl := Sum.inl.inj goes
    exact ⟨reading.sound, reading.lexicon_eq, reading.text_eq, reading.look_takes⟩
  · obtain ⟨got, taken, takes, shows⟩ := shift_eq_inl goes
    have left : r.source.next.2 = taken := congrArg Prod.snd takes
    have sound := reading.sound.call .next
    have sameLexicon := (r.source.lexicon_call .next).trans reading.lexicon_eq
    have sameText := r.source.text_next.trans reading.text_eq
    simp only [Lexer.call, left] at sound sameLexicon sameText
    obtain ⟨soundAfter, lexiconAfter, textAfter, looks⟩ := sound.peek shows
    rw [sameLexicon] at lexiconAfter looks
    rw [sameText] at textAfter looks
    exact ⟨soundAfter, lexiconAfter, textAfter, looks⟩
  · cases goes
  · cases goes

/-- The whole loop goes on reading the text. -/
theorem Visits.reading {r s : Run Lexer} (visits : p.Visits r s) (reading : Reading lx text r) :
    Reading lx text s := by
  induction visits with
  | here r => exact reading
  | next goes _ inductionHypothesis => exact inductionHypothesis (reading.tick goes)

/-- The parser of a text comes to its outcome by the loop from the first look, unless that
look faults. -/
theorem run_reset_ends (p : Parser) (filled : lexer.lexicon.Filled) (text : List Char) :
    (∃ look after n, (lexer.reset text 1 1).peek = (.ok look, after) ∧
      p.Ends n (p.opening look after) (p.run (lexer.reset text 1 1))) ∨
    ∃ f, (lexer.reset text 1 1).peek.1 = .error f ∧
      (p.run (lexer.reset text 1 1)).ending = .faulted f := by
  rcases taken : (lexer.reset text 1 1).tokens with ⟨tokens, fault, last⟩
  have gives := Lexer.tokens_gives (l := lexer.reset text 1 1) filled rfl taken
  rcases Lexer.opens_or_faults filled gives with
    ⟨after, opens⟩ | ⟨f, after, _, _, broken⟩
  · obtain ⟨⟨n, ends⟩, _⟩ := run_ends (p := p) opens
    exact Or.inl ⟨_, after, n, opens.shows, ends⟩
  · refine Or.inr ⟨f, congrArg Prod.fst broken, ?_⟩
    have stopped : p.run (lexer.reset text 1 1) = ⟨.faulted f, [], 0, [p.grammar.start], after⟩ := by
      simp only [run]
      exact broken ▸ rfl
    rw [stopped]

/-- A rejection of a text names a token of the text, or none. -/
theorem takes_of_rejected (filled : lexer.lexicon.Filled) {error : ParseError} {t : Token}
    (rejected : (p.runText lexer text).ending = .rejected error) (found : error.found = some t) :
    lexer.lexicon.Takes text t := by
  obtain ⟨own, ending, rfl⟩ := Ending.exists_own rejected
  rcases p.run_reset_ends filled text with ⟨look, after, n, shows, ends⟩ | ⟨f, _, faulted⟩
  · obtain ⟨s, visits, stops⟩ := ends.exists_last
    have shown : s.look = some t := by
      rw [← found_of_rejected stops ending]
      exact found
    exact (visits.reading (reading_opening shows)).look_takes t shown
  · have impossible := faulted.symm.trans ending
    cases impossible

/-- Of a rule file that has a grammar and a lexicon, every token that the lexer answers,
whatever was asked of it before, is of a terminal of the grammar and has a text that is not
empty; its kind is no reserved name and no nonterminal. If the grammar has a parser, then in
the loop over any text the lookahead is the end of input or such a terminal, and a rejection
names no token or one of a terminal, at an offset inside the text. -/
theorem lookaheads_are_terminals {source : List Char} {d : Document} {g : Grammar}
    (read : Document.ofText source = .ok d) (meant : d.grammar? = .ok g)
    (made : Lexicon.ofDocument d = .ok lx) :
    (∀ l, Lexer.Reached lx l → ∀ c t, (l.call c).1 = some (.ok (some t)) →
      t.kind ∈ g.terminals ∧ t.kind ≠ endMarker ∧ t.kind ≠ epsilon ∧ t.kind ∉ g.nonterminals ∧
        t.text ≠ "") ∧
    ∀ p, ofGrammar? g = .ok p → ∀ lexer : Lexer, lexer.lexicon = lx → ∀ text,
      (∀ look after, (lexer.reset text 1 1).peek = (.ok look, after) →
        (∃ n, p.Ends n (p.opening look after) (p.run (lexer.reset text 1 1))) ∧
        ∀ r, p.Visits (p.opening look after) r →
          r.look = none ∧ p.lookahead r.look = some endMarker ∨
          ∃ t, r.look = some t ∧ p.lookahead r.look = some t.kind ∧ t.kind ∈ g.terminals) ∧
      ∀ error, (p.runText lexer text).ending = .rejected error →
        error.found = none ∨
        ∃ t, error.found = some t ∧ t.kind ∈ g.terminals ∧ t.offset < text.length := by
  have terminal : ∀ {text t}, lx.Takes text t → t.kind ∈ g.terminals ∧ t.text ≠ "" :=
    fun takes => Document.terminal_of_takes read meant made takes
  have filled : lx.Filled := (Lexicon.ofDocument_eq_ok_iff.mp made).filled read
  constructor
  · intro l reached c t answered
    obtain ⟨sound, rfl⟩ := reached.sound
    obtain ⟨declared, nonempty⟩ := terminal (sound.answer_takes answered)
    have plain := g.terminal_not_reserved t.kind declared
    simp only [reserved, List.mem_cons, List.not_mem_nil, or_false, not_or] at plain
    exact ⟨declared, plain.1, plain.2, g.disjoint t.kind declared, nonempty⟩
  · rintro p built lexer rfl text
    obtain rfl := grammar_of_built built
    refine ⟨?_, ?_⟩
    · intro look after shows
      constructor
      · rcases p.run_reset_ends filled text with ⟨_, _, n, again, ends⟩ | ⟨f, broken, _⟩
        · obtain ⟨same, rfl⟩ := Prod.mk.inj (shows.symm.trans again)
          obtain rfl := Except.ok.inj same
          exact ⟨n, ends⟩
        · simp [shows] at broken
      · intro r visits
        cases shown : r.look with
        | none => exact Or.inl ⟨rfl, rfl⟩
        | some t =>
          have takes := (visits.reading (reading_opening shows)).look_takes t shown
          have declared := (terminal takes).1
          exact Or.inr ⟨t, rfl, by simp [lookahead, Grammar.isTerminal, declared], declared⟩
    · intro error rejected
      cases found : error.found with
      | none => exact Or.inl rfl
      | some t =>
        have takes := takes_of_rejected filled rejected found
        exact Or.inr ⟨t, rfl, (terminal takes).1, takes.inside⟩

/-- The parser of commands. -/
def commandsParser : Parser where
  grammar := Lexer.commands
  first := Lexer.commands.first
  follow := Lexer.commands.follow
  table := Lexer.commands.table
  first_eq := rfl
  follow_eq := rfl
  table_eq := rfl
  conflicts_eq := by decide +kernel

/-- The text `if iffy` is rejected at its second word, which is a literal of the commands and
no name. -/
theorem commands_lookaheads_are_terminals : ∃ d,
    Document.ofText Lexer.commandsSource.toList = .ok d ∧ d.grammar? = .ok Lexer.commands ∧
    Lexicon.ofDocument d = .ok Lexer.commandsLexicon ∧
    ofGrammar? Lexer.commands = .ok commandsParser ∧
    ∃ error, (commandsParser.runText { lexicon := Lexer.commandsLexicon }
        "if iffy".toList).ending = .rejected error ∧
      ∃ t, error.found = some t ∧ t.kind ∈ Lexer.commands.terminals ∧ t.offset < 7 := by
  obtain ⟨d, read, made, meant⟩ := Lexer.commands_are_read
  have built : ofGrammar? Lexer.commands = .ok commandsParser :=
    ofGrammar?_of_clean commandsParser.conflicts_eq
  have rejects : ∃ error, (commandsParser.runText { lexicon := Lexer.commandsLexicon }
      "if iffy".toList).ending = .rejected error ∧
        error.found = some ⟨"iffy", "iffy", 1, 4, 3⟩ := ⟨_, rfl, rfl⟩
  obtain ⟨error, rejected, found⟩ := rejects
  obtain ⟨_, parses⟩ := lookaheads_are_terminals read meant made
  obtain ⟨_, errors⟩ := parses _ built { lexicon := Lexer.commandsLexicon } rfl "if iffy".toList
  rcases errors error rejected with nothing | named
  · simp [found] at nothing
  · exact ⟨d, read, meant, made, built, error, rejected, named⟩

end Parser

end Predictive
