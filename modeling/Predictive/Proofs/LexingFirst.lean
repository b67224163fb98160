import Predictive.Parser.Text
import Predictive.Proofs.LexerTokens
import Predictive.Proofs.EarlyRejection

/-!
# Parsing while lexing

A text is parsed while the lexer reads it, one token at a time. The other way is to
read all tokens first and to parse the list of them. What the loop of the parser does
next depends on the stack and on the token shown alone, so the two runs go in step for
as long as both sources show the same token. They part only where the lexer faults
behind its last token: the one run stops there, and the other one goes on at the end
of its list, where it either accepts or rejects the end of input.
-/

namespace Predictive

namespace Lexer

variable {lx : Lexicon} {text : List Char} {p : TextPlace} {tokens : List Token}
  {fault : Option LexFault}

theorem hears (l : Lexer) : Hears l := fun _ _ => ⟨l, rfl⟩

/-- A lexer that keeps a token gives it, and then the tokens behind its place. -/
theorem feeds_ahead (gives : lx.Gives p tokens fault) (t : Token) :
    Feeds (⟨lx, text, p, some t⟩ : Lexer) (t :: tokens) fault := by
  induction gives generalizing t with
  | @ended p q reads =>
    have shows : TokenSource.peek (⟨lx, text, p, none⟩ : Lexer) =
        (.ok none, (⟨lx, text, q, none⟩ : Lexer)) := by
      simp [TokenSource.peek, peek, read_eq, reads]
    exact .token (hears _) rfl shows (.finished (hears _))
  | @faulted p q f reads =>
    have shows : TokenSource.peek (⟨lx, text, p, none⟩ : Lexer) =
        (.error f, (⟨lx, text, q, none⟩ : Lexer)) := by
      simp [TokenSource.peek, peek, read_eq, reads]
    exact .broken (hears _) rfl shows
  | @token p q u others _ reads _ inductionHypothesis =>
    have shows : TokenSource.peek (⟨lx, text, p, none⟩ : Lexer) =
        (.ok (some u), (⟨lx, text, q, some u⟩ : Lexer)) := by
      simp [TokenSource.peek, peek, read_eq, reads]
    exact .token (hears _) rfl shows (inductionHypothesis u)

/-- The first look at a fresh lexer faults, or shows the first of the tokens that its
lexicon gives. -/
theorem opens_or_faults (filled : lx.Filled) (gives : lx.Gives p tokens fault) :
    (∃ after, Opens (⟨lx, text, p, none⟩ : Lexer) tokens fault after) ∨
      ∃ f after, tokens = [] ∧ fault = some f ∧
        TokenSource.peek (⟨lx, text, p, none⟩ : Lexer) = (.error f, after) := by
  have counted : tokens.length ≤ TokenSource.remaining (⟨lx, text, p, none⟩ : Lexer) :=
    gives.length_le filled
  cases gives with
  | @ended _ q reads =>
    refine Or.inl ⟨⟨lx, text, q, none⟩, ?_, .finished (hears _), counted⟩
    simp [TokenSource.peek, peek, read_eq, reads]
  | @faulted _ q f reads =>
    refine Or.inr ⟨f, ⟨lx, text, q, none⟩, rfl, rfl, ?_⟩
    simp [TokenSource.peek, peek, read_eq, reads]
  | @token _ q t others _ reads behind =>
    refine Or.inl ⟨⟨lx, text, q, some t⟩, ?_, feeds_ahead behind t, counted⟩
    simp [TokenSource.peek, peek, read_eq, reads]

end Lexer

/-- A source that faults behind its tokens shows at least one of them. -/
theorem Feeds.ne_nil {σ ε : Type} [TokenSource σ ε] {source : σ} {left : List Token} {f : ε}
    (feeds : Feeds source left (some f)) : left ≠ [] := by
  cases feeds <;> simp

namespace Parser

variable {σ τ ε δ : Type} [TokenSource σ ε] [TokenSource τ δ] {p : Parser}

/-- What the loop does next. -/
inductive Move where
  | expand (q : Production) (rest : List Symbol)
  | take (rest : List Symbol)
  | accept
  | reject

/-- The next move of the loop, for the token shown and the stack. -/
def move (p : Parser) (look : Option Token) : List Symbol → Move
  | [] => if look.isNone then .accept else .reject
  | x :: rest =>
    if p.grammar.isTerminal x then
      if p.lookahead look = some x then .take rest else .reject
    else
      match p.cell? x (p.lookahead look) with
      | some q => .expand q rest
      | none => .reject

/-- An iteration carries out the next move. -/
theorem tick_eq_move (p : Parser) (r : Run σ) : p.tick r =
    match p.move r.look r.stack with
    | .expand q rest => .inl { r with stack := q.body ++ rest, applied := r.applied ++ [q] }
    | .take rest => shift r rest
    | .accept => .inr (r.finish .accepted)
    | .reject => .inr (p.reject r) := by
  unfold tick move
  cases r.stack with
  | nil =>
    dsimp only
    split <;> rfl
  | cons x rest =>
    dsimp only
    split
    · split <;> rfl
    · cases p.cell? x (p.lookahead r.look) <;> rfl

/-- The loop takes a token only where it is shown and its kind is on top of the stack. -/
theorem top_of_take {look : Option Token} {stack rest : List Symbol}
    (takes : p.move look stack = .take rest) :
    ∃ t, look = some t ∧ stack = t.kind :: rest ∧ t.kind ∈ p.grammar.terminals := by
  unfold move at takes
  split at takes
  · split at takes <;> cases takes
  · split at takes
    · rename_i terminal
      split at takes
      · rename_i same
        obtain ⟨t, rfl, rfl⟩ := lookahead_eq_some (of_decide_eq_true terminal) same
        obtain rfl := Move.take.inj takes
        exact ⟨t, rfl, rfl, of_decide_eq_true terminal⟩
      · cases takes
    · split at takes <;> cases takes

/-- The loop accepts only where no token is shown. -/
theorem look_of_accept {look : Option Token} {stack : List Symbol}
    (accepts : p.move look stack = .accept) : look = none := by
  unfold move at accepts
  split at accepts
  · split at accepts
    · rename_i ended
      exact Option.isNone_iff_eq_none.mp ended
    · cases accepts
  · split at accepts
    · split at accepts <;> cases accepts
    · split at accepts <;> cases accepts

/-- Where the loop goes on, the outcome is the one behind. -/
theorem Ends.of_goes {n : Nat} {r after : Run σ} {outcome : Outcome σ ε}
    (ends : p.Ends n r outcome) (goes : p.tick r = .inl after) : ∃ m, p.Ends m after outcome := by
  cases ends with
  | last stops => simp [goes] at stops
  | next other rest =>
    obtain rfl := Sum.inl.inj (goes.symm.trans other)
    exact ⟨_, rest⟩

/-- Where the loop stops, the outcome is the one met there. -/
theorem Ends.of_stops {n : Nat} {r : Run σ} {met outcome : Outcome σ ε}
    (ends : p.Ends n r outcome) (stops : p.tick r = .inr met) : outcome = met := by
  cases ends with
  | last other => exact Sum.inr.inj (other.symm.trans stops)
  | next goes _ => simp [stops] at goes

/-- Taking the token shown leads to the next token, or to the fault behind the last
one. -/
theorem shift_of_feeds {r : Run σ} {left : List Token} {fault : Option ε}
    (feeds : Feeds r.source left fault) (shown : left ≠ []) (rest : List Symbol) :
    (∃ t others after, left = t :: others ∧ Feeds after others fault ∧
      shift r rest = (.inl ⟨rest, others.head?, after, r.applied, r.consumed + 1⟩ :
        Run σ ⊕ Outcome σ ε)) ∨
    ∃ t f after, left = [t] ∧ fault = some f ∧
      shift r rest = .inr ⟨.faulted f, r.applied, r.consumed + 1, rest, after⟩ := by
  cases feeds with
  | finished => exact absurd rfl shown
  | @token _ _ after t _ others _ _ takes shows behind =>
    refine Or.inl ⟨t, others, after, rfl, behind, ?_⟩
    simp [shift, takes, shows]
  | @broken _ _ after t _ f _ takes shows =>
    refine Or.inr ⟨t, f, after, rfl, rfl, ?_⟩
    simp [shift, takes, shows, Run.finish]

/-- At the end of its tokens the loop takes no more of them, and it accepts or rejects
the end of input. -/
theorem Ends.at_end {n : Nat} {r : Run σ} {outcome : Outcome σ ε} (ends : p.Ends n r outcome)
    (feeds : Feeds r.source [] (none : Option ε)) (ended : r.look = none) :
    r.applied <+: outcome.applied ∧ outcome.consumed = r.consumed ∧
      (outcome.ending = .accepted ∨
        ∃ error, outcome.ending = .rejected error ∧ error.found = none) := by
  induction ends with
  | @last r outcome stops =>
    have effect := p.tick_effect feeds ended
    rw [stops] at effect
    cases effect with
    | accept _ => exact ⟨List.prefix_rfl, rfl, Or.inl rfl⟩
    | reject _ =>
      exact ⟨List.prefix_rfl, rfl, Or.inr ⟨_, rfl, (rejection_found p r.look r.stack).trans ended⟩⟩
  | @next _ r after outcome goes _ inductionHypothesis =>
    have effect := p.tick_effect feeds ended
    rw [goes] at effect
    cases effect with
    | expand _ _ =>
      obtain ⟨later, counted, verdict⟩ := inductionHypothesis feeds ended
      exact ⟨(List.prefix_append _ _).trans later, counted, verdict⟩

/-- Two runs stand at the same point; their sources may differ. -/
structure Alike (r : Run σ) (s : Run τ) : Prop where
  stack : r.stack = s.stack
  look : r.look = s.look
  applied : r.applied = s.applied
  consumed : r.consumed = s.consumed

/-- How the outcome on a source that may fault behind its tokens compares with the
outcome on the tokens alone. -/
inductive Agrees (fault : Option ε) (outcome : Outcome σ ε) (other : Outcome τ δ) : Prop where
  | accepted (clean : fault = none) (ending : outcome.ending = .accepted)
      (otherEnding : other.ending = .accepted) (applied : outcome.applied = other.applied)
      (consumed : outcome.consumed = other.consumed)
  | rejected {error : ParseError} (found : fault = none ∨ error.found.isSome = true)
      (ending : outcome.ending = .rejected error) (otherEnding : other.ending = .rejected error)
      (applied : outcome.applied = other.applied) (consumed : outcome.consumed = other.consumed)
  | faulted {f : ε} (faults : fault = some f) (ending : outcome.ending = .faulted f)
      (otherEnding : other.ending = .accepted ∨
        ∃ error, other.ending = .rejected error ∧ error.found = none)
      (applied : outcome.applied <+: other.applied) (consumed : outcome.consumed = other.consumed)

/-- What one iteration does to two runs that stand at the same point: both go on to
the same point, both stop and agree, or the one stops at the fault of its source while
the other one goes on at the end of its tokens. -/
inductive InStep (p : Parser) (fault : Option ε) (r : Run σ) (s : Run τ) : Prop where
  | on {after : Run σ} {otherAfter : Run τ} {left : List Token} (goes : p.tick r = .inl after)
      (otherGoes : p.tick s = .inl otherAfter) (alike : Alike after otherAfter)
      (feeds : Feeds after.source left fault)
      (otherFeeds : Feeds otherAfter.source left (none : Option δ))
      (shows : after.look = left.head?)
  | stop {outcome : Outcome σ ε} {other : Outcome τ δ} (stops : p.tick r = .inr outcome)
      (otherStops : p.tick s = .inr other) (agrees : Agrees fault outcome other)
  | part {f : ε} {outcome : Outcome σ ε} {otherAfter : Run τ} (stops : p.tick r = .inr outcome)
      (faults : fault = some f) (ending : outcome.ending = .faulted f)
      (otherGoes : p.tick s = .inl otherAfter)
      (otherFeeds : Feeds otherAfter.source [] (none : Option δ)) (ended : otherAfter.look = none)
      (applied : outcome.applied = otherAfter.applied)
      (consumed : outcome.consumed = otherAfter.consumed)

/-- Two runs at the same point, over sources of the same tokens, go in step. -/
theorem Alike.inStep {r : Run σ} {s : Run τ} {left : List Token} {fault : Option ε}
    (alike : Alike r s) (feeds : Feeds r.source left fault)
    (otherFeeds : Feeds s.source left (none : Option δ)) (shows : r.look = left.head?) :
    InStep p fault r s := by
  have tick := p.tick_eq_move r
  have otherTick := p.tick_eq_move s
  have sameMove : p.move s.look s.stack = p.move r.look r.stack := by
    rw [alike.look, alike.stack]
  rw [sameMove] at otherTick
  cases moves : p.move r.look r.stack with
  | expand q rest =>
    rw [moves] at tick otherTick
    refine .on tick otherTick ?_ feeds otherFeeds shows
    exact ⟨rfl, alike.look, congrArg (· ++ [q]) alike.applied, alike.consumed⟩
  | take rest =>
    rw [moves] at tick otherTick
    have shown : left ≠ [] := by
      obtain ⟨_, seen, _⟩ := top_of_take moves
      rintro rfl
      simp [shows] at seen
    have counted : r.consumed + 1 = s.consumed + 1 := congrArg (· + 1) alike.consumed
    -- The source of the second run has no fault, so it always goes on to the next token.
    rcases shift_of_feeds feeds shown rest with
      ⟨t, others, after, rfl, behind, goes⟩ | ⟨t, f, after, rfl, faults, broken⟩
    · rcases shift_of_feeds otherFeeds shown rest with
        ⟨u, more, otherAfter, split, otherBehind, otherGoes⟩ | ⟨_, _, _, _, impossible, _⟩
      · obtain ⟨rfl, rfl⟩ := List.cons.inj split
        exact .on (tick.trans goes) (otherTick.trans otherGoes) ⟨rfl, rfl, alike.applied, counted⟩
          behind otherBehind rfl
      · simp at impossible
    · rcases shift_of_feeds otherFeeds shown rest with
        ⟨u, more, otherAfter, split, otherBehind, otherGoes⟩ | ⟨_, _, _, _, impossible, _⟩
      · obtain ⟨rfl, rfl⟩ := List.cons.inj split
        exact .part (tick.trans broken) faults rfl (otherTick.trans otherGoes) otherBehind rfl
          alike.applied counted
      · simp at impossible
  | accept =>
    rw [moves] at tick otherTick
    have nothing : left = [] := List.head?_eq_none_iff.mp (shows.symm.trans (look_of_accept moves))
    have clean : fault = none := by
      cases fault with
      | none => rfl
      | some f => exact absurd nothing feeds.ne_nil
    exact .stop tick otherTick (.accepted clean rfl rfl alike.applied alike.consumed)
  | reject =>
    rw [moves] at tick otherTick
    obtain ⟨heard, rejects⟩ := reject_of_hears (p := p) feeds.hears
    obtain ⟨otherHeard, otherRejects⟩ := reject_of_hears (p := p) otherFeeds.hears
    have sameError : p.rejection s.look s.stack = p.rejection r.look r.stack := by
      rw [alike.look, alike.stack]
    -- A source that faults later shows a token here, so the rejection names one.
    have found : fault = none ∨ (p.rejection r.look r.stack).found.isSome = true := by
      cases fault with
      | none => exact Or.inl rfl
      | some f =>
        right
        rw [rejection_found, shows, List.isSome_head?]
        exact feeds.ne_nil
    rw [rejects] at tick
    rw [otherRejects, sameError] at otherTick
    exact .stop tick otherTick (.rejected found rfl rfl alike.applied alike.consumed)

/-- Two runs at the same point, over sources of the same tokens, come to outcomes that
agree up to the fault of the one that has a fault. -/
theorem Ends.agrees {n m : Nat} {r : Run σ} {s : Run τ} {outcome : Outcome σ ε}
    {other : Outcome τ δ} {left : List Token} {fault : Option ε} (ends : p.Ends n r outcome)
    (again : p.Ends m s other) (alike : Alike r s) (feeds : Feeds r.source left fault)
    (otherFeeds : Feeds s.source left (none : Option δ)) (shows : r.look = left.head?) :
    Agrees fault outcome other := by
  induction ends generalizing m s left with
  | @last r outcome stops =>
    cases alike.inStep (p := p) feeds otherFeeds shows with
    | on goes => simp [stops] at goes
    | stop alsoStops otherStops agrees =>
      obtain rfl := Sum.inr.inj (stops.symm.trans alsoStops)
      exact again.of_stops otherStops ▸ agrees
    | part alsoStops faults ending otherGoes otherFeeds ended applied consumed =>
      obtain rfl := Sum.inr.inj (stops.symm.trans alsoStops)
      obtain ⟨_, onward⟩ := again.of_goes otherGoes
      obtain ⟨later, counted, verdict⟩ := onward.at_end otherFeeds ended
      exact .faulted faults ending verdict (applied ▸ later) (consumed.trans counted.symm)
  | @next n r after outcome goes rest inductionHypothesis =>
    cases alike.inStep (p := p) feeds otherFeeds shows with
    | on alsoGoes otherGoes alikeAfter feedsAfter otherFeedsAfter showsAfter =>
      obtain rfl := Sum.inl.inj (goes.symm.trans alsoGoes)
      obtain ⟨_, onward⟩ := again.of_goes otherGoes
      exact inductionHypothesis onward alikeAfter feedsAfter otherFeedsAfter showsAfter
    | stop stops => simp [goes] at stops
    | part stops => simp [goes] at stops

theorem tokens_stand (tokens : List Token) :
    (tokens.map Item.token).map Item.toToken? = tokens.map .ok := by
  rw [List.map_map]
  rfl

/-- The run over a source that gives tokens agrees with the run over the list of them,
also when the first look at the source faults. -/
theorem run_agrees {source : σ} {tokens : List Token} {fault : Option ε}
    (gives : (∃ after, Opens source tokens fault after) ∨ ∃ f after, tokens = [] ∧
      fault = some f ∧ TokenSource.peek source = (.error f, after)) :
    Agrees fault (p.run source) (p.runItems (tokens.map .token)) := by
  obtain ⟨otherAfter, otherOpens⟩ := ItemStream.opens (tokens_stand tokens)
  obtain ⟨⟨_, again⟩, _⟩ := run_ends (p := p) otherOpens
  rcases gives with ⟨after, opens⟩ | ⟨f, after, rfl, faults, broken⟩
  · obtain ⟨⟨_, ends⟩, _⟩ := run_ends (p := p) opens
    exact ends.agrees again ⟨rfl, rfl, rfl, rfl⟩ opens.feeds otherOpens.feeds rfl
  · obtain ⟨later, counted, verdict⟩ := again.at_end otherOpens.feeds rfl
    have stopped : p.run source = ⟨.faulted f, [], 0, [p.grammar.start], after⟩ := by
      simp [run, broken]
    exact .faulted faults (by rw [stopped]) verdict (by rw [stopped]; exact later)
      (by rw [stopped]; exact counted.symm)

/-- Parsing a text while the lexer reads it agrees with lexing it first. If the lexer
comes to the end of the text, both accept, or both reject for the same reason at the
same token, after the same productions. If it faults, the run over the text rejects
where the run over the tokens before the fault rejects one of them; otherwise it
faults, and the other run goes on from there to the end of its list. Equally many
tokens are taken. What the lexer was used for before makes no difference. -/
theorem parsing_agrees_with_lexing_first (p : Parser) {lexer : Lexer}
    (filled : lexer.lexicon.Filled) {text : List Char} {tokens : List Token}
    {fault : Option LexFault} {last : Lexer}
    (lexed : (lexer.reset text 1 1).tokens = (tokens, fault, last)) :
    (fault = none →
      ((p.runText lexer text).ending = .accepted ∧
          (p.runItems (tokens.map .token)).ending = .accepted ∨
        ∃ error, (p.runItems (tokens.map .token)).ending = .rejected error ∧
          (p.runText lexer text).ending = .rejected (error.withExcerpt text)) ∧
      (p.runText lexer text).applied = (p.runItems (tokens.map .token)).applied) ∧
    (∀ f, fault = some f →
      (∃ error t, (p.runItems (tokens.map .token)).ending = .rejected error ∧
        error.found = some t ∧
        (p.runText lexer text).ending = .rejected (error.withExcerpt text) ∧
        (p.runText lexer text).applied = (p.runItems (tokens.map .token)).applied) ∨
      ((p.runItems (tokens.map .token)).ending = .accepted ∨
        ∃ error, (p.runItems (tokens.map .token)).ending = .rejected error ∧
          error.found = none) ∧
      (p.runText lexer text).ending = .faulted f ∧
      (p.runText lexer text).applied <+: (p.runItems (tokens.map .token)).applied) ∧
    (p.runText lexer text).consumed = (p.runItems (tokens.map .token)).consumed ∧
    ∀ used : Lexer, used.lexicon = lexer.lexicon → p.runText used text = p.runText lexer text := by
  have gives := Lexer.tokens_gives (l := lexer.reset text 1 1) filled rfl lexed
  have agrees : Agrees fault (p.run (lexer.reset text 1 1)) (p.runItems (tokens.map .token)) :=
    run_agrees (Lexer.opens_or_faults filled gives)
  have applied : (p.runText lexer text).applied = (p.run (lexer.reset text 1 1)).applied := rfl
  have consumed : (p.runText lexer text).consumed = (p.run (lexer.reset text 1 1)).consumed := rfl
  have ending : (p.runText lexer text).ending =
      (p.run (lexer.reset text 1 1)).ending.withExcerpt text := rfl
  have fresh : ∀ used : Lexer, used.lexicon = lexer.lexicon →
      p.runText used text = p.runText lexer text := by
    intro used same
    simp only [runText, Lexer.reset, same]
  rw [applied, consumed, ending]
  cases agrees with
  | accepted clean accepts otherAccepts sameApplied sameConsumed =>
    refine ⟨fun _ => ⟨Or.inl ⟨by rw [accepts]; rfl, otherAccepts⟩, sameApplied⟩, ?_,
      sameConsumed, fresh⟩
    intro f faults
    simp [clean] at faults
  | @rejected error found rejects otherRejects sameApplied sameConsumed =>
    have shown : (p.run (lexer.reset text 1 1)).ending.withExcerpt text =
        .rejected (error.withExcerpt text) := by rw [rejects]; rfl
    refine ⟨fun _ => ⟨Or.inr ⟨error, otherRejects, shown⟩, sameApplied⟩, ?_, sameConsumed, fresh⟩
    intro f faults
    obtain ⟨t, token⟩ := Option.isSome_iff_exists.mp (found.resolve_left (by simp [faults]))
    exact Or.inl ⟨error, t, otherRejects, token, shown, sameApplied⟩
  | @faulted f faults stops verdict later sameConsumed =>
    refine ⟨?_, ?_, sameConsumed, fresh⟩
    · intro clean
      simp [clean] at faults
    · intro g again
      obtain rfl : f = g := Option.some.inj (faults.symm.trans again)
      exact Or.inr ⟨verdict, by rw [stops]; rfl, later⟩

/-- A lexer of sums, with no patterns. -/
def sumsLexer : Lexer := { lexicon := ⟨[['x'], ['+']], [], []⟩ }

/-- The text `x+x` is accepted like its tokens. `+x?` is rejected at its first token,
as the tokens in front of `?` are. `x+?` is no sum in either way: the tokens end too
early, and the lexer faults. -/
theorem sums_parsed_while_lexing :
    (sumsParser.runText sumsLexer "x+x".toList).ending = .accepted ∧
    (∃ error, (sumsParser.runText sumsLexer "+x?".toList).ending = .rejected error) ∧
    (sumsParser.runText sumsLexer "x+?".toList).ending = .faulted ⟨'?', ⟨2, 1, 3⟩⟩ := by
  have filled : sumsLexer.lexicon.Filled := by unfold Lexicon.Filled; decide
  refine ⟨?_, ?_, ?_⟩
  · have lexed : (sumsLexer.reset "x+x".toList 1 1).tokens =
        ([⟨"x", "x", 1, 1, 0⟩, ⟨"+", "+", 1, 2, 1⟩, ⟨"x", "x", 1, 3, 2⟩], none,
          (sumsLexer.reset "x+x".toList 1 1).tokens.2.2) := rfl
    have accepts : (sumsParser.runItems
        ([⟨"x", "x", 1, 1, 0⟩, ⟨"+", "+", 1, 2, 1⟩, ⟨"x", "x", 1, 3, 2⟩].map .token)).ending =
        .accepted := rfl
    obtain ⟨clean, _⟩ := parsing_agrees_with_lexing_first sumsParser filled lexed
    rcases (clean rfl).1 with ⟨both, _⟩ | ⟨error, rejects, _⟩
    · exact both
    · rw [accepts] at rejects
      cases rejects
  · have lexed : (sumsLexer.reset "+x?".toList 1 1).tokens =
        ([⟨"+", "+", 1, 1, 0⟩, ⟨"x", "x", 1, 2, 1⟩], some ⟨'?', ⟨2, 1, 3⟩⟩,
          (sumsLexer.reset "+x?".toList 1 1).tokens.2.2) := rfl
    have rejects : ∃ error, (sumsParser.runItems
        ([⟨"+", "+", 1, 1, 0⟩, ⟨"x", "x", 1, 2, 1⟩].map .token)).ending = .rejected error ∧
        error.found = some ⟨"+", "+", 1, 1, 0⟩ := ⟨_, rfl, rfl⟩
    obtain ⟨_, faults, _⟩ := parsing_agrees_with_lexing_first sumsParser filled lexed
    rcases faults _ rfl with ⟨error, _, _, _, ending, _⟩ | ⟨accepted | ⟨error, ending, ended⟩, _⟩
    · exact ⟨_, ending⟩
    · obtain ⟨error, rejected, _⟩ := rejects
      rw [accepted] at rejected
      cases rejected
    · obtain ⟨_, rejected, found⟩ := rejects
      obtain rfl := Ending.rejected.inj (rejected.symm.trans ending)
      simp [ended] at found
  · have lexed : (sumsLexer.reset "x+?".toList 1 1).tokens =
        ([⟨"x", "x", 1, 1, 0⟩, ⟨"+", "+", 1, 2, 1⟩], some ⟨'?', ⟨2, 1, 3⟩⟩,
          (sumsLexer.reset "x+?".toList 1 1).tokens.2.2) := rfl
    have rejects : ∃ error, (sumsParser.runItems
        ([⟨"x", "x", 1, 1, 0⟩, ⟨"+", "+", 1, 2, 1⟩].map .token)).ending = .rejected error ∧
        error.found = none := ⟨_, rfl, rfl⟩
    obtain ⟨_, faults, _⟩ := parsing_agrees_with_lexing_first sumsParser filled lexed
    rcases faults _ rfl with ⟨error, t, ending, token, _⟩ | ⟨_, faulted, _⟩
    · obtain ⟨_, rejected, ended⟩ := rejects
      obtain rfl := Ending.rejected.inj (rejected.symm.trans ending)
      simp [ended] at token
    · exact faulted

end Parser

end Predictive
