import Predictive.Proofs.EarlyRejection

/-!
# What a rejection expects can be had

Before it gives up, the parser may have made expansions under a lookahead that fits
nowhere. They do no harm to what it reports. The kinds taken, followed by the stack,
are still derived from the start symbol, so an expected terminal put behind them
begins a derivable string, and the parser takes every word that begins one. The
string need not lead to a word: the stack may hold nonterminals that derive none.
-/

namespace Predictive

namespace Parser

variable {p : Parser} {u : List Symbol} {x b : Symbol} {found : Option Token}
  {stack : List Symbol}

/-- A run over tokens has taken all of them and accepts, or it rejects where the loop
is stuck. -/
theorem runItems_ends {items : List Item} {tokens : List Token}
    (stands : items.map Item.toToken? = tokens.map .ok) :
    ∃ (final : Run ItemStream) (before behind : List Token), tokens = before ++ behind ∧
      p.Tracks final before behind ∧ (p.runItems items).consumed = before.length ∧
      (behind = [] ∧ (p.runItems items).ending = .accepted ∨
        p.Stuck final.look final.stack ∧
          (p.runItems items).ending = .rejected (p.rejection final.look final.stack)) := by
  obtain ⟨source, opens⟩ := ItemStream.opens stands
  obtain ⟨final, before, behind, split, tracks, effect⟩ := run_last_state (p := p) opens
  change p.Effect none final behind (.inr (p.runItems items)) at effect
  refine ⟨final, before, behind, split, tracks, ?_⟩
  generalize p.runItems items = outcome at effect ⊢
  cases effect with
  | accept _ => exact ⟨tracks.counted, Or.inl ⟨rfl, rfl⟩⟩
  | broken _ _ impossible => simp at impossible
  | reject stuck => exact ⟨tracks.counted, Or.inr ⟨stuck, rfl⟩⟩

theorem kinds_append (first second : List Token) :
    kinds (first ++ second) = kinds first ++ kinds second :=
  List.map_append

/-- The parser takes every word that begins a derivable string, whatever tokens stand
behind it. -/
theorem length_le_consumed {w rest v : List Symbol} (word : p.grammar.IsWord w)
    (steps : p.grammar.Derives [p.grammar.start] (w ++ rest)) {items : List Item}
    {tokens : List Token} (stands : items.map Item.toToken? = tokens.map .ok)
    (offered : kinds tokens = w ++ v) : w.length ≤ (p.runItems items).consumed := by
  obtain ⟨final, before, behind, rfl, tracks, counted, ending⟩ := runItems_ends (p := p) stands
  rw [kinds_append] at offered
  have lengths : (kinds before).length = before.length := List.length_map _
  rw [counted, ← lengths]
  rcases ending with ⟨rfl, _⟩ | ⟨stuck, _⟩
  · have whole := congrArg List.length offered
    simp only [kinds, List.map_nil, List.append_nil, List.length_append] at whole
    simp only [kinds]
    omega
  · rcases List.append_eq_append_iff.mp offered with ⟨inner, inWord, inBehind⟩ | ⟨inner, inBefore, _⟩
    · cases inner with
      | nil => simp [inWord]
      | cons t inner =>
        -- A part of the word is left, and the stack derives it with the rest behind it.
        exfalso
        have led : p.grammar.IsLed (t :: inner ++ rest) :=
          Grammar.isLed_cons.mpr (word t (by simp [inWord]))
        have continues : Continues behind (t :: inner ++ rest) := by
          simp [Continues, inBehind]
        refine tracks.not_derives_led stuck led continues ?_
        rw [← List.append_assoc, ← inWord]
        exact steps
    · rw [inBefore, List.length_append]
      omega

/-- The parser accepts every word that the start symbol derives. -/
theorem accepted_of_derives {w : List Symbol} (word : p.grammar.IsWord w)
    (steps : p.grammar.Derives [p.grammar.start] w) {items : List Item} {tokens : List Token}
    (stands : items.map Item.toToken? = tokens.map .ok) (offered : kinds tokens = w) :
    (p.runItems items).ending = .accepted := by
  obtain ⟨final, before, behind, rfl, tracks, _, ending⟩ := runItems_ends (p := p) stands
  rcases ending with ⟨_, accepts⟩ | ⟨stuck, _⟩
  · exact accepts
  · rw [← offered, kinds_append] at word steps
    exact absurd steps (tracks.not_derives stuck (Grammar.isWord_append.mp word).2 rfl)

/-- A terminal can be had behind some kinds: on every input that goes on with it, the
parser takes those kinds and the terminal. -/
def TakesBehind (p : Parser) (u : List Symbol) (b : Symbol) : Prop :=
  ∀ (items : List Item) (tokens : List Token) (v : List Symbol),
    items.map Item.toToken? = tokens.map .ok → kinds tokens = u ++ b :: v →
      u.length + 1 ≤ (p.runItems items).consumed

theorem takesBehind_of_derives (word : p.grammar.IsWord u) (terminal : b ∈ p.grammar.terminals)
    {rest : List Symbol} (steps : p.grammar.Derives [p.grammar.start] (u ++ b :: rest)) :
    p.TakesBehind u b := by
  intro items tokens v stands offered
  have longer : p.grammar.IsWord (u ++ [b]) :=
    Grammar.isWord_append.mpr ⟨word, by simpa [Grammar.IsWord] using terminal⟩
  have begun : p.grammar.Derives [p.grammar.start] (u ++ [b] ++ rest) := by simpa using steps
  have offeredBegin : kinds tokens = u ++ [b] ++ v := by simpa using offered
  simpa using length_le_consumed longer begun stands offeredBegin

/-- A rejection that names one terminal has it on top of the stack, or has met the
bottom. -/
theorem rejection_mismatch (named : (p.rejection found stack).reason = .mismatch x) :
    (stack = [] ∧ x = endMarker) ∨ ∃ rest, stack = x :: rest ∧ x ∈ p.grammar.terminals := by
  unfold rejection at named
  split at named
  · left
    obtain rfl := Reason.mismatch.inj named
    exact ⟨rfl, rfl⟩
  · rename_i top rest
    right
    split at named
    · rename_i terminal
      obtain rfl := Reason.mismatch.inj named
      exact ⟨rest, rfl, of_decide_eq_true terminal⟩
    · split at named <;> cases named

/-- A rejection that names a nonterminal has it on top of the stack and expects its
row of the table. -/
theorem rejection_nonterminal (named : (p.rejection found stack).nonterminal = some x) :
    ∃ rest, stack = x :: rest ∧
      ∀ b ∈ (p.rejection found stack).expected, ∃ q, p.cell? x (some b) = some q := by
  have cells : ∀ y, ∀ b ∈ nameSet (p.table.expected y), ∃ q, p.cell? y (some b) = some q := by
    intro y b expected
    exact Option.isSome_iff_exists.mp (Table.mem_expected_iff.mp (mem_nameSet.mp expected))
  unfold rejection at named ⊢
  split at named
  · cases named
  · rename_i top rest
    split at named
    · cases named
    · rename_i nonterminal
      simp only [nonterminal]
      split at named
      · rename_i ended
        obtain rfl := Option.some.inj named
        refine ⟨rest, rfl, ?_⟩
        simpa [ended, ParseError.expected, Reason.wanted] using cells top
      · rename_i more
        obtain rfl := Option.some.inj named
        refine ⟨rest, rfl, ?_⟩
        simpa [more, ParseError.expected, Reason.wanted] using cells top

/-- What is expected of a nonterminal that does not vanish is in its FIRST. -/
theorem mem_first_of_cell? {q : Production} (cell : p.cell? x (some b) = some q)
    (stays : epsilon ∉ p.grammar.first.get x) : b ∈ p.grammar.first.get x := by
  have first := Grammar.isFirstOf_nonterminal (nonterminal_of_cell? cell)
  obtain ⟨_, same, member, rfl, predicts⟩ := cell?_eq_some_iff.mp cell
  obtain rfl := Option.some.inj same
  rcases predicts with ⟨terminal, rest, inBody⟩ | ⟨empty, _⟩
  · exact (first.terminal_iff b terminal).mpr
      ⟨terminal, rest, (Grammar.Derives.of_mem member).trans inBody⟩
  · exact absurd (first.epsilon_iff.mpr ((Grammar.Derives.of_mem member).trans empty)) stays

/-- What is expected of a nonterminal and is in its FIRST is a terminal that it can
begin with. -/
theorem canBegin_of_cell? {q : Production} (cell : p.cell? x (some b) = some q)
    (inFirst : b ∈ p.grammar.first.get x) : p.grammar.CanBegin [x] b := by
  have first := Grammar.isFirstOf_nonterminal (nonterminal_of_cell? cell)
  rcases first.nothing_else b inFirst with terminal | rfl
  · exact (first.terminal_iff b terminal).mp inFirst
  · -- No cell has the mark of the empty body for its lookahead.
    obtain ⟨_, same, _, _, predicts⟩ := cell?_eq_some_iff.mp cell
    obtain rfl := Option.some.inj same
    rcases predicts.isLookahead with terminal | mark
    · exact absurd terminal Grammar.epsilon_not_terminal
    · exact absurd mark (by decide)

/-- What a rejection expects can be had. Where it names a terminal, the parser takes
this terminal behind the kinds taken; where it names the end of input, the kinds taken
are accepted. Where it names a nonterminal, the parser takes every expected terminal of
its FIRST behind the kinds taken, and these are all the expected ones unless the
nonterminal vanishes. -/
theorem rejections_expect_what_can_be_had {g : Grammar} (built : ofGrammar? g = .ok p)
    {items : List Item} {tokens : List Token} (stands : items.map Item.toToken? = tokens.map .ok)
    {error : ParseError} (rejected : (p.runItems items).ending = .rejected error) :
    (∀ x, error.reason = .mismatch x → x ≠ endMarker →
      p.TakesBehind (kindsTaken tokens (p.runItems items)) x) ∧
    (error.reason = .mismatch endMarker → ∀ (others : List Item) (again : List Token),
      others.map Item.toToken? = again.map .ok →
      kinds again = kindsTaken tokens (p.runItems items) →
      (p.runItems others).ending = .accepted) ∧
    (∀ x, error.nonterminal = some x → ∀ b ∈ error.expected, b ∈ g.first.get x →
      p.TakesBehind (kindsTaken tokens (p.runItems items)) b) ∧
    (∀ x, error.nonterminal = some x → epsilon ∉ g.first.get x →
      ∀ b ∈ error.expected, b ∈ g.first.get x) := by
  obtain rfl := grammar_of_built built
  obtain ⟨final, before, behind, rfl, tracks, counted, ending⟩ := runItems_ends (p := p) stands
  rcases ending with ⟨_, accepts⟩ | ⟨_, rejects⟩
  · rw [accepts] at rejected
    cases rejected
  · obtain rfl := Ending.rejected.inj (rejects.symm.trans rejected)
    have taken : kindsTaken (before ++ behind) (p.runItems items) = kinds before := by
      rw [kindsTaken, counted, List.take_left]
    rw [taken]
    have reached := tracks.derives.derives
    refine ⟨?_, ?_, ?_, ?_⟩
    · intro x named other
      rcases rejection_mismatch named with ⟨_, bottom⟩ | ⟨rest, top, terminal⟩
      · exact absurd bottom other
      · rw [top] at reached
        exact takesBehind_of_derives tracks.word terminal reached
    · intro named others again standAgain same
      rcases rejection_mismatch named with ⟨empty, _⟩ | ⟨_, _, terminal⟩
      · rw [empty, List.append_nil] at reached
        exact accepted_of_derives tracks.word reached standAgain same
      · exact absurd terminal Grammar.endMarker_not_terminal
    · intro x named b expected inFirst
      obtain ⟨rest, top, cells⟩ := rejection_nonterminal named
      obtain ⟨q, cell⟩ := cells b expected
      obtain ⟨terminal, tail, steps⟩ := canBegin_of_cell? cell inFirst
      rw [top] at reached
      have onward := steps.surround (kinds before) rest
      exact takesBehind_of_derives tracks.word terminal (reached.trans onward)
    · intro x named stays b expected
      obtain ⟨_, _, cells⟩ := rejection_nonterminal named
      obtain ⟨q, cell⟩ := cells b expected
      exact mem_first_of_cell? cell stays

/-- Bracketed lists of pairs: `T` is nullable, and it closes with a bracket. -/
def pairs : Grammar where
  terminals := ["(", ")", "x", "y"]
  nonterminals := ["S", "T"]
  start := "S"
  rules := [⟨"S", ["(", "T", ")"]⟩, ⟨"T", ["x", "y", "T"]⟩, ⟨"T", [epsilon]⟩]
  terminals_set := ⟨by decide, by decide⟩
  nonterminals_set := sums.nonterminals_set
  terminals_ne_nil := by decide
  disjoint := by decide
  terminal_not_reserved := by decide
  nonterminal_not_reserved := sums.nonterminal_not_reserved
  start_declared := sums.start_declared
  rules_nodup := by decide
  lhs_declared := by decide
  rhs_ne_nil := by decide
  rhs_declared := by decide
  has_rule := by decide

/-- The parser of bracketed lists of pairs. -/
def pairsParser : Parser where
  grammar := pairs
  first := pairs.first
  follow := pairs.follow
  table := pairs.table
  first_eq := rfl
  follow_eq := rfl
  table_eq := rfl
  conflicts_eq := by decide +kernel

theorem pairs_built : ofGrammar? pairs = .ok pairsParser :=
  ofGrammar?_of_clean pairsParser.conflicts_eq

/-- `( x x` is rejected for want of `y`, which can be had behind `( x`. `( ) )` is
rejected for want of the end, and `( )` is accepted. `( y` is rejected at `T`, which
vanishes and can begin with `x`, and `x` can be had behind `(`; `x` is rejected at
`S`, all of whose expectations are in FIRST. -/
theorem pairs_expectations_can_be_had :
    pairsParser.TakesBehind ["(", "x"] "y" ∧
    (pairsParser.runItems (["(", ")"].map Item.name)).ending = .accepted ∧
    pairsParser.TakesBehind ["("] "x" ∧ pairsParser.TakesBehind [] "(" := by
  have wantsY : ∃ error, (pairsParser.runItems (["(", "x", "x"].map Item.name)).ending =
      .rejected error ∧ error.reason = .mismatch "y" := ⟨_, rfl, rfl⟩
  have wantsEnd : ∃ error, (pairsParser.runItems (["(", ")", ")"].map Item.name)).ending =
      .rejected error ∧ error.reason = .mismatch endMarker := ⟨_, rfl, rfl⟩
  have wantsList : ∃ error, (pairsParser.runItems (["(", "y"].map Item.name)).ending =
      .rejected error ∧ error.nonterminal = some "T" ∧ "x" ∈ error.expected :=
    ⟨_, rfl, rfl, by decide⟩
  have wantsStart : ∃ error, (pairsParser.runItems (["x"].map Item.name)).ending =
      .rejected error ∧ error.nonterminal = some "S" ∧ "(" ∈ error.expected :=
    ⟨_, rfl, rfl, by decide⟩
  refine ⟨?_, ?_, ?_, ?_⟩
  · obtain ⟨error, ending, named⟩ := wantsY
    obtain ⟨terminals, _⟩ :=
      rejections_expect_what_can_be_had pairs_built (names_stand ["(", "x", "x"]) ending
    exact terminals "y" named (by decide)
  · obtain ⟨error, ending, named⟩ := wantsEnd
    obtain ⟨_, bottom, _⟩ :=
      rejections_expect_what_can_be_had pairs_built (names_stand ["(", ")", ")"]) ending
    exact bottom named _ _ (names_stand ["(", ")"]) rfl
  · obtain ⟨error, ending, named, expected⟩ := wantsList
    obtain ⟨_, _, nonterminals, _⟩ :=
      rejections_expect_what_can_be_had pairs_built (names_stand ["(", "y"]) ending
    exact nonterminals "T" named "x" expected (by decide)
  · obtain ⟨error, ending, named, expected⟩ := wantsStart
    obtain ⟨_, _, nonterminals, stays⟩ :=
      rejections_expect_what_can_be_had pairs_built (names_stand ["x"]) ending
    exact nonterminals "S" named "(" expected (stays "S" named (by decide) "(" expected)

end Parser

end Predictive
