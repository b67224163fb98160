import Predictive.Proofs.LeftmostDerivations
import Predictive.Proofs.ParserLoop

/-!
# What the parser recognises

The invariant of a run has two sides. The productions applied so far are a
leftmost derivation of the kinds taken, followed by the stack. And whatever string
goes on from the kinds taken with the lookahead in front, if the start symbol
derives the whole, then the stack derives that string. An expansion keeps the second
side because the lookahead predicts one production only, so a run that gets stuck
shows that no such string exists. The string need not be a word: behind the
lookahead it may hold nonterminals, also those that derive no word.
-/

namespace Predictive.Parser

variable {σ ε : Type} [TokenSource σ ε] {p : Parser} {r : Run σ} {fault : Option ε}

/-- The kinds of a list of tokens. -/
def kinds (tokens : List Token) : List Symbol := tokens.map Token.kind

/-- The lookahead that may stand in front of a string: its first symbol is the kind
of the first token, and an ended input stands in front of the empty string. -/
def Continues (left : List Token) (v : List Symbol) : Prop := v.head? = (kinds left).head?

/-- What holds of a run that took some tokens and has others left. -/
structure Tracks (p : Parser) (r : Run σ) (taken left : List Token) : Prop where
  shows : r.look = left.head?
  counted : r.consumed = taken.length
  word : p.grammar.IsWord (kinds taken)
  derives : p.grammar.LeftmostDerives r.applied [p.grammar.start] (kinds taken ++ r.stack)
  viable : ∀ v, p.grammar.IsLed v → Continues left v →
    p.grammar.Derives [p.grammar.start] (kinds taken ++ v) → p.grammar.Derives r.stack v

/-- A string that continues with the tokens that are left is led by the lookahead of
the parser. -/
theorem lookahead_of_continues {left : List Token} {v : List Symbol} (led : p.grammar.IsLed v)
    (continues : Continues left v) :
    p.lookahead left.head? = some (Grammar.lookaheadOf v) := by
  cases left with
  | nil =>
    obtain rfl : v = [] := by simpa [Continues, kinds] using continues
    rfl
  | cons t others =>
    cases v with
    | nil => simp [Continues, kinds] at continues
    | cons a v =>
      obtain rfl : a = t.kind := by simpa [Continues, kinds] using continues
      have terminal : t.kind ∈ p.grammar.terminals := Grammar.isLed_cons.mp led
      simp [lookahead, Grammar.isTerminal, terminal, Grammar.lookaheadOf]

theorem tracks_opening (p : Parser) (tokens : List Token) (source : σ) :
    p.Tracks (p.opening tokens.head? source) [] tokens :=
  { shows := rfl
    counted := rfl
    word := List.forall_mem_nil _
    derives := .refl _
    viable := fun _ _ _ steps => steps }

/-- A string that continues with the tokens that are left, behind a nonterminal on
top, comes from the production in the cell. -/
theorem Tracks.cell? {taken left : List Token} (tracks : p.Tracks r taken left) {x : Symbol}
    {rest v : List Symbol} (top : r.stack = x :: rest) (other : x ∉ p.grammar.terminals)
    (led : p.grammar.IsLed v) (continues : Continues left v)
    (steps : p.grammar.Derives (x :: rest) v) :
    ∃ q, p.cell? x (p.lookahead r.look) = some q ∧ p.grammar.Derives (q.body ++ rest) v := by
  obtain ⟨q, member, rfl, inBody⟩ := steps.exists_production led other
  have reached := tracks.derives.derives
  rw [top] at reached
  have predicts := Grammar.predicts_of_derives reached led inBody
  rw [tracks.shows, lookahead_of_continues led continues]
  exact ⟨q, cell?_of_predicts member predicts, inBody⟩

/-- An expansion keeps both sides of the invariant. -/
theorem Tracks.expand {taken left : List Token} (tracks : p.Tracks r taken left) {x : Symbol}
    {rest : List Symbol} {q : Production} (top : r.stack = x :: rest)
    (cell : p.cell? x (p.lookahead r.look) = some q) :
    p.Tracks { r with stack := q.body ++ rest, applied := r.applied ++ [q] } taken left := by
  obtain ⟨_, _, member, rfl, _⟩ := cell?_eq_some_iff.mp cell
  have derives := tracks.derives
  rw [top] at derives
  refine { tracks with
    derives := derives.trans (.single tracks.word member rest)
    viable := ?_ }
  intro v led continues steps
  have onStack := tracks.viable v led continues steps
  rw [top] at onStack
  obtain ⟨other, sameCell, inBody⟩ :=
    tracks.cell? top (Grammar.lhs_not_terminal member) led continues onStack
  obtain rfl := Option.some.inj (cell.symm.trans sameCell)
  exact inBody

/-- Taking a token moves its kind from the stack to the kinds taken. -/
theorem Tracks.take {taken others : List Token} {t : Token}
    (tracks : p.Tracks r taken (t :: others)) {rest : List Symbol}
    (top : r.stack = t.kind :: rest) (terminal : t.kind ∈ p.grammar.terminals) (after : σ) :
    p.Tracks { r with
      source := after, stack := rest, look := others.head?, consumed := r.consumed + 1 }
      (taken ++ [t]) others := by
  have moved : ∀ v, kinds (taken ++ [t]) ++ v = kinds taken ++ t.kind :: v := by
    intro v
    simp [kinds]
  refine
    { shows := rfl
      counted := by simp [tracks.counted]
      word := ?_
      derives := ?_
      viable := ?_ }
  · rw [kinds, List.map_append]
    exact Grammar.isWord_append.mpr ⟨tracks.word, by simpa [Grammar.IsWord] using terminal⟩
  · rw [moved, ← top]
    exact tracks.derives
  · intro v _ _ steps
    rw [moved] at steps
    have onStack := tracks.viable (t.kind :: v) (Grammar.isLed_cons.mpr terminal) rfl steps
    rw [top] at onStack
    obtain ⟨rest', same, behind⟩ := onStack.of_terminal_cons terminal
    exact (List.cons.inj same).2 ▸ behind

/-- Where the loop is stuck, no string that continues with the tokens that are left
makes a derivable whole. -/
theorem Tracks.not_derives_led {taken left : List Token} (tracks : p.Tracks r taken left)
    (stuck : p.Stuck r.look r.stack) {v : List Symbol} (led : p.grammar.IsLed v)
    (continues : Continues left v) :
    ¬ p.grammar.Derives [p.grammar.start] (kinds taken ++ v) := by
  intro steps
  have onStack := tracks.viable v led continues steps
  have leads := lookahead_of_continues (p := p) led continues
  rw [← tracks.shows] at leads
  cases top : r.stack with
  | nil =>
    rw [top] at onStack stuck
    obtain rfl := onStack.eq_nil
    cases left with
    | nil => simp [Stuck, tracks.shows] at stuck
    | cons t others => simp [Continues, kinds] at continues
  | cons x rest =>
    rw [top] at onStack stuck
    simp only [Stuck] at stuck
    split at stuck
    · rename_i terminal
      obtain ⟨v', rfl, _⟩ := onStack.of_terminal_cons terminal
      exact stuck leads
    · rename_i other
      obtain ⟨q, cell, _⟩ := tracks.cell? top other led continues onStack
      simp [stuck] at cell

theorem Tracks.not_derives {taken left : List Token} (tracks : p.Tracks r taken left)
    (stuck : p.Stuck r.look r.stack) {v : List Symbol} (word : p.grammar.IsWord v)
    (continues : Continues left v) :
    ¬ p.grammar.Derives [p.grammar.start] (kinds taken ++ v) :=
  tracks.not_derives_led stuck word.isLed continues

/-- The outcome of a run is reached from a last state that keeps the invariant. -/
theorem Ends.last_state {n : Nat} {r : Run σ} {outcome : Outcome σ ε} {taken left : List Token}
    (ends : p.Ends n r outcome) (tracks : p.Tracks r taken left)
    (feeds : Feeds r.source left fault) :
    ∃ (final : Run σ) (before behind : List Token), taken ++ left = before ++ behind ∧
      p.Tracks final before behind ∧ p.Effect fault final behind (.inr outcome) := by
  induction ends generalizing taken left with
  | last stops => exact ⟨_, taken, left, rfl, tracks, stops ▸ p.tick_effect feeds tracks.shows⟩
  | next goes _ inductionHypothesis =>
    have effect := p.tick_effect feeds tracks.shows
    rw [goes] at effect
    cases effect with
    | expand top cell => exact inductionHypothesis (tracks.expand top cell) feeds
    | @take t others _ after top terminal behind =>
      have split := inductionHypothesis (tracks.take top terminal after) behind
      simpa using split

/-- The last state of a run over a source. -/
theorem run_last_state {source after : σ} {tokens : List Token}
    (opens : Opens source tokens fault after) :
    ∃ (final : Run σ) (before behind : List Token), tokens = before ++ behind ∧
      p.Tracks final before behind ∧ p.Effect fault final behind (.inr (p.run source)) := by
  obtain ⟨⟨n, ends⟩, _⟩ := run_ends (p := p) opens
  exact ends.last_state (tracks_opening p tokens after) opens.feeds

/-- The parser accepts a list of tokens exactly when the kinds of the tokens are a
word that the grammar generates. It has then taken every token, the productions
that it applied are a leftmost derivation of that word, and every leftmost
derivation of the word is this one. -/
theorem accepts_iff_generates {g : Grammar} (built : ofGrammar? g = .ok p) {items : List Item}
    {tokens : List Token} (stands : items.map Item.toToken? = tokens.map .ok) :
    ((p.runItems items).ending = .accepted ↔ g.Generates (kinds tokens)) ∧
    ((p.runItems items).ending = .accepted →
      (p.runItems items).consumed = tokens.length ∧
      g.LeftmostDerives (p.runItems items).applied [g.start] (kinds tokens) ∧
      ∀ other, g.LeftmostDerives other [g.start] (kinds tokens) →
        other = (p.runItems items).applied) := by
  obtain rfl := grammar_of_built built
  obtain ⟨source, opens⟩ := ItemStream.opens stands
  obtain ⟨final, before, behind, split, tracks, effect⟩ := run_last_state (p := p) opens
  change p.Effect none final behind (.inr (p.runItems items)) at effect
  generalize p.runItems items = outcome at effect
  cases effect with
  | accept top =>
    have derives := tracks.derives
    rw [top, List.append_nil] at derives
    rw [List.append_nil] at split
    subst split
    refine ⟨⟨fun _ => ⟨tracks.word, derives.derives⟩, fun _ => rfl⟩, fun _ =>
      ⟨tracks.counted, derives, ?_⟩⟩
    intro other leftmost
    exact leftmost.unique p.clean tracks.word derives (.refl _)
  | reject stuck =>
    refine ⟨⟨fun accepted => by simp [Run.finish] at accepted, ?_⟩,
      fun accepted => by simp [Run.finish] at accepted⟩
    rintro ⟨word, steps⟩
    rw [split, kinds, List.map_append] at word steps
    exact absurd steps (tracks.not_derives stuck (Grammar.isWord_append.mp word).2 rfl)
  | broken _ _ impossible => simp at impossible

/-- `x + x` is a sum, and `x x` is none. -/
theorem sums_generates_sum : sums.Generates ["x", "+", "x"] ∧ ¬ sums.Generates ["x", "x"] := by
  have sum := accepts_iff_generates sums_built (names_stand ["x", "+", "x"])
  have noSum := accepts_iff_generates sums_built (names_stand ["x", "x"])
  have rejected : ∃ error, (sumsParser.runItems (["x", "x"].map Item.name)).ending =
      .rejected error := ⟨_, rfl⟩
  refine ⟨sum.1.mp rfl, ?_⟩
  intro generated
  obtain ⟨error, ending⟩ := rejected
  rw [noSum.1.mpr generated] at ending
  cases ending

end Predictive.Parser
