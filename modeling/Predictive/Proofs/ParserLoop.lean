import Predictive.Proofs.Expansion
import Predictive.Proofs.Sources

/-!
# The loop of the parser

One iteration of the parser's loop expands the top of the stack, takes one token,
accepts or rejects. `tick` is that iteration, and `Ends` says that a run comes to
an outcome after a number of them. The parser groups its iterations in rounds and
spends fuel on them; here the fuel is shown to suffice, so its outcome is the one
that the iterations lead to.

A source is described by the tokens that it gives. `Effect` lists what an iteration
can do on such a source, and every statement about whole runs follows its cases.
-/

namespace Predictive

namespace Parser

variable {σ ε : Type} [TokenSource σ ε] {p : Parser} {r : Run σ} {left : List Token}
  {fault : Option ε}

/-- A run at its beginning. -/
def opening (p : Parser) (look : Option Token) (source : σ) : Run σ :=
  { stack := [p.grammar.start], look := look, source := source }

/-- One iteration of the loop. -/
def tick (p : Parser) (r : Run σ) : Run σ ⊕ Outcome σ ε :=
  match r.stack with
  | [] => if r.look.isNone then .inr (r.finish .accepted) else .inr (p.reject r)
  | x :: rest =>
    if p.grammar.isTerminal x then
      if p.lookahead r.look = some x then shift r rest else .inr (p.reject r)
    else
      match p.cell? x (p.lookahead r.look) with
      | some q => .inl { r with stack := q.body ++ rest, applied := r.applied ++ [q] }
      | none => .inr (p.reject r)

/-- A number of iterations, the last of which ends the loop. -/
inductive Ends (p : Parser) : Nat → Run σ → Outcome σ ε → Prop where
  | last {r : Run σ} {outcome : Outcome σ ε} (stops : p.tick r = .inr outcome) : Ends p 1 r outcome
  | next {n : Nat} {r after : Run σ} {outcome : Outcome σ ε} (goes : p.tick r = .inl after)
      (rest : Ends p n after outcome) : Ends p (n + 1) r outcome

/-- The loop cannot go on: tokens are left below an empty stack, or the top is
another terminal, or a nonterminal without a cell. -/
def Stuck (p : Parser) (look : Option Token) : List Symbol → Prop
  | [] => look.isSome = true
  | x :: _ =>
    if x ∈ p.grammar.terminals then p.lookahead look ≠ some x
    else p.cell? x (p.lookahead look) = none

/-- What one iteration does on a source that gives the tokens that are left. -/
inductive Effect (p : Parser) (fault : Option ε) :
    Run σ → List Token → (Run σ ⊕ Outcome σ ε) → Prop where
  | expand {r : Run σ} {left : List Token} {x : Symbol} {rest : List Symbol} {q : Production}
      (top : r.stack = x :: rest) (cell : p.cell? x (p.lookahead r.look) = some q) :
      Effect p fault r left
        (.inl { r with stack := q.body ++ rest, applied := r.applied ++ [q] })
  | take {r : Run σ} {t : Token} {others : List Token} {rest : List Symbol} {after : σ}
      (top : r.stack = t.kind :: rest) (terminal : t.kind ∈ p.grammar.terminals)
      (feeds : Feeds after others fault) :
      Effect p fault r (t :: others)
        (.inl { r with
          source := after, stack := rest, look := others.head?, consumed := r.consumed + 1 })
  | broken {r : Run σ} {t : Token} {rest : List Symbol} {after : σ} {f : ε}
      (top : r.stack = t.kind :: rest) (terminal : t.kind ∈ p.grammar.terminals)
      (faults : fault = some f) :
      Effect p fault r [t]
        (.inr ({ r with source := after, stack := rest, consumed := r.consumed + 1 }.finish
          (.faulted f)))
  | accept {r : Run σ} (top : r.stack = []) : Effect p fault r [] (.inr (r.finish .accepted))
  | reject {r : Run σ} {left : List Token} {after : σ} (stuck : p.Stuck r.look r.stack) :
      Effect p fault r left
        (.inr ({ r with source := after }.finish (.rejected (p.rejection r.look r.stack))))

/-- A rejection whose report is heard ends the run where it stands. -/
theorem reject_of_hears (hears : Hears r.source) : ∃ after, p.reject r =
    { r with source := after }.finish (.rejected (p.rejection r.look r.stack)) := by
  obtain ⟨after, heard⟩ := hears r.look (p.rejection r.look r.stack).expected
  exact ⟨after, by simp [reject, heard]⟩

/-- A terminal matches the lookahead only if it is the kind of the token shown. -/
theorem lookahead_eq_some {look : Option Token} {x : Symbol} (terminal : x ∈ p.grammar.terminals)
    (same : p.lookahead look = some x) : ∃ t, look = some t ∧ t.kind = x := by
  cases look with
  | none =>
    obtain rfl : endMarker = x := by simpa [lookahead] using same
    exact absurd terminal Grammar.endMarker_not_terminal
  | some t =>
    simp only [lookahead] at same
    split at same
    · exact ⟨t, rfl, Option.some.inj same⟩
    · simp at same

/-- An iteration on a source that gives tokens has one of the listed effects. -/
theorem tick_effect (p : Parser) (feeds : Feeds r.source left fault) (shows : r.look = left.head?) :
    p.Effect fault r left (p.tick r) := by
  obtain ⟨heard, rejects⟩ := reject_of_hears (p := p) feeds.hears
  unfold tick
  split
  · rename_i top
    split
    · rename_i ended
      have nothing : left = [] := by
        rw [shows, Option.isNone_iff_eq_none, List.head?_eq_none_iff] at ended
        exact ended
      exact nothing ▸ .accept top
    · rename_i more
      rw [rejects]
      refine .reject ?_
      simpa [top, Stuck, Option.isSome_iff_ne_none] using more
  · rename_i x rest top
    split
    · rename_i isTerminal
      have terminal : x ∈ p.grammar.terminals := of_decide_eq_true isTerminal
      split
      · rename_i same
        obtain ⟨t, look, rfl⟩ := lookahead_eq_some terminal same
        rw [shows] at look
        cases feeds with
        | finished => simp at look
        | token _ takes next behind =>
          obtain rfl := Option.some.inj look
          simp only [shift, takes, next]
          exact .take top terminal behind
        | broken _ takes next =>
          obtain rfl := Option.some.inj look
          simp only [shift, takes, next]
          exact .broken top terminal rfl
      · rename_i different
        rw [rejects]
        refine .reject ?_
        simpa [top, Stuck, terminal] using different
    · rename_i notTerminal
      have nonterminal : x ∉ p.grammar.terminals := fun terminal =>
        notTerminal (decide_eq_true terminal)
      split
      · rename_i q cell
        exact .expand top cell
      · rename_i empty
        rw [rejects]
        refine .reject ?_
        simpa [top, Stuck, nonterminal] using empty

/-- An expansion is one iteration. -/
theorem tick_of_expandTop? {q : Production} {raised : List Symbol}
    (top : p.expandTop? (p.lookahead r.look) r.stack = some (q, raised)) :
    p.tick r = .inl { r with stack := raised, applied := r.applied ++ [q] } := by
  unfold tick
  split
  · rename_i empty
    simp [empty, expandTop?] at top
  · rename_i x rest filled
    rw [filled, expandTop?_cons, Option.map_eq_some_iff] at top
    obtain ⟨other, cell, same⟩ := top
    obtain ⟨rfl, rfl⟩ := Prod.mk.inj same
    have nonterminal : x ∉ p.grammar.terminals := fun terminal =>
      p.grammar.disjoint x terminal (nonterminal_of_cell? cell)
    simp [Grammar.isTerminal, nonterminal, cell]

/-- Expansions are as many iterations. -/
theorem Ends.expands {n : Nat} {look : Option Symbol} {stack after : List Symbol}
    {later : List Production} {outcome : Outcome σ ε} {r : Run σ} (sees : p.lookahead r.look = look)
    (place : r.stack = stack) (expands : p.Expands look stack later after)
    (ends : p.Ends n { r with stack := after, applied := r.applied ++ later } outcome) :
    p.Ends (later.length + n) r outcome := by
  induction expands generalizing r with
  | refl _ =>
    subst place
    simpa using ends
  | @step _ raised _ q later top _ inductionHypothesis =>
    subst sees place
    rw [List.length_cons, Nat.add_right_comm]
    refine .next (tick_of_expandTop? top) (inductionHypothesis rfl rfl ?_)
    simpa using ends

/-- A round expands the stack until it is settled and then does one more
iteration. -/
theorem round_eq_tick (p : Parser) (r : Run σ) : ∃ settled later,
    p.Expands (p.lookahead r.look) r.stack later settled ∧
      p.expandTop? (p.lookahead r.look) settled = none ∧
      p.round r = p.tick { r with stack := settled, applied := r.applied ++ later } := by
  obtain ⟨settled, later, expanded, expands, stops⟩ :=
    p.expand_settles (p.lookahead r.look) r.stack
  refine ⟨settled, later, expands, stops, ?_⟩
  simp only [round, settle, expanded, tick]
  cases settled with
  | nil => rfl
  | cons x rest =>
    simp [expandTop?_eq_none_iff.mp stops]

/-- The endings of a run on a source that faults or does not. -/
def Proper (fault : Option ε) (ending : Ending ε) : Prop :=
  ending = .accepted ∨ (∃ error, ending = .rejected error) ∨
    ∃ f, ending = .faulted f ∧ fault = some f

/-- With one round for each token and one more, the rounds lead where the
iterations lead. -/
theorem drive_ends {fuel : Nat} {r : Run σ} {left : List Token}
    (feeds : Feeds r.source left fault) (shows : r.look = left.head?)
    (enough : left.length < fuel) :
    (∃ n, p.Ends n r (p.drive fuel r)) ∧ Proper fault (p.drive fuel r).ending := by
  induction fuel generalizing r left with
  | zero => omega
  | succ fuel inductionHypothesis =>
    obtain ⟨settled, later, expands, stops, sameRound⟩ := p.round_eq_tick r
    have effect := tick_effect (r := { r with stack := settled, applied := r.applied ++ later })
      p feeds shows
    simp only [drive, sameRound]
    generalize ticked : p.tick { r with stack := settled, applied := r.applied ++ later } = result
      at effect
    cases effect with
    | expand top cell =>
      obtain rfl : settled = _ := top
      simp [expandTop?_of_cell? cell] at stops
    | @take _ others below after top terminal behind =>
      obtain ⟨⟨n, rest⟩, proper⟩ := inductionHypothesis
        (r := ⟨below, others.head?, after, r.applied ++ later, r.consumed + 1⟩) behind rfl
        (Nat.lt_of_succ_lt_succ enough)
      exact ⟨⟨_, .expands rfl rfl expands (.next ticked rest)⟩, proper⟩
    | broken top terminal faults =>
      exact ⟨⟨_, .expands rfl rfl expands (.last ticked)⟩, Or.inr (Or.inr ⟨_, rfl, faults⟩)⟩
    | accept top => exact ⟨⟨_, .expands rfl rfl expands (.last ticked)⟩, Or.inl rfl⟩
    | reject stuck =>
      exact ⟨⟨_, .expands rfl rfl expands (.last ticked)⟩, Or.inr (Or.inl ⟨_, rfl⟩)⟩

/-- The parser's outcome on a source is the one that its iterations lead to. -/
theorem run_ends {source after : σ} {tokens : List Token}
    (opens : Opens source tokens fault after) :
    (∃ n, p.Ends n (p.opening tokens.head? after) (p.run source)) ∧
      Proper fault (p.run source).ending := by
  simp only [run, opens.shows]
  exact drive_ends opens.feeds rfl (Nat.lt_succ_of_le opens.counted)

/-- A construction that succeeds gives the parser of the grammar. -/
theorem grammar_of_built {g : Grammar} (built : ofGrammar? g = .ok p) : p.grammar = g := by
  simp only [ofGrammar?] at built
  split at built
  · exact (Except.ok.inj built) ▸ rfl
  · simp at built

/-- The loop comes to an end on every list of tokens, by accepting or by
rejecting, and the outcome of the parser is where it ends. Whatever the stack and
the lookahead, expansions that follow one another without a token being taken are
no more than a bound. -/
theorem loop_terminates {g : Grammar} (built : ofGrammar? g = .ok p) {items : List Item}
    {tokens : List Token} (stands : items.map Item.toToken? = tokens.map .ok) :
    (∀ look stack applied after, p.Expands look stack applied after →
      applied.length ≤ expansionBound g stack) ∧
    ∃ source n, ItemStream.peek { items := items } = (.ok tokens.head?, source) ∧
      p.Ends n (p.opening tokens.head? source) (p.runItems items) ∧
      ((p.runItems items).ending = .accepted ∨
        ∃ error, (p.runItems items).ending = .rejected error) := by
  obtain rfl := grammar_of_built built
  refine ⟨fun _ _ _ _ => length_le_expansionBound, ?_⟩
  obtain ⟨source, opens⟩ := ItemStream.opens stands
  obtain ⟨⟨n, ends⟩, accepted | rejected | ⟨_, _, impossible⟩⟩ := run_ends (p := p) opens
  · exact ⟨source, n, opens.shows, ends, Or.inl accepted⟩
  · exact ⟨source, n, opens.shows, ends, Or.inr rejected⟩
  · simp at impossible

/-- A grammar whose table has no conflicts has a parser. -/
theorem ofGrammar?_of_clean {g : Grammar} (clean : g.table.conflicts = []) :
    ofGrammar? g = .ok ⟨g, g.first, g.follow, g.table, rfl, rfl, rfl, clean⟩ := by
  unfold ofGrammar?
  exact dif_pos clean

/-- Any other grammar is refused with its conflicts. -/
theorem ofGrammar?_of_conflicts {g : Grammar} (met : g.table.conflicts ≠ []) :
    ofGrammar? g = .error g.table.conflicts := by
  unfold ofGrammar?
  exact dif_neg met

/-- Sums of `x`: the first production of `T` adds another one and the second one
ends the sum. -/
def sums : Grammar where
  terminals := ["+", "x"]
  nonterminals := ["S", "T"]
  start := "S"
  rules := [⟨"S", ["x", "T"]⟩, ⟨"T", ["+", "x", "T"]⟩, ⟨"T", [epsilon]⟩]
  terminals_set := ⟨by decide, by decide⟩
  nonterminals_set := ⟨by decide, by decide⟩
  terminals_ne_nil := by decide
  disjoint := by decide
  terminal_not_reserved := by decide
  nonterminal_not_reserved := by decide
  start_declared := by decide
  rules_nodup := by decide
  lhs_declared := by decide
  rhs_ne_nil := by decide
  rhs_declared := by decide
  has_rule := by decide

/-- The parser of sums. -/
def sumsParser : Parser where
  grammar := sums
  first := sums.first
  follow := sums.follow
  table := sums.table
  first_eq := rfl
  follow_eq := rfl
  table_eq := rfl
  conflicts_eq := by decide +kernel

theorem sums_built : ofGrammar? sums = .ok sumsParser := ofGrammar?_of_clean sumsParser.conflicts_eq

/-- The token that a bare name stands for. -/
def nameToken (name : Symbol) : Token := { kind := name, text := name }

theorem names_stand (names : List Symbol) :
    (names.map Item.name).map Item.toToken? = (names.map nameToken).map .ok := by
  simp only [List.map_map]
  rfl

/-- The loop ends on `x x`, where the end of the sum is expanded before the parser
gives up. -/
theorem sums_loop_ends : ofGrammar? sums = .ok sumsParser ∧
    (["x", "x"].map Item.name).map Item.toToken? = (["x", "x"].map nameToken).map .ok ∧
    ∃ source n, ItemStream.peek { items := ["x", "x"].map Item.name } =
        (.ok (some (nameToken "x")), source) ∧
      sumsParser.Ends n (sumsParser.opening (some (nameToken "x")) source)
        (sumsParser.runItems (["x", "x"].map Item.name)) := by
  obtain ⟨_, source, n, shows, ends, _⟩ := loop_terminates sums_built (names_stand ["x", "x"])
  exact ⟨sums_built, names_stand ["x", "x"], source, n, shows, ends⟩

end Parser

end Predictive
