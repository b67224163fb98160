import Predictive.Proofs.ParserLoop
import Predictive.Proofs.Rearrangement

/-!
# Runs do not depend on the order of productions

A parser reads its grammar through the set of terminals, the cells of the table, a
bound on expansions and, when it gives up, the expected names. Two parsers whose
grammars store the same productions in different orders agree on all of these, and
differ only in the order in which the cells of a table were filled. So they go from
round to round through the same states, and what they say at the end is the same:
expected names are a set, and where a message lists them, it lists them by rank.
-/

namespace Predictive

/-- Two reasons for a rejection are of one kind. -/
inductive Reason.SameKind : Reason → Reason → Prop where
  | mismatch (t : Symbol) : SameKind (.mismatch t) (.mismatch t)
  | noRule (v w : Wanted) : SameKind (.noRule v) (.noRule w)
  | inputEnded (v w : Wanted) : SameKind (.inputEnded v) (.inputEnded w)
  | unexpected (v w : Wanted) : SameKind (.unexpected v) (.unexpected w)

/-- Two rejections say the same: they are of one kind, found the same token, expected the
same names of the same nonterminal, list them in the same order and are worded alike. -/
structure ParseError.SameAs (e f : ParseError) : Prop where
  kind : e.reason.SameKind f.reason
  found_eq : e.found = f.found
  expected_eq : e.expected = f.expected
  listed_eq : e.listed = f.listed
  nonterminal_eq : e.nonterminal = f.nonterminal
  message_eq : e.message = f.message

/-- Two runs end alike: equally, or by rejections that say the same. -/
inductive Ending.SameAs {ε : Type} : Ending ε → Ending ε → Prop where
  | refl (ending : Ending ε) : SameAs ending ending
  | rejected {e f : ParseError} (same : e.SameAs f) : SameAs (.rejected e) (.rejected f)

/-- Two runs have the same outcome: they end alike, with the same productions applied, as
many tokens taken, the same symbols left on the stack and the same source left behind. -/
structure Outcome.SameAs {σ ε : Type} (one other : Outcome σ ε) : Prop where
  ending : one.ending.SameAs other.ending
  applied_eq : one.applied = other.applied
  consumed_eq : one.consumed = other.consumed
  stack_eq : one.stack = other.stack
  source_eq : one.source = other.source

theorem Outcome.SameAs.refl {σ ε : Type} (outcome : Outcome σ ε) : outcome.SameAs outcome :=
  ⟨.refl _, rfl, rfl, rfl, rfl⟩

namespace Parser

variable {p q : Parser}

/-- The grammars of two parsers rearrange one another. -/
abbrev Rearranges (p q : Parser) : Prop := p.grammar.Rearranges q.grammar

namespace Rearranges

variable {x : Symbol}

theorem isTerminal_eq (same : p.Rearranges q) (x : Symbol) :
    p.grammar.isTerminal x = q.grammar.isTerminal x := by
  rw [Grammar.isTerminal, Grammar.isTerminal, same.terminals_eq]

theorem lookahead_eq (same : p.Rearranges q) (look : Option Token) :
    p.lookahead look = q.lookahead look := by
  cases look with
  | none => rfl
  | some t => simp only [lookahead, same.isTerminal_eq]

theorem cell?_eq (same : p.Rearranges q) (x : Symbol) (look : Option Symbol) :
    p.cell? x look = q.cell? x look := by
  have cells : p.table.get? x = q.table.get? x := by
    funext t
    rw [p.table_eq, q.table_eq]
    exact same.get?_eq p.clean x t
  rw [cell?, cell?, cells]

theorem expandTop?_eq (same : p.Rearranges q) (look : Option Symbol) (stack : List Symbol) :
    p.expandTop? look stack = q.expandTop? look stack := by
  cases stack with
  | nil => rfl
  | cons x rest => rw [expandTop?_cons, expandTop?_cons, same.cell?_eq]

theorem expand_eq (same : p.Rearranges q) (look : Option Symbol) (fuel : Nat)
    (stack : List Symbol) : p.expand look fuel stack = q.expand look fuel stack := by
  induction fuel generalizing stack with
  | zero => rfl
  | succ fuel inductionHypothesis =>
    simp only [expand, same.expandTop?_eq, inductionHypothesis]

theorem longestBody_eq (same : p.Rearranges q) : longestBody p.grammar = longestBody q.grammar := by
  have permuted : p.grammar.rules.Perm q.grammar.rules :=
    (List.perm_ext_iff_of_nodup p.grammar.rules_nodup q.grammar.rules_nodup).mpr same.mem_rules
  refine permuted.foldl_eq' ?_ 0
  intro one _ other _ longest
  omega

theorem expansionBound_eq (same : p.Rearranges q) (stack : List Symbol) :
    expansionBound p.grammar stack = expansionBound q.grammar stack := by
  rw [expansionBound, expansionBound, same.longestBody_eq, same.nonterminals_eq]

theorem mem_expected (same : p.Rearranges q) (x t : Symbol) :
    t ∈ p.table.expected x ↔ t ∈ q.table.expected x := by
  rw [p.table_eq, q.table_eq]
  exact Grammar.Rearranges.mem_expected same p.clean x t

/-- A message lists the expected names in one order. -/
theorem arrange_expected_eq (same : p.Rearranges q) (x : Symbol) :
    p.grammar.symbols.arrange (p.table.expected x) =
      q.grammar.symbols.arrange (q.table.expected x) := by
  rw [same.symbols_eq]
  apply SymbolOrder.arrange_ext
  · rw [p.table_eq]
    exact p.grammar.table_oneEach.expected_nodup x
  · rw [q.table_eq]
    exact q.grammar.table_oneEach.expected_nodup x
  · exact same.mem_expected x

/-- On one stack and one lookahead the parsers say the same when they give up. -/
theorem rejection (same : p.Rearranges q) (found : Option Token) (stack : List Symbol) :
    (p.rejection found stack).SameAs (q.rejection found stack) := by
  cases stack with
  | nil => exact ⟨.mismatch endMarker, rfl, rfl, rfl, rfl, rfl⟩
  | cons x rest =>
    have names : nameSet (p.table.expected x) = nameSet (q.table.expected x) :=
      nameSet_ext (same.mem_expected x)
    simp only [Parser.rejection, same.isTerminal_eq, same.arrange_expected_eq]
    split
    · exact ⟨.mismatch x, rfl, rfl, rfl, rfl, rfl⟩
    · cases found with
      | none => exact ⟨.inputEnded _ _, rfl, names, rfl, rfl, rfl⟩
      | some t => exact ⟨.noRule _ _, rfl, names, rfl, rfl, rfl⟩

section Running

variable {σ ε : Type}

/-- Two rounds have the same effect: they go on with the same run, or they come to the same
outcome. -/
inductive SameEffect : Run σ ⊕ Outcome σ ε → Run σ ⊕ Outcome σ ε → Prop where
  | goesOn (r : Run σ) : SameEffect (.inl r) (.inl r)
  | ends {one other : Outcome σ ε} (same : one.SameAs other) : SameEffect (.inr one) (.inr other)

theorem SameEffect.refl (effect : Run σ ⊕ Outcome σ ε) : SameEffect effect effect := by
  cases effect with
  | inl r => exact .goesOn r
  | inr outcome => exact .ends (.refl outcome)

variable [TokenSource σ ε]

/-- The source hears the same report, so it is left in the same state. -/
theorem reject (same : p.Rearranges q) (r : Run σ) :
    Outcome.SameAs (p.reject r : Outcome σ ε) (q.reject r) := by
  have error := same.rejection r.look r.stack
  rw [Parser.reject, Parser.reject, error.expected_eq]
  split
  · exact ⟨.rejected error, rfl, rfl, rfl, rfl⟩
  · exact .refl _

theorem settle_eq (same : p.Rearranges q) (r : Run σ) : p.settle r = q.settle r := by
  simp only [settle, same.lookahead_eq, same.expansionBound_eq, same.expand_eq]

/-- One round has the same effect. -/
theorem round (same : p.Rearranges q) (r : Run σ) :
    SameEffect (p.round r : Run σ ⊕ Outcome σ ε) (q.round r) := by
  simp only [Parser.round, same.settle_eq, same.isTerminal_eq, same.lookahead_eq, same.cell?_eq]
  split
  · split
    · exact .refl _
    · exact .ends (same.reject _)
  · split
    · split
      · exact .refl _
      · exact .ends (same.reject _)
    · split
      · exact .refl _
      · exact .ends (same.reject _)

/-- Any number of rounds come to the same outcome. -/
theorem drive (same : p.Rearranges q) (fuel : Nat) (r : Run σ) :
    Outcome.SameAs (p.drive fuel r : Outcome σ ε) (q.drive fuel r) := by
  induction fuel generalizing r with
  | zero => exact .refl _
  | succ fuel inductionHypothesis =>
    have effect : SameEffect (p.round r : Run σ ⊕ Outcome σ ε) (q.round r) := same.round r
    rw [Parser.drive, Parser.drive]
    generalize (p.round r : Run σ ⊕ Outcome σ ε) = first at effect
    generalize (q.round r : Run σ ⊕ Outcome σ ε) = second at effect
    cases effect with
    | goesOn after => exact inductionHypothesis after
    | ends outcomes => exact outcomes

/-- Runs from one source have the same outcome. -/
theorem run (same : p.Rearranges q) (source : σ) :
    Outcome.SameAs (p.run source : Outcome σ ε) (q.run source) := by
  rw [Parser.run, Parser.run, same.start_eq]
  split
  · exact .refl _
  · exact same.drive _ _

end Running

end Rearranges

/-- Declarations that name the same terminals, the same nonterminals and the same start
symbol and offer the same set of productions lead to the same results, in whatever form and
order they are written. FIRST and FOLLOW of every name have the same answers, and the tables
agree on whether there is a conflict. Without one, every cell has the same content, the same
lookaheads are expected of every nonterminal, and the parsers come to the same outcome on
every list of items. If the productions of each nonterminal first appear in the same order,
the rows and the conflicts are the same, whether there are conflicts or not. -/
theorem declaration_order_is_immaterial {d e : Declaration} {g h : Grammar}
    (one : Grammar.ofDeclaration? d = .ok g) (other : Grammar.ofDeclaration? e = .ok h)
    (terminals : ∀ x, x ∈ d.terminals ↔ x ∈ e.terminals)
    (nonterminals : ∀ x, x ∈ d.nonterminals ↔ x ∈ e.nonterminals) (start : d.start = e.start)
    (productions : ∀ p, p ∈ d.productions ↔ p ∈ e.productions) :
    (∀ x, (g.first.first? x).map nameSet = (h.first.first? x).map nameSet ∧
      (g.follow.follow? x).map nameSet = (h.follow.follow? x).map nameSet) ∧
    g.table.isLL1 = h.table.isLL1 ∧
    (g.table.isLL1 = true →
      (∀ a t, g.table.get? a t = h.table.get? a t) ∧
      (∀ a, nameSet (g.table.expected a) = nameSet (h.table.expected a)) ∧
      ∃ p q, ofGrammar? g = .ok p ∧ ofGrammar? h = .ok q ∧
        ∀ items, Outcome.SameAs (p.runItems items) (q.runItems items)) ∧
    ((∀ p ∈ d.productions, ∀ q ∈ d.productions, p.lhs = q.lhs →
        (d.productions.idxOf p < d.productions.idxOf q ↔
          e.productions.idxOf p < e.productions.idxOf q)) →
      g.table.rows g.symbols = h.table.rows h.symbols ∧
      g.table.conflicts = h.table.conflicts) := by
  have same : g.Rearranges h :=
    Grammar.rearranges_of_accepted one other terminals nonterminals start productions
  refine ⟨fun x => ⟨same.first?_eq x, same.follow?_eq x⟩, same.isLL1_eq, ?_, ?_⟩
  · intro isLL1
    have free : g.table.conflicts = [] := of_decide_eq_true isLL1
    refine ⟨same.get?_eq free, fun a => nameSet_ext (same.mem_expected free a), _, _,
      ofGrammar?_of_clean free, ofGrammar?_of_clean (same.clean free), ?_⟩
    intro items
    apply Rearranges.run
    exact same
  · intro ordered
    have tables : g.table = h.table := by
      apply same.table_eq
      exact Grammar.productionsOf_eq one other same ordered
    rw [tables, same.symbols_eq]
    exact ⟨rfl, rfl⟩

/-- Sums declared by a mapping: the empty body is left empty, and a body is repeated. -/
def sumsByLeftSide : Declaration where
  terminals := ["x", "+"]
  nonterminals := ["T", "S"]
  rules := .mapping
    [("S", .list [.symbols ["x", "T"]]),
      ("T", .list [.symbols ["+", "x", "T"], .symbols [], .symbols ["+", "x", "T"]])]
  start := "S"

/-- Sums declared by a list: the empty body is written as `ε`, and the start symbol comes
last. -/
def sumsByItem : Declaration where
  terminals := ["+", "x", "+"]
  nonterminals := ["S", "T"]
  rules := .listing
    [.production ⟨"T", ["+", "x", "T"]⟩, .production ⟨"T", [epsilon]⟩,
      .production ⟨"S", ["x", "T"]⟩]
  start := "S"

/-- Both declarations of sums are accepted and their parsers have the same outcomes. The
alternatives of `T` first appear in the same order in both, so their rows are the same too. -/
theorem sums_are_declared_in_two_orders :
    Grammar.ofDeclaration? sumsByLeftSide = .ok sums ∧
    ∃ h, Grammar.ofDeclaration? sumsByItem = .ok h ∧
      (∀ x, x ∈ sumsByLeftSide.terminals ↔ x ∈ sumsByItem.terminals) ∧
      (∀ x, x ∈ sumsByLeftSide.nonterminals ↔ x ∈ sumsByItem.nonterminals) ∧
      sumsByLeftSide.start = sumsByItem.start ∧
      (∀ p, p ∈ sumsByLeftSide.productions ↔ p ∈ sumsByItem.productions) ∧
      sums.table.isLL1 = true ∧
      (∃ p q, ofGrammar? sums = .ok p ∧ ofGrammar? h = .ok q ∧
        ∀ items, Outcome.SameAs (p.runItems items) (q.runItems items)) ∧
      (∀ p ∈ sumsByLeftSide.productions, ∀ q ∈ sumsByLeftSide.productions, p.lhs = q.lhs →
        (sumsByLeftSide.productions.idxOf p < sumsByLeftSide.productions.idxOf q ↔
          sumsByItem.productions.idxOf p < sumsByItem.productions.idxOf q)) ∧
      sums.table.rows sums.symbols = h.table.rows h.symbols := by
  have one : Grammar.ofDeclaration? sumsByLeftSide = .ok sums := rfl
  obtain ⟨h, other, _⟩ := Grammar.exists_ofDeclaration? (d := sumsByItem) rfl
  have terminals : ∀ x, x ∈ sumsByLeftSide.terminals ↔ x ∈ sumsByItem.terminals := by
    simp [sumsByLeftSide, sumsByItem, or_comm]
  have nonterminals : ∀ x, x ∈ sumsByLeftSide.nonterminals ↔ x ∈ sumsByItem.nonterminals := by
    simp [sumsByLeftSide, sumsByItem, or_comm]
  have into : ∀ p ∈ sumsByLeftSide.productions, p ∈ sumsByItem.productions := by decide
  have back : ∀ p ∈ sumsByItem.productions, p ∈ sumsByLeftSide.productions := by decide
  have isLL1 : sums.table.isLL1 = true := decide_eq_true sumsParser.conflicts_eq
  have ordered : ∀ p ∈ sumsByLeftSide.productions, ∀ q ∈ sumsByLeftSide.productions,
      p.lhs = q.lhs →
        (sumsByLeftSide.productions.idxOf p < sumsByLeftSide.productions.idxOf q ↔
          sumsByItem.productions.idxOf p < sumsByItem.productions.idxOf q) := by decide
  obtain ⟨_, _, clean, inOrder⟩ :=
    declaration_order_is_immaterial one other terminals nonterminals rfl
      (fun p => ⟨into p, back p⟩)
  exact ⟨one, h, other, terminals, nonterminals, rfl, fun p => ⟨into p, back p⟩, isLL1,
    (clean isLL1).2.2, ordered, (inOrder ordered).1⟩

end Parser

end Predictive
