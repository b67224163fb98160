import Predictive.Proofs.LeftmostDerivations
import Predictive.Proofs.ParserLoop

/-!
# Left recursion

A nonterminal is left recursive when it derives, in one or more steps, a string
that begins with it. Nothing in the construction of a table looks for this. But
take a terminal that the nonterminal can begin with as the lookahead. In a table
without conflicts the cells along the way from the nonterminal back to it hold the
productions of that way, for each of them can begin with the lookahead too. So the
nonterminal comes to the top again before the lookahead does, and the replacements
would nest without end, while a table without conflicts bounds their depth.

A left-recursive nonterminal that derives a word other than the empty one is
therefore a conflict, however the recursion is hidden.
-/

namespace Predictive

namespace Grammar

variable {g : Grammar} {x : Symbol}

/-- The nonterminal derives, in one or more steps, a string that begins with it. -/
def LeftRecursive (g : Grammar) (x : Symbol) : Prop :=
  ∃ u rest, g.Step [x] u ∧ g.Derives u (x :: rest)

/-- A left-recursive nonterminal has a production that brings it back. -/
theorem leftRecursive_iff :
    g.LeftRecursive x ↔ ∃ q ∈ g.rules, q.lhs = x ∧ g.Begins x q.body := by
  constructor
  · rintro ⟨u, rest, one, steps⟩
    obtain ⟨q, member, same, rfl⟩ := one.of_singleton
    exact ⟨q, member, same, begins_iff.mpr ⟨rest, steps⟩⟩
  · rintro ⟨q, member, rfl, begins⟩
    obtain ⟨rest, steps⟩ := begins_iff.mp begins
    refine ⟨q.body, rest, ?_, steps⟩
    simpa using Step.apply [] [] member

end Grammar

namespace Parser

variable {p : Parser} {a x : Symbol} {depth : Nat} {u : List Symbol} {q : Production}

/-- Let a string at the end of a body begin with a symbol, and the symbol with the
lookahead. Where the string brings the lookahead to the top, it is by way of that
symbol, at no greater depth: what stands in front of it vanishes, and what is
replaced by it has no other production to be replaced by. -/
theorem Leads.reaches_front (leads : p.Leads a depth u) (terminal : a ∈ p.grammar.terminals)
    (first : p.grammar.Begins a [x]) (begins : p.grammar.Begins x u)
    (member : q ∈ p.grammar.rules) {before : List Symbol} (body : q.body = before ++ u) :
    p.Reaches a depth x := by
  induction begins generalizing depth q before with
  | here rest =>
    rcases leads_cons.mp leads with reaches | ⟨clears, _⟩
    · exact reaches
    · exact absurd first (clears.not_begins terminal)
  | @into q' rest innerMember innerBegins inductionHypothesis =>
    have inBody : p.grammar.Begins a q'.body := innerBegins.trans first
    rcases leads_cons.mp leads with reaches | ⟨clears, _⟩
    · have cell := cell?_of_begins terminal innerMember inBody
      obtain ⟨inner, rfl, innerLeads⟩ := (reaches_iff_leads cell).mp reaches
      exact (inductionHypothesis innerLeads innerMember (List.nil_append _).symm).succ
    · exact absurd (.into innerMember inBody) (clears.not_begins terminal)
  | @past y rest gone restBegins inductionHypothesis =>
    have behind : q.body = (before ++ [y]) ++ rest := by simpa using body
    rcases leads_cons.mp leads with reaches | ⟨_, others⟩
    · -- The symbol in front has the lookahead behind it, so it vanishes under it.
      obtain ⟨other, clears⟩ :=
        clears_of_begins_behind terminal member body gone (restBegins.trans first)
      exact absurd reaches (clears.not_reaches (Or.inl terminal))
    · exact inductionHypothesis others member behind

/-- A nonterminal with a production that brings it back does not bring a lookahead
that it begins with to the top: it would have to do so at a smaller depth already. -/
theorem not_reaches_of_returns (terminal : a ∈ p.grammar.terminals)
    (member : q ∈ p.grammar.rules) (returns : p.grammar.Begins q.lhs q.body)
    (first : p.grammar.Begins a [q.lhs]) (depth : Nat) : ¬ p.Reaches a depth q.lhs := by
  have cell := cell?_of_begins terminal member (returns.trans first)
  induction depth with
  | zero =>
    intro reaches
    obtain ⟨_, impossible, _⟩ := (reaches_iff_leads cell).mp reaches
    omega
  | succ depth inductionHypothesis =>
    intro reaches
    obtain ⟨inner, same, leads⟩ := (reaches_iff_leads cell).mp reaches
    obtain rfl : depth = inner := Nat.succ.inj same
    exact inductionHypothesis
      (leads.reaches_front terminal first returns member (List.nil_append _).symm)

/-- No parser has a left-recursive nonterminal that can begin with a terminal. -/
theorem not_leftRecursive (canBegin : p.grammar.CanBegin [x] a) :
    ¬ p.grammar.LeftRecursive x := by
  intro recursive
  obtain ⟨q, member, rfl, returns⟩ := Grammar.leftRecursive_iff.mp recursive
  obtain ⟨terminal, first⟩ := Grammar.canBegin_iff.mp canBegin
  obtain ⟨depth, reaches⟩ := reaches_of_begins terminal first
  exact not_reaches_of_returns terminal member returns first depth reaches

/-- If a left-recursive nonterminal derives a word other than the empty one, the
table of the grammar has conflicts. The strict construction of the table, that of
the parser, and that of a parser from a declaration all refuse with them. -/
theorem left_recursion_is_refused {g : Grammar} {x : Symbol} {w : List Symbol}
    (recursive : g.LeftRecursive x) (word : g.IsWord w) (filled : w ≠ [])
    (steps : g.Derives [x] w) :
    g.table.conflicts ≠ [] ∧ g.table? = .error g.table.conflicts ∧
      ofGrammar? g = .error g.table.conflicts ∧
      ∀ d, Grammar.ofDeclaration? d = .ok g →
        ofDeclaration? d = .error (.notLL1 g.table.conflicts) := by
  have met : g.table.conflicts ≠ [] := by
    intro clean
    obtain ⟨p, rfl⟩ := exists_grammar_eq clean
    obtain ⟨t, rest, rfl⟩ := List.exists_cons_of_ne_nil filled
    exact not_leftRecursive ⟨word t List.mem_cons_self, rest, steps⟩ recursive
  have refused := ofGrammar?_of_conflicts met
  refine ⟨met, ?_, refused, ?_⟩
  · simp [Grammar.table?, Table.isLL1, met]
  · intro d valid
    simp only [ofDeclaration?, valid, refused]
    rfl

/-- The tangle, declared by its productions. -/
def tangleDeclared : Declaration where
  terminals := ["x", "y"]
  nonterminals := ["A", "S", "U"]
  rules := .listing (Grammar.tangle.rules.map .production)
  start := "S"

/-- In the tangle the recursion of `S` is hidden behind the vanishing `A`, and `S`
derives `y`. -/
theorem tangle_is_refused : Grammar.tangle.LeftRecursive "S" ∧ Grammar.tangle.IsWord ["y"] ∧
    Grammar.tangle.Derives ["S"] ["y"] ∧
    Grammar.ofDeclaration? tangleDeclared = .ok Grammar.tangle ∧
    Grammar.tangle.table.conflicts ≠ [] ∧
    ofDeclaration? tangleDeclared = .error (.notLL1 Grammar.tangle.table.conflicts) := by
  have returns : Grammar.tangle.Begins "S" ["A", "S", "x"] :=
    .past (.cons (p := ⟨"A", [epsilon]⟩) (by decide) .nil .nil) (.here ["x"])
  have recursive : Grammar.tangle.LeftRecursive "S" :=
    Grammar.leftRecursive_iff.mpr ⟨⟨"S", ["A", "S", "x"]⟩, by decide, rfl, returns⟩
  have word : Grammar.tangle.IsWord ["y"] := by
    unfold Grammar.IsWord
    decide
  have steps : Grammar.tangle.Derives ["S"] ["y"] :=
    Grammar.Derives.of_mem (p := ⟨"S", ["y"]⟩) (by decide)
  have valid : Grammar.ofDeclaration? tangleDeclared = .ok Grammar.tangle := rfl
  obtain ⟨met, _, _, refused⟩ :=
    left_recursion_is_refused recursive word (List.cons_ne_nil _ _) steps
  exact ⟨recursive, word, steps, valid, met, refused tangleDeclared valid⟩

end Parser

end Predictive
