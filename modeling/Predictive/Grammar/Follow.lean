import Predictive.Grammar.First

/-!
# FOLLOW sets

FOLLOW of a nonterminal holds the terminals that can stand right behind it in a
string derived from some nonterminal, and `$` when it can stand last in a
string derived from the start symbol. A pass goes through every occurrence of a
symbol in every body: what can begin the rest of the body joins its set, and if
the rest derives the empty string, so does FOLLOW of the left side. Symbols
without a set, that is terminals, are passed over.
-/

namespace Predictive

namespace Grammar

/-- The sets before the first pass: only the start symbol has an element, `$`. -/
def followSeed (g : Grammar) : SymbolSets :=
  SymbolSets.extend (g.nonterminals.map (fun a => (a, []))) g.start [endMarker]

/-- What an occurrence followed by `rest` in a body of `lhs` adds to its set. -/
def followOffer (first follow : SymbolSets) (lhs : Symbol) (rest : List Symbol) : List Symbol :=
  Finite.without (first.ofSequence rest) [epsilon] ++
    if epsilon ∈ first.ofSequence rest then follow.get lhs else []

/-- The occurrences in a body add to their sets from left to right. -/
def followBody (first : SymbolSets) (lhs : Symbol) : List Symbol → SymbolSets → SymbolSets
  | [], follow => follow
  | x :: rest, follow =>
    followBody first lhs rest (follow.extend x (followOffer first follow lhs rest))

/-- One production adds to the sets of the nonterminals in its body. -/
def followStep (first follow : SymbolSets) (p : Production) : SymbolSets :=
  followBody first p.lhs p.body follow

/-- One pass over all productions. -/
def followPass (g : Grammar) (first follow : SymbolSets) : SymbolSets :=
  g.allProductions.foldl (followStep first) follow

/-- The FOLLOW sets that a family of FIRST sets leads to. -/
def followOf (g : Grammar) (first : SymbolSets) : SymbolSets :=
  Finite.saturate (g.followPass first) g.passBound g.followSeed

/-- The FOLLOW sets of all nonterminals. -/
def follow (g : Grammar) : SymbolSets := g.followOf g.first

end Grammar

end Predictive
