import Predictive.Grammar.Problem

/-!
# Grammar declarations and their problems

A declaration names terminals, nonterminals and a start symbol and offers
rules, either as a mapping from left sides to bodies or as a list of
productions. Nothing about it is checked yet. `problems` lists every rule that
it breaks, in the order of the checks: the symbol sets, the start symbol, the
form in which rules are offered, each production, and nonterminals left without
any production.
-/

namespace Predictive

open Text (Value)

/-- One body of a mapped left side. A text in place of a body is a mistake. -/
inductive Body where
  | symbols (names : List Symbol)
  | text (value : String)
deriving DecidableEq

/-- All bodies of a mapped left side. A text in their place is a mistake. -/
inductive Bodies where
  | list (bodies : List Body)
  | text (value : String)
deriving DecidableEq

/-- One item of a list of rules. A stray value is a mistake. -/
inductive RuleItem where
  | production (p : Production)
  | stray (value : Value)
deriving DecidableEq

/-- The two forms in which rules are offered. -/
inductive RuleSource where
  | mapping (entries : List (Symbol × Bodies))
  | listing (items : List RuleItem)

/-- A grammar as declared, before any check. -/
structure Declaration where
  terminals : List Symbol
  nonterminals : List Symbol
  rules : RuleSource
  start : Symbol

namespace Declaration

/-- A body offered under a left side gives a production or a problem. -/
def offeredBody (lhs : Symbol) : Body → Problem ⊕ Production
  | .symbols names => .inr (.of lhs names)
  | .text value => .inl (.bodyIsText lhs value)

/-- The bodies offered under a left side, in order. -/
def offeredBodies : Symbol × Bodies → List (Problem ⊕ Production)
  | (lhs, .list bodies) => bodies.map (offeredBody lhs)
  | (lhs, .text value) => [.inl (.bodiesAreText lhs value)]

/-- An item of a list gives a production in normal form or a problem. -/
def offeredItem : RuleItem → Problem ⊕ Production
  | .production p => .inr (.of p.lhs p.rhs)
  | .stray value => .inl (.notAProduction value)

/-- What a source of rules offers, in order. -/
def offered : RuleSource → List (Problem ⊕ Production)
  | .mapping entries => entries.flatMap offeredBodies
  | .listing items => items.map offeredItem

/-- The problem of an offer, if it is one. -/
def offerProblem? : Problem ⊕ Production → Option Problem
  | .inl problem => some problem
  | .inr _ => none

/-- The production of an offer, if it is one. -/
def offerProduction? : Problem ⊕ Production → Option Production
  | .inl _ => none
  | .inr production => some production

/-- The problems in the form of the rules. -/
def formProblems (d : Declaration) : List Problem := (offered d.rules).filterMap offerProblem?

/-- The offered productions in normal form, repetitions kept. -/
def productions (d : Declaration) : List Production :=
  (offered d.rules).filterMap offerProduction?

/-- The declared names that are both terminal and nonterminal. -/
def sharedNames (d : Declaration) : List Symbol :=
  (nameSet d.terminals).filter (· ∈ d.nonterminals)

/-- A reserved name may be neither terminal nor nonterminal. -/
def reservedProblems (d : Declaration) (name : Symbol) : List Problem :=
  (if name ∈ d.terminals then [.reservedTerminal name] else []) ++
    (if name ∈ d.nonterminals then [.reservedNonterminal name] else [])

/-- The problem of one symbol in a right side. -/
def symbolProblems (d : Declaration) (p : Production) (name : Symbol) : List Problem :=
  if name = epsilon then
    if p.rhs.length = 1 then [] else [.epsilonNotAlone p]
  else if name ∈ d.terminals ∨ name ∈ d.nonterminals then []
  else [.symbolNotDeclared p name]

/-- The problems of one production. The body of a production whose left side is
not declared is not looked at. -/
def productionProblems (d : Declaration) (p : Production) : List Problem :=
  if p.lhs ∈ d.nonterminals then p.rhs.flatMap (d.symbolProblems p) else [.leftNotDeclared p]

/-- The nonterminals that stand on the left of no production. -/
def barrenNames (d : Declaration) : List Symbol :=
  (nameSet d.nonterminals).filter
    (fun name => name ∉ reserved ∧ name ∉ d.productions.map Production.lhs)

/-- Every broken rule of the declaration, in the order of the checks. -/
def problems (d : Declaration) : List Problem :=
  (if d.terminals = [] then [.noTerminals] else []) ++
  (if d.nonterminals = [] then [.noNonterminals] else []) ++
  d.sharedNames.map .declaredTwice ++
  reserved.flatMap d.reservedProblems ++
  (if d.start ∈ d.nonterminals then [] else [.startNotDeclared d.start]) ++
  d.formProblems ++
  d.productions.flatMap d.productionProblems ++
  d.barrenNames.map .noProductions

end Declaration

end Predictive
