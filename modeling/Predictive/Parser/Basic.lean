import Predictive.Parser.Error
import Predictive.Token.Source

/-!
# The predictive parser

A parser exists only for a grammar whose table has no conflicts. It keeps a
stack of symbols, the start symbol at first, whose bottom stands for the end of
input. While a nonterminal is on top and the table has a cell for it under the
lookahead, the body of that production replaces it; productions so applied form
a leftmost derivation. A terminal on top is matched against the lookahead and
taken from the source. An empty stack accepts at the end of input. In every
other case the parser reports what it expected to the source and rejects, and
the offending token stays in the source.

Between two tokens the number of expansions of a conflict-free table is bounded
by the height of the stack and the size of the grammar; expansions spend fuel
under that bound, and taking tokens spends fuel under the bound that the source
gives. A run that used up either would end as `unfinished`.
-/

namespace Predictive

/-- A grammar with its analysis, whose table has no conflicts. -/
structure Parser where
  grammar : Grammar
  first : SymbolSets
  follow : SymbolSets
  table : Table
  first_eq : first = grammar.first
  follow_eq : follow = grammar.follow
  table_eq : table = grammar.table
  conflicts_eq : table.conflicts = []

/-- How a run ends. -/
inductive Ending (ε : Type) where
  | accepted
  | rejected (error : ParseError)
  | faulted (fault : ε)
  | unfinished

/-- A run that has ended: the productions applied, in order, the number of
tokens taken, the symbols left on the stack and the source left behind. -/
structure Outcome (σ ε : Type) where
  ending : Ending ε
  applied : List Production
  consumed : Nat
  stack : List Symbol
  source : σ

/-- A run under way, with the token that the source shows. -/
structure Run (σ : Type) where
  stack : List Symbol
  look : Option Token
  source : σ
  applied : List Production := []
  consumed : Nat := 0

/-- End a run where it stands. -/
def Run.finish {σ ε : Type} (r : Run σ) (ending : Ending ε) : Outcome σ ε :=
  ⟨ending, r.applied, r.consumed, r.stack, r.source⟩

namespace Parser

/-- The parser of a grammar; a grammar with conflicts has none. -/
def ofGrammar? (g : Grammar) : Except (List Conflict) Parser :=
  let first := g.first
  let follow := g.followOf first
  let table := g.tableOf first follow
  if free : table.conflicts = [] then
    .ok {
      grammar := g
      first := first
      follow := follow
      table := table
      first_eq := rfl
      follow_eq := rfl
      table_eq := rfl
      conflicts_eq := free }
  else .error table.conflicts

/-- Why a declaration has no parser: it breaks a rule of declarations, or its table
has conflicts. -/
inductive Refusal where
  | grammar (problems : List Problem)
  | notLL1 (conflicts : List Conflict)

/-- The parser of a declaration. It is checked as a grammar first. -/
def ofDeclaration? (d : Declaration) : Except Refusal Parser :=
  match Grammar.ofDeclaration? d with
  | .error problems => .error (.grammar problems)
  | .ok g => (ofGrammar? g).mapError .notLL1

/-- What a lookahead token means to the table: its kind if that is a terminal of
the grammar, `$` at the end of input, and nothing for any other kind. -/
def lookahead (p : Parser) : Option Token → Option Symbol
  | none => some endMarker
  | some t => if p.grammar.isTerminal t.kind then some t.kind else none

/-- The cell of a symbol under a lookahead. A kind that is no terminal has no
cells. -/
def cell? (p : Parser) (x : Symbol) (look : Option Symbol) : Option Production :=
  look.bind (p.table.get? x)

/-- Replace a nonterminal on top of the stack, if it has a cell. -/
def expandTop? (p : Parser) (look : Option Symbol) :
    List Symbol → Option (Production × List Symbol)
  | [] => none
  | x :: rest =>
    if p.grammar.isTerminal x then none
    else (p.cell? x look).map (fun production => (production, production.body ++ rest))

/-- Replace nonterminals on top of the stack for as long as they have cells. The
answer is the stack and the productions applied. -/
def expand (p : Parser) (look : Option Symbol) :
    Nat → List Symbol → List Symbol × List Production
  | 0, stack => (stack, [])
  | fuel + 1, stack =>
    match p.expandTop? look stack with
    | none => (stack, [])
    | some (production, raised) =>
      match p.expand look fuel raised with
      | (settled, later) => (settled, production :: later)

/-- The length of the longest right side. -/
def longestBody (g : Grammar) : Nat :=
  g.rules.foldl (fun longest production => max longest production.rhs.length) 0

/-- A bound on the expansions of a stack under one lookahead. -/
def expansionBound (g : Grammar) (stack : List Symbol) : Nat :=
  (stack.length + 1) * Nat.pow (longestBody g + 2) (g.nonterminals.length + 1)

/-- The rejection of a settled stack under a lookahead. -/
def rejection (p : Parser) (found : Option Token) : List Symbol → ParseError
  | [] => { found := found, reason := .mismatch endMarker }
  | x :: _ =>
    if p.grammar.isTerminal x then { found := found, reason := .mismatch x }
    else
      { found := found
        reason :=
          (if found.isNone then Reason.inputEnded else Reason.noRule)
            { names := p.table.expected x
              nonterminal := some x
              order := some (p.grammar.symbols.arrange (p.table.expected x)) } }

section Running

variable {σ ε : Type} [TokenSource σ ε]

/-- Reject: the source hears the report first and may refuse it. -/
def reject (p : Parser) (r : Run σ) : Outcome σ ε :=
  match TokenSource.report r.source r.look (p.rejection r.look r.stack).expected with
  | (.ok (), source) =>
    { r with source := source }.finish (.rejected (p.rejection r.look r.stack))
  | (.error fault, source) => { r with source := source }.finish (.faulted fault)

/-- Take the lookahead from the source and look at the token behind it. -/
def shift (r : Run σ) (rest : List Symbol) : Run σ ⊕ Outcome σ ε :=
  match TokenSource.next r.source with
  | (.error fault, source) => .inr ({ r with source := source }.finish (.faulted fault))
  | (.ok _, taken) =>
    match TokenSource.peek taken with
    | (.error fault, source) =>
      .inr ({ r with source := source, stack := rest, consumed := r.consumed + 1 }.finish
        (.faulted fault))
    | (.ok look, source) =>
      .inl { r with source := source, stack := rest, look := look, consumed := r.consumed + 1 }

/-- Expand the top of the stack until it is settled. -/
def settle (p : Parser) (r : Run σ) : Run σ :=
  match p.expand (p.lookahead r.look) (expansionBound p.grammar r.stack) r.stack with
  | (stack, later) => { r with stack := stack, applied := r.applied ++ later }

/-- One round: expand, then accept, reject, or take one token and go on. -/
def round (p : Parser) (r : Run σ) : Run σ ⊕ Outcome σ ε :=
  match p.settle r with
  | settled =>
    match settled.stack with
    | [] =>
      if settled.look.isNone then .inr (settled.finish .accepted)
      else .inr (p.reject settled)
    | x :: rest =>
      if p.grammar.isTerminal x then
        if p.lookahead settled.look = some x then shift settled rest
        else .inr (p.reject settled)
      else if (p.cell? x (p.lookahead settled.look)).isSome then
        .inr (settled.finish .unfinished)
      else .inr (p.reject settled)

/-- Rounds follow one another until the run ends. -/
def drive (p : Parser) : Nat → Run σ → Outcome σ ε
  | 0, r => r.finish .unfinished
  | fuel + 1, r =>
    match p.round r with
    | .inl after => p.drive fuel after
    | .inr outcome => outcome

/-- Parse what a source gives. -/
def run (p : Parser) (source : σ) : Outcome σ ε :=
  match TokenSource.peek source with
  | (.error fault, after) => ⟨.faulted fault, [], 0, [p.grammar.start], after⟩
  | (.ok look, after) =>
    p.drive (TokenSource.remaining source + 1)
      { stack := [p.grammar.start], look := look, source := after }

end Running

/-- Parse a list of items. -/
def runItems (p : Parser) (items : List Item) : Outcome ItemStream StreamFault :=
  p.run { items := items }

end Parser

end Predictive
