import Predictive.Grammar.Follow

/-!
# Predictive tables

A cell of the table pairs a nonterminal with a lookahead and holds the
production to apply there. Each production of `a` asks for the cells of `a`
under the terminals that begin its body and, if the body derives the empty
string, under FOLLOW of `a`. The first production that asks for a cell gets it.
A different one that asks later is recorded as a conflict and changes nothing;
the same one may ask twice. A table without conflicts belongs to an LL(1)
grammar.
-/

namespace Predictive

/-- A filled cell. -/
structure Cell where
  nonterminal : Symbol
  lookahead : Symbol
  production : Production
deriving DecidableEq

/-- Two different productions ask for one cell. -/
structure Conflict where
  nonterminal : Symbol
  lookahead : Symbol
  existing : Production
  incoming : Production
deriving DecidableEq

namespace Conflict

/-- One conflict on one line. -/
def shown (c : Conflict) : String :=
  "M[" ++ c.nonterminal ++ ", " ++ c.lookahead ++ "]: " ++ c.existing.shown ++ "  /  " ++
    c.incoming.shown

/-- The refusal of a grammar for its conflicts. -/
def report (conflicts : List Conflict) : String :=
  "grammar is not LL(1): " ++ toString conflicts.length ++ " conflict(s)\n" ++
    "\n".intercalate (conflicts.map ("  " ++ ·.shown))

/-- A list of conflicts, one on each line. -/
def listing (conflicts : List Conflict) : String :=
  if conflicts = [] then "(no conflicts)" else "\n".intercalate (conflicts.map shown)

end Conflict

/-- Cells in the order in which they were filled, and conflicts in the order in
which they were met. -/
structure Table where
  cells : List Cell := []
  conflicts : List Conflict := []
deriving DecidableEq

namespace Table

/-- The production of a cell. -/
def get? (t : Table) (a lookahead : Symbol) : Option Production :=
  (t.cells.find? (fun cell => cell.nonterminal = a ∧ cell.lookahead = lookahead)).map
    Cell.production

/-- A production asks for a cell. -/
def put (t : Table) (cell : Cell) : Table :=
  match t.get? cell.nonterminal cell.lookahead with
  | none => { t with cells := t.cells ++ [cell] }
  | some existing =>
    if existing = cell.production then t
    else
      { t with conflicts := t.conflicts ++
          [⟨cell.nonterminal, cell.lookahead, existing, cell.production⟩] }

/-- No cell is asked for by two productions. -/
def isLL1 (t : Table) : Bool := t.conflicts = []

/-- The lookaheads under which a nonterminal has a cell. -/
def expected (t : Table) (a : Symbol) : List Symbol :=
  (t.cells.filter (fun cell => cell.nonterminal = a)).map Cell.lookahead

/-- The row of a nonterminal: its lookaheads in symbol order with their
productions. -/
def row (t : Table) (order : SymbolOrder) (a : Symbol) : List (Symbol × Production) :=
  (order.arrange (t.expected a)).filterMap
    (fun lookahead => (t.get? a lookahead).map (lookahead, ·))

/-- All rows in symbol order. -/
def rows (t : Table) (order : SymbolOrder) : List (Symbol × List (Symbol × Production)) :=
  (order.arrange (Finite.distinct (t.cells.map Cell.nonterminal))).map
    (fun a => (a, t.row order a))

end Table

namespace Grammar

/-- The lookaheads under which a production asks for a cell: the beginnings of
its body in symbol order, and then FOLLOW if the body derives the empty string. -/
def lookaheads (g : Grammar) (first follow : SymbolSets) (p : Production) : List Symbol :=
  g.symbols.arrange (Finite.without (first.ofSequence p.rhs) [epsilon]) ++
    if epsilon ∈ first.ofSequence p.rhs then g.symbols.arrange (follow.get p.lhs) else []

/-- The cells that the productions ask for, in order. -/
def requests (g : Grammar) (first follow : SymbolSets) : List Cell :=
  g.allProductions.flatMap
    (fun p => (g.lookaheads first follow p).map (fun lookahead => ⟨p.lhs, lookahead, p⟩))

/-- The table that families of FIRST and FOLLOW sets lead to. -/
def tableOf (g : Grammar) (first follow : SymbolSets) : Table :=
  (g.requests first follow).foldl Table.put {}

/-- The predictive table of a grammar, conflicts included. -/
def table (g : Grammar) : Table := g.tableOf g.first g.follow

/-- The predictive table of an LL(1) grammar; any other grammar is refused with
its conflicts. -/
def table? (g : Grammar) : Except (List Conflict) Table :=
  match g.table with
  | t => if t.isLL1 then .ok t else .error t.conflicts

end Grammar

end Predictive
