import Predictive.Finite.Distinct
import Predictive.Finite.Ordered

/-!
# Symbols and their fixed order

Terminals and nonterminals share one space of names; a grammar decides which
name is which. Two names are reserved: `ε` stands for the empty body and `$`
for the end of input.

Every listing of symbols, in tables, messages and reports, uses one order:
terminals by name, `$`, nonterminals by name, `ε`, and then all other names by
name. The order is fixed once and never changes afterwards.
-/

namespace Predictive

/-- A grammar symbol is its name. -/
abbrev Symbol := String

/-- The mark of an empty body; it only ever stands alone. -/
def epsilon : Symbol := "ε"

/-- The end of input, and the bottom of the parser's stack. -/
def endMarker : Symbol := "$"

/-- The reserved names, by name. -/
def reserved : List Symbol := [endMarker, epsilon]

/-- Names compare by code points. -/
def nameLe (a b : Symbol) : Bool := decide (a ≤ b)

/-- A list of names by name, repetitions kept. -/
def byName (names : List Symbol) : List Symbol := Finite.ordered nameLe names

/-- A set of names by name. -/
def nameSet (names : List Symbol) : List Symbol := byName (Finite.distinct names)

theorem mem_byName {names : List Symbol} {x : Symbol} : x ∈ byName names ↔ x ∈ names :=
  Finite.mem_ordered

theorem mem_nameSet {names : List Symbol} {x : Symbol} : x ∈ nameSet names ↔ x ∈ names := by
  rw [nameSet, mem_byName, Finite.mem_distinct]

theorem nameSet_nodup (names : List Symbol) : (nameSet names).Nodup :=
  Finite.ordered_nodup (Finite.distinct_nodup names)

theorem nameLe_total (a b : Symbol) : nameLe a b = true ∨ nameLe b a = true := by
  simpa [nameLe] using String.le_total a b

theorem nameLe_trans (a b c : Symbol) (first : nameLe a b = true) (second : nameLe b c = true) :
    nameLe a c = true := by
  simp only [nameLe, decide_eq_true_eq] at *
  exact String.le_trans first second

theorem nameLe_antisymm {a b : Symbol} (below : nameLe a b = true) (above : nameLe b a = true) :
    a = b := by
  simp only [nameLe, decide_eq_true_eq] at below above
  exact String.le_antisymm below above

theorem byName_pairwise (names : List Symbol) :
    (byName names).Pairwise (fun a b => nameLe a b = true) :=
  Finite.ordered_pairwise nameLe_total nameLe_trans names

/-- A fixed sequence of names. An order that has not been fixed yet lists none. -/
structure SymbolOrder where
  listed : Option (List Symbol) := none

namespace SymbolOrder

/-- The sequence in which declared symbols are listed. -/
def sequenceOf (terminals nonterminals : List Symbol) : List Symbol :=
  byName terminals ++ endMarker :: byName nonterminals ++ [epsilon]

/-- Fix the order for the first time; later attempts change nothing. -/
def fix (order : SymbolOrder) (terminals nonterminals : List Symbol) : SymbolOrder :=
  match order.listed with
  | some _ => order
  | none => ⟨some (sequenceOf terminals nonterminals)⟩

/-- The order of declared terminals and nonterminals. -/
def declared (terminals nonterminals : List Symbol) : SymbolOrder :=
  fix {} terminals nonterminals

/-- The names of the fixed sequence. -/
def names (order : SymbolOrder) : List Symbol := order.listed.getD []

/-- The last position of a name in a sequence. -/
def lastIndex? (name : Symbol) : List Symbol → Option Nat
  | [] => none
  | x :: rest =>
    match lastIndex? name rest with
    | some i => some (i + 1)
    | none => if x = name then some 0 else none

/-- A listed name ranks by its last position. Every other name ranks by the
number of listed names. -/
def rank (order : SymbolOrder) (name : Symbol) : Nat :=
  (lastIndex? name order.names).getD (Finite.distinct order.names).length

/-- Names compare by rank, and by code points where the rank is the same. -/
def le (order : SymbolOrder) (a b : Symbol) : Bool :=
  order.rank a < order.rank b || (order.rank a == order.rank b && nameLe a b)

/-- List names in the fixed order, repetitions kept. -/
def arrange (order : SymbolOrder) (names : List Symbol) : List Symbol :=
  Finite.ordered order.le names

theorem mem_arrange {order : SymbolOrder} {names : List Symbol} {x : Symbol} :
    x ∈ order.arrange names ↔ x ∈ names :=
  Finite.mem_ordered

theorem arrange_nodup {order : SymbolOrder} {names : List Symbol} (unique : names.Nodup) :
    (order.arrange names).Nodup :=
  Finite.ordered_nodup unique

theorem le_total (order : SymbolOrder) (a b : Symbol) :
    order.le a b = true ∨ order.le b a = true := by
  simp only [le, Bool.or_eq_true, Bool.and_eq_true, decide_eq_true_eq, beq_iff_eq]
  rcases Nat.lt_trichotomy (order.rank a) (order.rank b) with below | same | above
  · exact Or.inl (Or.inl below)
  · rcases nameLe_total a b with first | second
    · exact Or.inl (Or.inr ⟨same, first⟩)
    · exact Or.inr (Or.inr ⟨same.symm, second⟩)
  · exact Or.inr (Or.inl above)

theorem le_trans (order : SymbolOrder) (a b c : Symbol) (first : order.le a b = true)
    (second : order.le b c = true) : order.le a c = true := by
  simp only [le, Bool.or_eq_true, Bool.and_eq_true, decide_eq_true_eq, beq_iff_eq] at *
  rcases first with below | ⟨same, names⟩
  · rcases second with lower | ⟨equal, _⟩ <;> exact Or.inl (by omega)
  · rcases second with lower | ⟨equal, later⟩
    · exact Or.inl (by omega)
    · exact Or.inr ⟨same.trans equal, nameLe_trans a b c names later⟩

theorem arrange_pairwise (order : SymbolOrder) (names : List Symbol) :
    (order.arrange names).Pairwise (fun a b => order.le a b = true) :=
  Finite.ordered_pairwise order.le_total order.le_trans names

end SymbolOrder

end Predictive
