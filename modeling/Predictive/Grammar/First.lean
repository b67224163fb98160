import Predictive.Grammar.Basic
import Predictive.Grammar.SymbolSets
import Predictive.Finite.Saturation

/-!
# FIRST sets

FIRST of a symbol holds the terminals that a string derived from it can begin
with, and `ε` when it derives the empty string. Terminals and `ε` start with
themselves in their set and nonterminals with nothing. A pass goes through all
productions in order and adds FIRST of each right side to its left side at
once, so later productions of the same pass read it. Passes repeat until one
changes nothing; each set stays within the terminals and `ε`, which bounds
their number on every grammar, left-recursive ones included.
-/

namespace Predictive

namespace SymbolSets

/-- FIRST of a sequence under a family of FIRST sets: the sets of its symbols
without `ε`, up to the first symbol that does not derive the empty string. -/
def ofSequence (first : SymbolSets) : List Symbol → List Symbol
  | [] => [epsilon]
  | x :: rest =>
    if epsilon ∈ first.get x then
      Finite.adjoinAll (Finite.without (first.get x) [epsilon]) (first.ofSequence rest)
    else Finite.without (first.get x) [epsilon]

end SymbolSets

namespace Grammar

/-- The sets before the first pass. -/
def firstSeed (g : Grammar) : SymbolSets :=
  g.terminals.map (fun t => (t, [t])) ++ (epsilon, [epsilon]) ::
    g.nonterminals.map (fun a => (a, []))

/-- One production adds FIRST of its right side to its left side. -/
def firstStep (first : SymbolSets) (p : Production) : SymbolSets :=
  first.extend p.lhs (first.ofSequence p.rhs)

/-- One pass over all productions. -/
def firstPass (g : Grammar) (first : SymbolSets) : SymbolSets :=
  g.allProductions.foldl firstStep first

/-- A bound on the number of passes: every pass but the last puts a new terminal
or mark into the set of some nonterminal. -/
def passBound (g : Grammar) : Nat := g.nonterminals.length * (g.terminals.length + 1) + 1

/-- The FIRST sets of all terminals, of `ε` and of all nonterminals. -/
def first (g : Grammar) : SymbolSets := Finite.saturate g.firstPass g.passBound g.firstSeed

end Grammar

namespace SymbolSets

/-- FIRST of a name, which must be known. -/
def first? (first : SymbolSets) (x : Symbol) : Except UnknownName (List Symbol) :=
  match first.get? x with
  | some set => .ok set
  | none => .error (.noFirst x)

/-- FIRST of a sequence. Every symbol that is read must be known; symbols behind
one that does not derive the empty string are not read. -/
def sequence? (first : SymbolSets) : List Symbol → Except UnknownName (List Symbol)
  | [] => .ok [epsilon]
  | x :: rest =>
    match first.get? x with
    | none => .error (.noFirst x)
    | some set =>
      if epsilon ∈ set then
        match first.sequence? rest with
        | .ok others => .ok (Finite.adjoinAll (Finite.without set [epsilon]) others)
        | .error unknown => .error unknown
      else .ok (Finite.without set [epsilon])

/-- A known name derives the empty string. -/
def nullable? (first : SymbolSets) (x : Symbol) : Except UnknownName Bool :=
  match first.get? x with
  | some set => .ok (epsilon ∈ set)
  | none => .error (.noFirst x)

/-- FOLLOW of a name, which must be a nonterminal. -/
def follow? (follow : SymbolSets) (x : Symbol) : Except UnknownName (List Symbol) :=
  match follow.get? x with
  | some set => .ok set
  | none => .error (.noFollow x)

/-- Over known symbols the answer is FIRST of the sequence. -/
theorem sequence?_eq_ok (first : SymbolSets) {xs : List Symbol}
    (known : ∀ x ∈ xs, x ∈ first.keys) : first.sequence? xs = .ok (first.ofSequence xs) := by
  induction xs with
  | nil => rfl
  | cons x rest inductionHypothesis =>
    have present := (first.get?_isSome_iff x).mpr (known x List.mem_cons_self)
    obtain ⟨set, found⟩ := Option.isSome_iff_exists.mp present
    have tail := inductionHypothesis (fun y member => known y (List.mem_cons_of_mem x member))
    simp only [sequence?, ofSequence, get, found, Option.getD_some, tail]
    split <;> rfl

/-- A known name has an answer: its set. -/
theorem first?_eq_ok {first : SymbolSets} {x : Symbol} (known : x ∈ first.keys) :
    first.first? x = .ok (first.get x) := by
  simp only [first?, get?_eq_some_get known]

theorem nullable?_eq_ok {first : SymbolSets} {x : Symbol} (known : x ∈ first.keys) :
    first.nullable? x = .ok (decide (epsilon ∈ first.get x)) := by
  simp only [nullable?, get?_eq_some_get known]

theorem follow?_eq_ok {follow : SymbolSets} {x : Symbol} (known : x ∈ follow.keys) :
    follow.follow? x = .ok (follow.get x) := by
  simp only [follow?, get?_eq_some_get known]

/-- A question about any other name is refused. -/
theorem first?_eq_error {first : SymbolSets} {x : Symbol} (unknown : x ∉ first.keys) :
    first.first? x = .error (.noFirst x) := by
  simp only [first?, get?_eq_none unknown]

theorem follow?_eq_error {follow : SymbolSets} {x : Symbol} (unknown : x ∉ follow.keys) :
    follow.follow? x = .error (.noFollow x) := by
  simp only [follow?, get?_eq_none unknown]

end SymbolSets

end Predictive
