import Predictive.Symbol

/-!
# Productions

A production puts its right side in place of its left side. The empty body is
written as the lone mark `ε`; `Production.of` brings a body into that form, and
`body` gives the symbols that a derivation puts in place of the left side.
-/

namespace Predictive

/-- One rule of a grammar, as written. -/
structure Production where
  lhs : Symbol
  rhs : List Symbol
deriving DecidableEq

namespace Production

/-- A production whose empty body is written as `ε`. -/
def of (lhs : Symbol) (rhs : List Symbol) : Production :=
  ⟨lhs, if rhs = [] then [epsilon] else rhs⟩

/-- The right side is the lone `ε`. -/
def isEpsilon (p : Production) : Bool := p.rhs == [epsilon]

/-- The symbols that replace the left side. -/
def body (p : Production) : List Symbol := if p.isEpsilon then [] else p.rhs

/-- A production in messages and reports. -/
def shown (p : Production) : String := p.lhs ++ " -> " ++ " ".intercalate p.rhs

theorem of_rhs_ne_nil (lhs : Symbol) (rhs : List Symbol) : (of lhs rhs).rhs ≠ [] := by
  unfold of
  split <;> simp [*]

/-- Bringing a production into normal form twice is the same as once. -/
theorem of_of (lhs : Symbol) (rhs : List Symbol) : of lhs (of lhs rhs).rhs = of lhs rhs := by
  unfold of
  split <;> simp [*]

theorem body_eq_nil_of_isEpsilon {p : Production} (empty : p.isEpsilon = true) : p.body = [] := by
  simp [body, empty]

theorem body_eq_rhs_of_not_isEpsilon {p : Production} (filled : p.isEpsilon = false) :
    p.body = p.rhs := by
  simp [body, filled]

end Production

end Predictive
