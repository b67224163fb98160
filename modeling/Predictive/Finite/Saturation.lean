/-!
# Saturation

A pass over a finite structure is repeated until it changes nothing. Fuel
counts whole passes. An answer that a pass leaves alone is a fixed point; when
the fuel bounds the number of growing passes, every answer is one.
-/

namespace Predictive.Finite

universe u
variable {α : Type u} [DecidableEq α]

/-- Repeat a pass until it changes nothing, for at most the given number of
passes. -/
def saturate (pass : α → α) : Nat → α → α
  | 0, state => state
  | fuel + 1, state => if pass state = state then state else saturate pass fuel (pass state)

/-- What every pass keeps, the saturation keeps. -/
theorem saturate_invariant {pass : α → α} {P : α → Prop}
    (kept : ∀ state, P state → P (pass state)) (fuel : Nat) {state : α} (holds : P state) :
    P (saturate pass fuel state) := by
  induction fuel generalizing state with
  | zero => exact holds
  | succ fuel inductionHypothesis =>
    unfold saturate
    split
    · exact holds
    · exact inductionHypothesis (kept state holds)

/-- If every changing pass makes a measure grow and the measure has a bound,
enough fuel reaches a fixed point. -/
theorem saturate_fixed {pass : α → α} {P : α → Prop} {measure : α → Nat} {bound : Nat}
    (kept : ∀ state, P state → P (pass state))
    (bounded : ∀ state, P state → measure state ≤ bound)
    (grows : ∀ state, P state → pass state ≠ state → measure state < measure (pass state))
    (fuel : Nat) {state : α} (holds : P state) (enough : bound < measure state + fuel) :
    pass (saturate pass fuel state) = saturate pass fuel state := by
  induction fuel generalizing state with
  | zero =>
    have below := bounded state holds
    omega
  | succ fuel inductionHypothesis =>
    unfold saturate
    split
    · assumption
    · rename_i changed
      refine inductionHypothesis (kept state holds) ?_
      have more := grows state holds changed
      omega

end Predictive.Finite
