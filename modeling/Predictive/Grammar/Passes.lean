import Predictive.Grammar.Follow

/-!
# Passes as they run

A pass goes through the productions one by one and through the symbols of each. Every set
that is read must be there. What is added is seen by whatever is read next, also where a set
is read while it grows. A step has changed something when the set that it adds to is of
another size behind the step, and passes are made until none of their steps has.
-/

namespace Predictive

namespace Finite

universe u v w
variable {α : Type u} {β : Type v} {ε : Type w}

/-- A step behind another one. Together they have changed something if either has. -/
def andThen (first : Except ε (α × Bool)) (next : α → Except ε (α × Bool)) :
    Except ε (α × Bool) :=
  match first with
  | .error e => .error e
  | .ok (s, changed) =>
    match next s with
    | .error e => .error e
    | .ok (t, later) => .ok (t, changed || later)

/-- A step for each element of a list, one behind the other. -/
def passOver (step : α → β → Except ε (α × Bool)) : List β → α → Except ε (α × Bool)
  | [], s => .ok (s, false)
  | x :: rest, s => andThen (step s x) (passOver step rest)

/-- Passes are made until one changes nothing: where they begin, their number, and where
they end. -/
inductive Repeats (pass : α → Except ε (α × Bool)) : α → Nat → α → Prop where
  | last {s t : α} (stops : pass s = .ok (t, false)) : Repeats pass s 1 t
  | again {s t last : α} {n : Nat} (changes : pass s = .ok (t, true))
      (others : Repeats pass t n last) : Repeats pass s (n + 1) last

end Finite

namespace Grammar

/-- FIRST of each symbol of a right side joins the set of the left side at once, up to the
first symbol that does not derive the empty string; behind all of them `ε` joins it. -/
def firstAlong (lhs : Symbol) : List Symbol → SymbolSets → Except UnknownName SymbolSets
  | [], first => .ok (first.extend lhs [epsilon])
  | x :: rest, first =>
    match first.get? x with
    | none => .error (.noFirst x)
    | some set =>
      if epsilon ∈ set then
        firstAlong lhs rest (first.extend lhs (Finite.without set [epsilon]))
      else .ok (first.extend lhs (Finite.without set [epsilon]))

/-- The turn of a production. -/
def firstTurn (first : SymbolSets) (p : Production) : Except UnknownName (SymbolSets × Bool) :=
  match first.get? p.lhs with
  | none => .error (.noFirst p.lhs)
  | some before =>
    match firstAlong p.lhs p.rhs first with
    | .error unknown => .error unknown
    | .ok grown => .ok (grown, decide ((grown.get p.lhs).length ≠ before.length))

/-- One pass of FIRST over all productions. -/
def firstPass? (g : Grammar) (first : SymbolSets) : Except UnknownName (SymbolSets × Bool) :=
  Finite.passOver firstTurn g.allProductions first

/-- The turn of a symbol in a body, in front of the rest of the body. Symbols without a set
are passed over. -/
def followTurn (first : SymbolSets) (lhs x : Symbol) (rest : List Symbol) (follow : SymbolSets) :
    Except UnknownName (SymbolSets × Bool) :=
  match follow.get? x with
  | none => .ok (follow, false)
  | some before =>
    match first.sequence? rest with
    | .error unknown => .error unknown
    | .ok ahead =>
      let grown := follow.extend x (Finite.without ahead [epsilon])
      if epsilon ∈ ahead then
        match grown.get? lhs with
        | none => .error (.noFollow lhs)
        | some behind =>
          .ok (grown.extend x behind,
            decide (((grown.extend x behind).get x).length ≠ before.length))
      else .ok (grown, decide ((grown.get x).length ≠ before.length))

/-- The turns of the symbols of a body, from left to right. -/
def followAlong (first : SymbolSets) (lhs : Symbol) :
    List Symbol → SymbolSets → Except UnknownName (SymbolSets × Bool)
  | [], follow => .ok (follow, false)
  | x :: rest, follow =>
    Finite.andThen (followTurn first lhs x rest follow) (followAlong first lhs rest)

/-- One pass of FOLLOW over all productions. -/
def followPass? (g : Grammar) (first follow : SymbolSets) :
    Except UnknownName (SymbolSets × Bool) :=
  Finite.passOver (fun follow p => followAlong first p.lhs p.body follow) g.allProductions follow

end Grammar

end Predictive
