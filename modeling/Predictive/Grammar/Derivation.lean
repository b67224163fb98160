import Predictive.Grammar.Basic

/-!
# Derivations

A derivation step puts the body of a production in place of its left side,
anywhere in a string of symbols; a leftmost step does so where only terminals
stand in front. `Generates` is membership in the language of a grammar. The
remaining predicates say in terms of derivations alone what FIRST, FOLLOW and
the cells of a predictive table stand for.

Derivations of a concatenation split into derivations of its parts, and a
derivation may be carried out inside any surrounding string.
-/

namespace Predictive.Grammar

/-- A production of the grammar is applied at one place. -/
inductive Step (g : Grammar) : List Symbol → List Symbol → Prop where
  | apply (before after : List Symbol) {p : Production} (member : p ∈ g.rules) :
      Step g (before ++ p.lhs :: after) (before ++ (p.body ++ after))

/-- Any number of steps, one behind the other. -/
inductive Derives (g : Grammar) : List Symbol → List Symbol → Prop where
  | refl (u : List Symbol) : Derives g u u
  | step {u v w : List Symbol} (first : Step g u v) (rest : Derives g v w) : Derives g u w

/-- Only terminals. -/
def IsWord (g : Grammar) (w : List Symbol) : Prop := ∀ t ∈ w, t ∈ g.terminals

/-- A word that the start symbol derives. -/
def Generates (g : Grammar) (w : List Symbol) : Prop := g.IsWord w ∧ g.Derives [g.start] w

/-- Productions applied one after another, each to the leftmost nonterminal. -/
inductive LeftmostDerives (g : Grammar) : List Production → List Symbol → List Symbol → Prop where
  | refl (u : List Symbol) : LeftmostDerives g [] u u
  | step {before after w : List Symbol} {p : Production} {later : List Production}
      (word : g.IsWord before) (member : p ∈ g.rules)
      (rest : LeftmostDerives g later (before ++ (p.body ++ after)) w) :
      LeftmostDerives g (p :: later) (before ++ p.lhs :: after) w

/-- A string derives the empty string. -/
def DerivesEmpty (g : Grammar) (u : List Symbol) : Prop := g.Derives u []

/-- A string derives one that begins with a terminal. -/
def CanBegin (g : Grammar) (u : List Symbol) (t : Symbol) : Prop :=
  t ∈ g.terminals ∧ ∃ rest, g.Derives u (t :: rest)

/-- A terminal can stand right behind a nonterminal in a string that some
nonterminal derives. -/
def CanFollow (g : Grammar) (b t : Symbol) : Prop :=
  t ∈ g.terminals ∧
    ∃ c ∈ g.nonterminals, ∃ before after, g.Derives [c] (before ++ b :: t :: after)

/-- A nonterminal can stand last in a string that the start symbol derives. -/
def CanEnd (g : Grammar) (b : Symbol) : Prop := ∃ before, g.Derives [g.start] (before ++ [b])

/-- A production is the one to try under a lookahead: its body can begin with it,
or derives the empty string while the left side can be followed by it. -/
def Predicts (g : Grammar) (p : Production) (lookahead : Symbol) : Prop :=
  g.CanBegin p.body lookahead ∨
    g.DerivesEmpty p.body ∧
      (g.CanFollow p.lhs lookahead ∨ lookahead = endMarker ∧ g.CanEnd p.lhs)

variable {g : Grammar} {u v w : List Symbol}

namespace Derives

theorem trans (first : g.Derives u v) (second : g.Derives v w) : g.Derives u w := by
  induction first with
  | refl _ => exact second
  | step one _ inductionHypothesis => exact .step one (inductionHypothesis second)

/-- One production, alone. -/
theorem of_mem {p : Production} (member : p ∈ g.rules) : g.Derives [p.lhs] p.body := by
  have one := Step.apply [] [] member
  simp only [List.nil_append, List.append_nil] at one
  exact .step one (.refl _)

end Derives

/-- A step inside a surrounding string. -/
theorem Step.surround (one : g.Step u v) (before after : List Symbol) :
    g.Step (before ++ (u ++ after)) (before ++ (v ++ after)) := by
  cases one with
  | apply inner outer member =>
    have moved := Step.apply (before ++ inner) (outer ++ after) member
    simpa only [List.append_assoc, List.cons_append] using moved

namespace Derives

/-- A derivation inside a surrounding string. -/
theorem surround (steps : g.Derives u v) (before after : List Symbol) :
    g.Derives (before ++ (u ++ after)) (before ++ (v ++ after)) := by
  induction steps with
  | refl _ => exact .refl _
  | step one _ inductionHypothesis => exact .step (one.surround before after) inductionHypothesis

/-- Parts derive their concatenation. -/
theorem append {u' v' : List Symbol} (first : g.Derives u v) (second : g.Derives u' v') :
    g.Derives (u ++ u') (v ++ v') := by
  have left := first.surround [] u'
  have right := second.surround v []
  simp only [List.nil_append, List.append_nil] at left right
  exact left.trans right

end Derives

/-- An occurrence in a concatenation lies in its first part or in its second one. -/
theorem occurrence_of_append {before after : List Symbol} {x : Symbol}
    (same : u ++ v = before ++ x :: after) :
    (∃ rest, u = before ++ x :: rest ∧ after = rest ++ v) ∨
      ∃ rest, before = u ++ rest ∧ v = rest ++ x :: after := by
  rcases List.append_eq_append_iff.mp same with ⟨inner, inBefore, inV⟩ | ⟨inner, inU, inRest⟩
  · exact Or.inr ⟨inner, inBefore, inV⟩
  · cases inner with
    | nil =>
      -- The occurrence opens the second part.
      refine Or.inr ⟨[], ?_, ?_⟩
      · simpa using inU.symm
      · simpa using inRest.symm
    | cons y inner =>
      obtain ⟨rfl, inAfter⟩ := List.cons.inj inRest
      exact Or.inl ⟨inner, inU, inAfter⟩

/-- A step in a concatenation takes place in one of its parts. -/
theorem Step.of_append {parts : List Symbol} (one : g.Step parts w) :
    ∀ {u v : List Symbol}, parts = u ++ v →
      (∃ u', g.Step u u' ∧ w = u' ++ v) ∨ (∃ v', g.Step v v' ∧ w = u ++ v') := by
  cases one with
  | apply before after member =>
    intro u v same
    rcases occurrence_of_append same.symm with ⟨rest, inU, inAfter⟩ | ⟨rest, inBefore, inV⟩
    · subst inU inAfter
      refine Or.inl ⟨_, Step.apply before rest member, ?_⟩
      simp
    · subst inBefore inV
      refine Or.inr ⟨_, Step.apply rest after member, ?_⟩
      simp

/-- A derivation of a concatenation splits into derivations of its parts. -/
theorem Derives.of_append {parts : List Symbol} (steps : g.Derives parts w) :
    ∀ {u v : List Symbol}, parts = u ++ v →
      ∃ u' v', w = u' ++ v' ∧ g.Derives u u' ∧ g.Derives v v' := by
  induction steps with
  | refl _ => exact fun same => ⟨_, _, same, .refl _, .refl _⟩
  | step one _ inductionHypothesis =>
    intro u v same
    rcases one.of_append same with ⟨u₁, inU, joined⟩ | ⟨v₁, inV, joined⟩
    · obtain ⟨u', v', split, left, right⟩ := inductionHypothesis joined
      exact ⟨u', v', split, .step inU left, right⟩
    · obtain ⟨u', v', split, left, right⟩ := inductionHypothesis joined
      exact ⟨u', v', split, left, .step inV right⟩

/-- No left side stands in a word, so a word derives nothing else. -/
theorem Derives.eq_of_isWord (steps : g.Derives u v) (word : g.IsWord u) : v = u := by
  cases steps with
  | refl _ => rfl
  | step one _ =>
    cases one with
    | apply before after member =>
      have declared := g.lhs_declared _ member
      exact absurd declared (g.disjoint _ (word _ (by simp)))

/-- A leftmost derivation is a derivation. -/
theorem LeftmostDerives.derives {applied : List Production}
    (steps : g.LeftmostDerives applied u v) : g.Derives u v := by
  induction steps with
  | refl _ => exact .refl _
  | step _ member _ inductionHypothesis => exact .step (.apply _ _ member) inductionHypothesis

end Predictive.Grammar
