import Predictive.Grammar.Derivation

/-!
# Vanishing strings and beginnings

Whether a string derives the empty string, and what the strings that it derives
begin with, is decided symbol by symbol. `Vanishes` and `Begins` say so: they
follow the productions into their bodies and read a string from the left, and
say nothing about the order of derivation steps. Both agree with `Derives`, so
a proof about derivations may go by cases on the first symbol of a string.
-/

namespace Predictive.Grammar

/-- Every symbol of the string has a production whose body vanishes. -/
inductive Vanishes (g : Grammar) : List Symbol → Prop where
  | nil : Vanishes g []
  | cons {p : Production} {rest : List Symbol} (member : p ∈ g.rules)
      (body : Vanishes g p.body) (tail : Vanishes g rest) : Vanishes g (p.lhs :: rest)

/-- A symbol comes to the front of the string: it stands there, a production
brings it there, or the symbol in front of it vanishes. -/
inductive Begins (g : Grammar) (t : Symbol) : List Symbol → Prop where
  | here (rest : List Symbol) : Begins g t (t :: rest)
  | into {p : Production} {rest : List Symbol} (member : p ∈ g.rules)
      (body : Begins g t p.body) : Begins g t (p.lhs :: rest)
  | past {x : Symbol} {rest : List Symbol} (gone : Vanishes g [x])
      (tail : Begins g t rest) : Begins g t (x :: rest)

variable {g : Grammar} {u v : List Symbol} {t x : Symbol}

/-- A string vanishes exactly when both of its parts do. -/
theorem vanishes_append : g.Vanishes (u ++ v) ↔ g.Vanishes u ∧ g.Vanishes v := by
  constructor
  · intro both
    generalize joined : u ++ v = whole at both
    induction both generalizing u with
    | nil =>
      obtain ⟨rfl, rfl⟩ := List.append_eq_nil_iff.mp joined
      exact ⟨.nil, .nil⟩
    | @cons p rest member body tail _ tailParts =>
      rcases List.append_eq_cons_iff.mp joined with ⟨rfl, rfl⟩ | ⟨front, rfl, rfl⟩
      · exact ⟨.nil, .cons member body tail⟩
      · obtain ⟨first, second⟩ := tailParts rfl
        exact ⟨.cons member body first, second⟩
  · rintro ⟨first, second⟩
    induction first with
    | nil => exact second
    | cons member body _ _ tailJoined => exact .cons member body tailJoined

theorem vanishes_cons : g.Vanishes (x :: u) ↔ g.Vanishes [x] ∧ g.Vanishes u :=
  vanishes_append (u := [x])

/-- What a concatenation begins with comes from its first part, or from its
second one if the first vanishes. -/
theorem begins_append :
    g.Begins t (u ++ v) ↔ g.Begins t u ∨ g.Vanishes u ∧ g.Begins t v := by
  constructor
  · intro whole
    induction u with
    | nil => exact Or.inr ⟨.nil, whole⟩
    | cons y rest inductionHypothesis =>
      cases whole with
      | here => exact Or.inl (.here rest)
      | into member body => exact Or.inl (.into member body)
      | past gone tail =>
        rcases inductionHypothesis tail with inFirst | ⟨empty, inSecond⟩
        · exact Or.inl (.past gone inFirst)
        · exact Or.inr ⟨vanishes_cons.mpr ⟨gone, empty⟩, inSecond⟩
  · rintro (inFirst | ⟨empty, inSecond⟩)
    · induction inFirst with
      | here rest => exact .here (rest ++ v)
      | into member body _ => exact .into member body
      | past gone _ inductionHypothesis => exact .past gone inductionHypothesis
    · induction u with
      | nil => exact inSecond
      | cons y rest inductionHypothesis =>
        obtain ⟨gone, others⟩ := vanishes_cons.mp empty
        exact .past gone (inductionHypothesis others)

theorem begins_cons :
    g.Begins t (x :: u) ↔ g.Begins t [x] ∨ g.Vanishes [x] ∧ g.Begins t u :=
  begins_append (u := [x])

/-- A symbol begins with itself and with what the bodies of its productions
begin with. -/
theorem begins_singleton :
    g.Begins t [x] ↔ t = x ∨ ∃ p ∈ g.rules, p.lhs = x ∧ g.Begins t p.body := by
  constructor
  · intro first
    cases first with
    | here => exact Or.inl rfl
    | into member body => exact Or.inr ⟨_, member, rfl, body⟩
    | past _ tail => cases tail
  · rintro (rfl | ⟨p, member, rfl, body⟩)
    · exact .here []
    · exact .into member body

/-- What comes to the front of a symbol comes to the front of every string that the
symbol comes to the front of. -/
theorem Begins.trans (outer : g.Begins x u) (inner : g.Begins t [x]) : g.Begins t u := by
  induction outer with
  | here rest => exact begins_cons.mpr (Or.inl inner)
  | into member _ inductionHypothesis => exact .into member inductionHypothesis
  | past gone _ inductionHypothesis => exact .past gone inductionHypothesis

/-- A step does not take a string away from the vanishing ones, read backwards. -/
theorem Step.vanishes (one : g.Step u v) (gone : g.Vanishes v) : g.Vanishes u := by
  cases one with
  | apply before after member =>
    obtain ⟨first, others⟩ := vanishes_append.mp gone
    obtain ⟨body, last⟩ := vanishes_append.mp others
    exact vanishes_append.mpr ⟨first, .cons member body last⟩

/-- What a string begins with after a step, it begins with before it. -/
theorem Step.begins (one : g.Step u v) (first : g.Begins t v) : g.Begins t u := by
  cases one with
  | apply before after member =>
    rcases begins_append.mp first with inBefore | ⟨empty, inRest⟩
    · exact begins_append.mpr (Or.inl inBefore)
    · refine begins_append.mpr (Or.inr ⟨empty, ?_⟩)
      rcases begins_append.mp inRest with inBody | ⟨gone, inAfter⟩
      · exact .into member inBody
      · exact .past (.cons member gone .nil) inAfter

/-- Vanishing strings are those that derive the empty string. -/
theorem vanishes_iff : g.Vanishes u ↔ g.DerivesEmpty u := by
  constructor
  · intro gone
    induction gone with
    | nil => exact .refl []
    | cons member _ _ bodySteps tailSteps =>
      exact ((Derives.of_mem member).trans bodySteps).append tailSteps
  · intro steps
    unfold DerivesEmpty at steps
    generalize last : ([] : List Symbol) = final at steps
    induction steps with
    | refl _ => exact last ▸ .nil
    | step one _ inductionHypothesis => exact one.vanishes (inductionHypothesis last)

/-- A string begins with the symbols that come first in the strings it derives. -/
theorem begins_iff : g.Begins t u ↔ ∃ rest, g.Derives u (t :: rest) := by
  constructor
  · intro first
    induction first with
    | here rest => exact ⟨rest, .refl _⟩
    | @into p after member _ inductionHypothesis =>
      obtain ⟨rest, steps⟩ := inductionHypothesis
      exact ⟨rest ++ after, ((Derives.of_mem member).trans steps).append (.refl after)⟩
    | past gone _ inductionHypothesis =>
      obtain ⟨rest, steps⟩ := inductionHypothesis
      exact ⟨rest, (vanishes_iff.mp gone).append steps⟩
  · rintro ⟨rest, steps⟩
    generalize last : t :: rest = final at steps
    induction steps with
    | refl _ => exact last ▸ .here rest
    | step one _ inductionHypothesis => exact one.begins (inductionHypothesis last)

/-- `CanBegin` in terms of the string alone. -/
theorem canBegin_iff : g.CanBegin u t ↔ t ∈ g.terminals ∧ g.Begins t u := by
  rw [CanBegin, begins_iff]

/-- A terminal is no left side. -/
theorem lhs_ne_of_mem_terminals {p : Production} (terminal : t ∈ g.terminals)
    (member : p ∈ g.rules) : p.lhs ≠ t := by
  intro same
  exact g.disjoint t terminal (same ▸ g.lhs_declared p member)

end Predictive.Grammar
