import Predictive.Proofs.Prediction

/-!
# Leftmost derivations without conflicts

A step of a leftmost derivation of a word replaces the nonterminal behind the part
of the word that is already there, and the rest of the word begins with the
lookahead that the production predicts. Where the table is free of conflicts the
lookahead leaves no choice, so a word has at most one leftmost derivation.
-/

namespace Predictive.Grammar

variable {g : Grammar} {u v w : List Symbol} {x t : Symbol} {p q : Production}

theorem isWord_append : g.IsWord (u ++ v) ↔ g.IsWord u ∧ g.IsWord v := List.forall_mem_append

/-- A string is empty or begins with a terminal, so that a parser can have a
lookahead in front of it. -/
def IsLed (g : Grammar) (u : List Symbol) : Prop := ∀ t ∈ u.head?, t ∈ g.terminals

theorem isLed_cons : g.IsLed (t :: u) ↔ t ∈ g.terminals := by simp [IsLed]

theorem IsWord.isLed (word : g.IsWord u) : g.IsLed u :=
  fun t first => word t (List.mem_of_mem_head? first)

/-- The lookahead that a parser has in front of a string: its first symbol, or the
end marker. -/
def lookaheadOf (w : List Symbol) : Symbol := w.head?.getD endMarker

theorem LeftmostDerives.trans {first second : List Production}
    (front : g.LeftmostDerives first u v) (behind : g.LeftmostDerives second v w) :
    g.LeftmostDerives (first ++ second) u w := by
  induction front with
  | refl _ => exact behind
  | step word member _ inductionHypothesis => exact .step word member (inductionHypothesis behind)

/-- One production, behind a word. -/
theorem LeftmostDerives.single (word : g.IsWord u) (member : p ∈ g.rules) (after : List Symbol) :
    g.LeftmostDerives [p] (u ++ p.lhs :: after) (u ++ (p.body ++ after)) :=
  .step word member (.refl _)

/-- A word in front stays in front of everything derived. -/
theorem Derives.of_word_append (steps : g.Derives (u ++ v) w) (word : g.IsWord u) :
    ∃ rest, w = u ++ rest ∧ g.Derives v rest := by
  obtain ⟨front, rest, rfl, first, second⟩ := steps.of_append rfl
  exact ⟨rest, by rw [first.eq_of_isWord word], second⟩

/-- A terminal in front stays in front. -/
theorem Derives.of_terminal_cons (steps : g.Derives (t :: v) w) (terminal : t ∈ g.terminals) :
    ∃ rest, w = t :: rest ∧ g.Derives v rest :=
  Derives.of_word_append (u := [t]) steps (by simpa [IsWord] using terminal)

/-- The empty string derives nothing else. -/
theorem Derives.eq_nil (steps : g.Derives [] w) : w = [] :=
  steps.eq_of_isWord (List.forall_mem_nil _)

/-- A single symbol is replaced by the body of one of its productions. -/
theorem Step.of_singleton (one : g.Step [x] w) : ∃ q ∈ g.rules, q.lhs = x ∧ w = q.body := by
  generalize single : [x] = whole at one
  cases one with
  | @apply before after q member =>
    rcases List.singleton_eq_append_iff.mp single with ⟨rfl, same⟩ | ⟨rfl, impossible⟩
    · obtain ⟨rfl, rfl⟩ := List.cons.inj same
      exact ⟨q, member, rfl, by simp⟩
    · simp at impossible

/-- What is derived with a terminal or nothing in front, from a symbol in front that
is no terminal, comes from the body of one of its productions. -/
theorem Derives.exists_production (steps : g.Derives (x :: v) w) (led : g.IsLed w)
    (other : x ∉ g.terminals) : ∃ q ∈ g.rules, q.lhs = x ∧ g.Derives (q.body ++ v) w := by
  obtain ⟨front, rest, rfl, first, second⟩ := Derives.of_append steps (u := [x]) rfl
  cases first with
  | refl _ => exact absurd (isLed_cons.mp led) other
  | step one later =>
    obtain ⟨q, member, same, rfl⟩ := one.of_singleton
    exact ⟨q, member, same, later.append second⟩

/-- A production that leads from a string derived from the start symbol to one with
a terminal or nothing in front predicts the lookahead there. -/
theorem predicts_of_derives {before after : List Symbol}
    (reached : g.Derives [g.start] (before ++ p.lhs :: after)) (led : g.IsLed w)
    (steps : g.Derives (p.body ++ after) w) : g.Predicts p (lookaheadOf w) := by
  obtain ⟨front, rest, rfl, inBody, behind⟩ := steps.of_append rfl
  cases front with
  | cons t front => exact Or.inl ⟨isLed_cons.mp led, front, inBody⟩
  | nil =>
    have outer : g.Derives [g.start] (before ++ p.lhs :: rest) := by
      have inside := behind.surround (before ++ [p.lhs]) []
      simp only [List.append_nil, List.append_assoc, List.singleton_append] at inside
      exact reached.trans inside
    refine Or.inr ⟨inBody, ?_⟩
    cases rest with
    | nil => exact Or.inr ⟨rfl, before, outer⟩
    | cons t rest =>
      exact Or.inl ⟨isLed_cons.mp led, g.start, g.start_declared, before, rest, outer⟩

/-- The nonterminal behind the longest word in front of a string is determined. -/
theorem leftmost_split {before before' after after' : List Symbol} {y : Symbol}
    (same : before ++ x :: after = before' ++ y :: after') (word : g.IsWord before)
    (word' : g.IsWord before') (first : x ∉ g.terminals) (second : y ∉ g.terminals) :
    before = before' ∧ x = y ∧ after = after' := by
  rcases occurrence_of_append same with ⟨rest, rfl, _⟩ | ⟨rest, rfl, behind⟩
  · exact absurd (word y (by simp)) second
  · cases rest with
    | nil =>
      obtain ⟨rfl, rfl⟩ := List.cons.inj behind
      simp
    | cons z rest =>
      obtain ⟨rfl, _⟩ := List.cons.inj behind
      exact absurd (word' x (by simp)) first

theorem lhs_not_terminal (member : p ∈ g.rules) : p.lhs ∉ g.terminals := fun terminal =>
  lhs_ne_of_mem_terminals terminal member rfl

/-- Without conflicts two leftmost derivations of one word from one string are
the same. Both begin at the same nonterminal and are looking at the same word. -/
theorem LeftmostDerives.unique (clean : g.table.conflicts = []) {first second : List Production}
    (word : g.IsWord w) (one : g.LeftmostDerives first u w) (two : g.LeftmostDerives second u w)
    (reached : g.Derives [g.start] u) : first = second := by
  induction one generalizing second with
  | refl u =>
    cases two with
    | refl _ => rfl
    | step _ member _ => exact absurd (word _ (by simp)) (lhs_not_terminal member)
  | @step before after w p later frontWord member rest inductionHypothesis =>
    generalize same : before ++ p.lhs :: after = form at two
    cases two with
    | refl _ => exact absurd (word p.lhs (by simp [← same])) (lhs_not_terminal member)
    | @step before' after' _ q others frontWord' member' rest' =>
      obtain ⟨rfl, left, rfl⟩ := leftmost_split same frontWord frontWord'
        (lhs_not_terminal member) (lhs_not_terminal member')
      obtain ⟨ending, rfl, inBody⟩ := rest.derives.of_word_append frontWord
      obtain ⟨ending', sameEnding, inBody'⟩ := rest'.derives.of_word_append frontWord
      obtain rfl := List.append_cancel_left sameEnding
      have endingLed := (isWord_append.mp word).2.isLed
      obtain rfl : p = q := eq_of_predicts clean member member' left
        (predicts_of_derives reached endingLed inBody)
        (predicts_of_derives (left ▸ reached) endingLed inBody')
      have onward : g.Derives [g.start] (before ++ (p.body ++ after)) :=
        reached.trans (.step (.apply before after member) (.refl _))
      rw [inductionHypothesis word rest' onward]

end Predictive.Grammar
