import Predictive.Proofs.Recognition

/-!
# Rejections come as early as they can

When the parser rejects, the kinds it has taken still begin a string that the
start symbol derives, namely the one that its stack completes; and they begin a
word of the language if every nonterminal derives a word. With the token found
behind them they begin no word any more, or, at the end of input, are no word.
-/

namespace Predictive

namespace Grammar

variable {g : Grammar} {u v : List Symbol}

theorem Step.isForm (one : g.Step u v) (form : g.IsForm u) : g.IsForm v := by
  cases one with
  | apply before after member =>
    obtain ⟨front, rest⟩ := isForm_append.mp form
    exact isForm_append.mpr ⟨front, isForm_append.mpr ⟨isForm_body member, (isForm_cons.mp rest).2⟩⟩

/-- Derivations stay within the declared symbols. -/
theorem Derives.isForm (steps : g.Derives u v) (form : g.IsForm u) : g.IsForm v := by
  induction steps with
  | refl _ => exact form
  | step one _ inductionHypothesis => exact inductionHypothesis (one.isForm form)

/-- Every nonterminal derives a word. -/
def Productive (g : Grammar) : Prop :=
  ∀ a ∈ g.nonterminals, ∃ w, g.IsWord w ∧ g.Derives [a] w

/-- If every nonterminal derives a word, so does every string. -/
theorem Productive.derives_word (productive : g.Productive) (form : g.IsForm u) :
    ∃ w, g.IsWord w ∧ g.Derives u w := by
  induction u with
  | nil => exact ⟨[], List.forall_mem_nil _, .refl _⟩
  | cons x rest inductionHypothesis =>
    obtain ⟨declared, restForm⟩ := isForm_cons.mp form
    obtain ⟨tail, tailWord, tailSteps⟩ := inductionHypothesis restForm
    have head : ∃ w, g.IsWord w ∧ g.Derives [x] w := by
      rcases declared with terminal | nonterminal
      · exact ⟨[x], by simpa [IsWord] using terminal, .refl _⟩
      · exact productive x nonterminal
    obtain ⟨front, frontWord, frontSteps⟩ := head
    exact ⟨front ++ tail, isWord_append.mpr ⟨frontWord, tailWord⟩, frontSteps.append tailSteps⟩

end Grammar

namespace Parser

variable {σ ε : Type} {p : Parser}

/-- The kinds of the tokens that a run has taken from a list of tokens. -/
def kindsTaken (tokens : List Token) (outcome : Outcome σ ε) : List Symbol :=
  kinds (tokens.take outcome.consumed)

theorem rejection_found (p : Parser) (found : Option Token) (stack : List Symbol) :
    (p.rejection found stack).found = found := by
  unfold rejection
  split
  · rfl
  · split <;> rfl

/-- No word of the language goes on from the kinds taken with the kind of the token
that is left, and the kinds taken are no word when none is left. -/
theorem Tracks.not_generates {r : Run σ} {taken left : List Token} (tracks : p.Tracks r taken left)
    (stuck : p.Stuck r.look r.stack) {v : List Symbol} (continues : Continues left v) :
    ¬ p.grammar.Generates (kinds taken ++ v) := by
  rintro ⟨word, steps⟩
  exact tracks.not_derives stuck (Grammar.isWord_append.mp word).2 continues steps

/-- In a productive grammar the stack derives a word that completes the kinds
taken. -/
theorem Tracks.completes {r : Run σ} {taken left : List Token} (tracks : p.Tracks r taken left)
    (productive : p.grammar.Productive) : ∃ v, p.grammar.Generates (kinds taken ++ v) := by
  have reached := tracks.derives.derives
  have startForm : p.grammar.IsForm [p.grammar.start] := by
    simpa [Grammar.IsForm] using Or.inr p.grammar.start_declared
  have stackForm := (Grammar.isForm_append.mp (reached.isForm startForm)).2
  obtain ⟨v, word, steps⟩ := productive.derives_word stackForm
  refine ⟨v, Grammar.isWord_append.mpr ⟨tracks.word, word⟩, reached.trans ?_⟩
  exact (Grammar.Derives.refl (kinds taken)).append steps

/-- When the parser rejects, the applied productions derive the kinds taken
followed by the stack, so the kinds taken still begin a derivable string, and a
word if the grammar is productive. No word goes on with the token that was found;
and where the end of input was found, the kinds taken are no word. -/
theorem rejects_at_first_impossible_token {g : Grammar} (built : ofGrammar? g = .ok p)
    {items : List Item} {tokens : List Token} (stands : items.map Item.toToken? = tokens.map .ok)
    {error : ParseError} (rejected : (p.runItems items).ending = .rejected error) :
    g.LeftmostDerives (p.runItems items).applied [g.start]
      (kindsTaken tokens (p.runItems items) ++ (p.runItems items).stack) ∧
    (g.Productive → ∃ v, g.Generates (kindsTaken tokens (p.runItems items) ++ v)) ∧
    error.found = tokens[(p.runItems items).consumed]? ∧
    (∀ t, error.found = some t →
      ∀ v, ¬ g.Generates (kindsTaken tokens (p.runItems items) ++ t.kind :: v)) ∧
    (error.found = none → kindsTaken tokens (p.runItems items) = kinds tokens ∧
      ¬ g.Generates (kindsTaken tokens (p.runItems items))) := by
  obtain rfl := grammar_of_built built
  obtain ⟨source, opens⟩ := ItemStream.opens stands
  obtain ⟨final, before, behind, rfl, tracks, effect⟩ := run_last_state (p := p) opens
  change p.Effect none final behind (.inr (p.runItems items)) at effect
  generalize p.runItems items = outcome at effect rejected ⊢
  cases effect with
  | accept _ => simp [Run.finish] at rejected
  | broken _ _ impossible => simp at impossible
  | @reject _ after stuck =>
    obtain rfl : p.rejection final.look final.stack = error := by
      simpa [Run.finish] using rejected
    have taken : kindsTaken (before ++ behind)
        (({ final with source := after } : Run ItemStream).finish
          (.rejected (p.rejection final.look final.stack)) : Outcome ItemStream StreamFault) =
        kinds before := by
      simp [kindsTaken, Run.finish, tracks.counted]
    rw [taken, rejection_found, tracks.shows]
    refine ⟨tracks.derives, tracks.completes, ?_, ?_, ?_⟩
    · simp [Run.finish, tracks.counted, List.getElem?_append_right, List.head?_eq_getElem?]
    · intro t found v
      exact tracks.not_generates stuck (by simp [Continues, kinds, found])
    · intro ended
      obtain rfl := List.head?_eq_none_iff.mp ended
      refine ⟨by simp, ?_⟩
      have none := tracks.not_generates stuck (v := []) rfl
      simpa using none

theorem sums_productive : sums.Productive := by
  have tail : sums.Derives ["T"] [] :=
    Grammar.Derives.of_mem (p := ⟨"T", [epsilon]⟩) (by decide)
  have whole : sums.Derives ["S"] ["x"] := by
    have first : sums.Derives ["S"] ["x", "T"] :=
      Grammar.Derives.of_mem (p := ⟨"S", ["x", "T"]⟩) (by decide)
    exact first.trans (tail.surround ["x"] [])
  intro a declared
  have either : a = "S" ∨ a = "T" := by simpa [sums] using declared
  rcases either with rfl | rfl
  · exact ⟨["x"], by unfold Grammar.IsWord; decide, whole⟩
  · exact ⟨[], List.forall_mem_nil _, tail⟩

/-- On `x x` the parser rejects at the second `x`: some sum begins with `x`, and
none with `x x`. -/
theorem sums_rejects_second_x :
    (∃ error, (sumsParser.runItems (["x", "x"].map Item.name)).ending = .rejected error ∧
      error.found = some (nameToken "x")) ∧
    (∃ v, sums.Generates ("x" :: v)) ∧ ∀ v, ¬ sums.Generates ("x" :: "x" :: v) := by
  have rejected : ∃ error, (sumsParser.runItems (["x", "x"].map Item.name)).ending =
      .rejected error := ⟨_, rfl⟩
  obtain ⟨error, ending⟩ := rejected
  obtain ⟨_, completes, found, impossible, _⟩ :=
    rejects_at_first_impossible_token sums_built (names_stand ["x", "x"]) ending
  have second : error.found = some (nameToken "x") := found
  exact ⟨⟨error, ending, second⟩, completes sums_productive, impossible _ second⟩

end Parser

end Predictive
