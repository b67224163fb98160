import Predictive.Lexer.Cover
import Predictive.Proofs.LexerTokens

/-!
# Nothing of a text is lost

A reading passes over ignored text and then takes one token, or faults where none
begins. What it passes over is made up of matches that are not empty, each at its own
place, and what it takes is a candidate at the place where it stands. So the tokens
that a lexicon gives cover the text from one end to the other, or up to the character
of a fault.

`Covers` says so along the text, and it speaks of the lexicon only: the lexer's counting
of lines and columns and its order of choices have gone into the proof.
-/

namespace Predictive

open Text (Position)

/-- The place behind two pieces, one behind the other. -/
theorem Text.Position.behind_append (p : Position) (first second : List Char) :
    p.behind (first ++ second) = (p.behind first).behind second := by
  simp only [← Position.advance_eq_behind, Position.advance_append]

namespace Lexicon

variable {lx : Lexicon} {before rest text : List Char} {kind : Symbol}

/-- Where ignored text is found, an ignored pattern has a match of that length that is
not empty. -/
theorem exists_match_of_ignoredAt? {n : Nat} (found : lx.ignoredAt? before rest = some n) :
    ∃ node ∈ lx.ignores, ∃ piece, piece ≠ [] ∧ piece.length = n ∧
      node.matched? before rest = some piece := by
  obtain ⟨node, member, chosen⟩ := List.exists_of_findSome?_eq_some found
  split at chosen
  · rename_i c piece matched
    exact ⟨node, member, c :: piece, List.cons_ne_nil c piece, Option.some.inj chosen, matched⟩
  · cases chosen

/-- Where no ignored text is found, every match of an ignored pattern is empty. -/
theorem nothingIgnored_of_ignoredAt? (missing : lx.ignoredAt? before rest = none) :
    lx.NothingIgnored before rest := by
  intro node member piece matched
  have skipped := List.findSome?_eq_none_iff.mp missing node member
  cases piece with
  | nil => rfl
  | cons c piece => simp [matched] at skipped

/-- Inside a match, passing goes to the end of the match first. -/
theorem passFrom_inside (piece : List Char) (p : Position) :
    lx.passFrom piece.length before p (piece ++ rest) =
      lx.passFrom 0 (piece.reverse ++ before) (p.behind piece) rest := by
  rw [← Position.advance_eq_behind]
  induction piece generalizing before p with
  | nil => rfl
  | cons c piece inductionHypothesis =>
    rw [List.length_cons, List.cons_append, passFrom, inductionHypothesis, List.reverse_cons,
      List.append_assoc, Position.advance_cons]
    rfl

/-- Passing leads behind a piece of ignored text, and it stops at the end of the text or
where nothing more is ignored. -/
structure Passes (lx : Lexicon) (p q : TextPlace) (piece : List Char) : Prop where
  rest_eq : p.rest = piece ++ q.rest
  before_eq : q.before = piece.reverse ++ p.before
  position_eq : q.position = p.position.behind piece
  ignored : lx.IsIgnored p.before piece q.rest
  stops : q.rest = [] ∨ lx.NothingIgnored q.before q.rest

/-- One more match in front of a piece that is passed over. -/
theorem Passes.behind_match {p : Position} {q : TextPlace} {piece later : List Char}
    {node : Regex.Node} (member : node ∈ lx.ignores) (filled : piece ≠ [])
    (matched : node.matched? before (piece ++ rest) = some piece)
    (passes : lx.Passes ⟨piece.reverse ++ before, rest, p.behind piece⟩ q later) :
    lx.Passes ⟨before, piece ++ rest, p⟩ q (piece ++ later) where
  rest_eq := by rw [List.append_assoc, ← passes.rest_eq]
  before_eq := by rw [passes.before_eq, List.reverse_append, List.append_assoc]
  position_eq := by rw [passes.position_eq, Position.behind_append]
  ignored := by
    have behind : rest = later ++ q.rest := passes.rest_eq
    exact .cons member filled (behind ▸ matched) passes.ignored
  stops := passes.stops

/-- Passing over ignored text goes match by match. The induction is on the length of
the text ahead, because a match may have any length but zero. -/
theorem exists_passes (lx : Lexicon) (p : TextPlace) : ∃ piece, lx.Passes p (lx.pass p) piece := by
  obtain ⟨before, rest, p⟩ := p
  simp only [pass]
  generalize size : rest.length = count
  induction count using Nat.strongRecOn generalizing before rest p with
  | ind count inductionHypothesis =>
    cases rest with
    | nil => exact ⟨[], rfl, rfl, by simp [passFrom, Position.behind], .nil _ _, Or.inl rfl⟩
    | cons c others =>
      cases ignored : lx.ignoredAt? before (c :: others) with
      | none =>
        have stays : lx.passFrom 0 before p (c :: others) = ⟨before, c :: others, p⟩ := by
          simp [passFrom, ignored]
        rw [stays]
        exact ⟨[], rfl, rfl, by simp [Position.behind], .nil _ _,
          Or.inr (nothingIgnored_of_ignoredAt? ignored)⟩
      | some n =>
        obtain ⟨node, member, piece, filled, rfl, matched⟩ := exists_match_of_ignoredAt? ignored
        have split := Regex.Node.matched?_eq_some matched
        -- The match goes on behind the first character, which the pass has stepped over.
        have onward : lx.passFrom 0 before p (c :: others) =
            lx.passFrom 0 (piece.reverse ++ before) (p.behind piece)
              ((c :: others).drop piece.length) := by
          rw [← passFrom_inside, split]
          cases piece with
          | nil => exact absurd rfl filled
          | cons d piece => simp [passFrom, ignored]
        have shorter : ((c :: others).drop piece.length).length < count := by
          have positive : 0 < piece.length := List.length_pos_iff.mpr filled
          rw [List.length_drop]
          simp only [List.length_cons] at size ⊢
          omega
        obtain ⟨later, passes⟩ := inductionHypothesis _ shorter (piece.reverse ++ before)
          ((c :: others).drop piece.length) (p.behind piece) rfl
        rw [onward]
        refine ⟨piece ++ later, ?_⟩
        have whole := passes.behind_match member filled (split.symm ▸ matched)
        rwa [split] at whole

/-- A token rule is tried at a place, against the best candidate so far. -/
def offer (before rest : List Char) (best : Option (Symbol × List Char))
    (rule : Symbol × Regex.Node) : Option (Symbol × List Char) :=
  match rule.2.matched? before rest with
  | some text => longer best rule.1 text
  | none => best

/-- A rule leaves no candidate only where there was none before and where its match, if it
has one, is empty. -/
theorem offer_eq_none_iff {best : Option (Symbol × List Char)} {rule : Symbol × Regex.Node} :
    offer before rest best rule = none ↔
      best = none ∧ ∀ text, rule.2.matched? before rest = some text → text = [] := by
  unfold offer
  cases matched : rule.2.matched? before rest with
  | none => simp
  | some piece =>
    simp only [Option.some.injEq, forall_eq']
    unfold longer
    constructor
    · intro nothing
      split at nothing
      · cases nothing
      · rename_i short
        subst nothing
        rw [Option.map_none, Option.getD_none, Nat.not_lt, Nat.le_zero] at short
        exact ⟨rfl, List.length_eq_zero_iff.mp short⟩
    · rintro ⟨rfl, rfl⟩
      rfl

/-- What is the best candidate behind a rule was it before, or it is the match of the rule
and not empty. -/
theorem offer_eq_some {best : Option (Symbol × List Char)} {rule : Symbol × Regex.Node}
    (chosen : offer before rest best rule = some (kind, text)) : best = some (kind, text) ∨
      rule.1 = kind ∧ text ≠ [] ∧ rule.2.matched? before rest = some text := by
  unfold offer at chosen
  split at chosen
  · rename_i piece matched
    unfold longer at chosen
    split at chosen
    · rename_i longest
      obtain ⟨rfl, rfl⟩ := Prod.mk.inj (Option.some.inj chosen)
      have filled : piece ≠ [] :=
        List.ne_nil_of_length_pos (Nat.lt_of_le_of_lt (Nat.zero_le _) longest)
      exact Or.inr ⟨rfl, filled, matched⟩
    · exact Or.inl chosen
  · exact Or.inl chosen

/-- Behind all rules there is no candidate only if there was none from the start and every
match of a rule is empty. -/
theorem foldl_offer_eq_none_iff {best : Option (Symbol × List Char)}
    {rules : List (Symbol × Regex.Node)} : rules.foldl (offer before rest) best = none ↔
      best = none ∧ ∀ rule ∈ rules, ∀ text, rule.2.matched? before rest = some text → text = [] := by
  induction rules generalizing best with
  | nil => simp
  | cons rule rules inductionHypothesis =>
    rw [List.foldl_cons, inductionHypothesis, offer_eq_none_iff, List.forall_mem_cons, and_assoc]

/-- The best candidate behind all rules was there from the start, or one of the rules has
it for its match. -/
theorem foldl_offer_eq_some {best : Option (Symbol × List Char)}
    {rules : List (Symbol × Regex.Node)}
    (chosen : rules.foldl (offer before rest) best = some (kind, text)) :
    best = some (kind, text) ∨
      ∃ node, (kind, node) ∈ rules ∧ text ≠ [] ∧ node.matched? before rest = some text := by
  induction rules generalizing best with
  | nil => exact Or.inl chosen
  | cons rule rules inductionHypothesis =>
    rcases inductionHypothesis chosen with offered | ⟨node, member, filled, matched⟩
    · rcases offer_eq_some offered with start | ⟨rfl, filled, matched⟩
      · exact Or.inl start
      · exact Or.inr ⟨rule.2, List.mem_cons_self, filled, matched⟩
    · exact Or.inr ⟨node, List.mem_cons_of_mem rule member, filled, matched⟩

/-- A keyword that is taken stands at its place. -/
theorem candidate_of_keywordAt? (found : lx.keywordAt? before rest = some text) :
    lx.Candidate before rest (String.ofList text) text :=
  .keyword (List.mem_of_find?_eq_some found) (List.find?_some found)

theorem candidate_of_ruleAt? (found : lx.ruleAt? before rest = some (kind, text)) :
    lx.Candidate before rest kind text := by
  rcases foldl_offer_eq_some found with impossible | ⟨node, member, filled, matched⟩
  · cases impossible
  · exact .rule member filled matched

/-- The token at a place is one of the candidates there. -/
theorem candidate_of_tokenAt? (found : lx.tokenAt? before rest = some (kind, text)) :
    lx.Candidate before rest kind text := by
  unfold tokenAt? at found
  split at found
  · rename_i keyword rule keywordFound ruleFound
    split at found
    · obtain ⟨rfl, rfl⟩ := Prod.mk.inj (Option.some.inj found)
      exact candidate_of_keywordAt? keywordFound
    · obtain rfl := Option.some.inj found
      exact candidate_of_ruleAt? ruleFound
  · rename_i keyword keywordFound _
    obtain ⟨rfl, rfl⟩ := Prod.mk.inj (Option.some.inj found)
    exact candidate_of_keywordAt? keywordFound
  · exact candidate_of_ruleAt? found

/-- Where no token is found, there is no candidate. -/
theorem not_candidate_of_tokenAt? (missing : lx.tokenAt? before rest = none) (kind : Symbol)
    (text : List Char) : ¬ lx.Candidate before rest kind text := by
  have nothing : lx.keywordAt? before rest = none ∧ lx.ruleAt? before rest = none := by
    unfold tokenAt? at missing
    split at missing
    · split at missing <;> cases missing
    · cases missing
    · rename_i noKeyword
      exact ⟨noKeyword, missing⟩
  intro candidate
  cases candidate with
  | keyword member stands =>
    have skipped := List.find?_eq_none.mp nothing.1 text member
    exact skipped stands
  | rule member filled matched =>
    exact filled ((foldl_offer_eq_none_iff.mp nothing.2).2 _ member text matched)

/-- A candidate is a piece of the text at its place. -/
theorem Candidate.drop_eq (candidate : lx.Candidate before rest kind text) :
    text ++ rest.drop text.length = rest := by
  cases candidate with
  | keyword _ stands =>
    have front : text <+: rest := by
      simp only [standsAt, Bool.and_eq_true] at stands
      exact List.isPrefixOf_iff_prefix.mp stands.1
    obtain ⟨behind, rfl⟩ := front
    rw [List.drop_left]
  | rule _ _ matched => exact Regex.Node.matched?_eq_some matched

/-- The tokens that a lexicon gives cover the text ahead. -/
theorem Gives.covers (filled : lx.Filled) {p : TextPlace} {tokens : List Token}
    {fault : Option LexFault} (gives : lx.Gives p tokens fault) :
    lx.Covers p.before p.position p.rest tokens fault := by
  induction gives with
  | @ended p q reads =>
    obtain ⟨piece, passes⟩ := lx.exists_passes p
    simp only [read] at reads
    split at reads
    · rename_i finished
      have ignored := passes.ignored
      rw [passes.rest_eq, finished, List.append_nil]
      rw [finished] at ignored
      exact .finish ignored
    · split at reads <;> cases reads
  | @faulted p q fault reads =>
    obtain ⟨piece, passes⟩ := lx.exists_passes p
    simp only [read] at reads
    split at reads
    · cases reads
    · rename_i c others more
      split at reads
      · rename_i missing
        obtain ⟨same, _⟩ := Prod.mk.inj reads
        obtain rfl := Except.error.inj same
        have ignored := passes.ignored
        have stops := passes.stops.resolve_left (by simp [more])
        rw [more, passes.before_eq] at missing stops
        rw [more] at ignored
        rw [passes.rest_eq, more, passes.position_eq]
        exact .stray ignored stops (not_candidate_of_tokenAt? missing)
      · cases reads
  | @token p q t others fault reads _ inductionHypothesis =>
    obtain ⟨piece, passes⟩ := lx.exists_passes p
    simp only [read] at reads
    split at reads
    · cases reads
    · rename_i c later more
      split at reads
      · cases reads
      · rename_i kind text found
        obtain ⟨same, rfl⟩ := Prod.mk.inj reads
        obtain rfl := Option.some.inj (Except.ok.inj same)
        have taken := candidate_of_tokenAt? found
        have stops := passes.stops.resolve_left (by simp [more])
        have ignored := passes.ignored
        obtain ⟨behind, split⟩ : ∃ behind, (lx.pass p).rest = text ++ behind :=
          ⟨_, taken.drop_eq.symm⟩
        have after : (lx.pass p).advance text = ⟨text.reverse ++ (piece.reverse ++ p.before),
            behind, (p.position.behind piece).behind text⟩ := by
          rw [TextPlace.advance, passes.before_eq, passes.position_eq, split, List.drop_left,
            Position.advance_eq_behind]
        rw [after] at inductionHypothesis
        rw [split, passes.before_eq] at taken stops
        rw [split] at ignored
        rw [passes.rest_eq, split, passes.position_eq]
        exact .token ignored stops (filled.tokenAt? found) taken inductionHypothesis

end Lexicon

end Predictive
