import Predictive.Lexer.Cover
import Predictive.Proofs.BlankPattern
import Predictive.Proofs.DocumentReading
import Predictive.Proofs.Expectations
import Predictive.Proofs.LexingFirst
import Predictive.Proofs.Redeclaration
import Predictive.RuleFile.Meaning

/-!
# Sentences written as text

A rule file may have no tokens but its literals, and pass over blanks. If no literal
holds a blank, a word of its grammar can be written down with a space between any two
literals, and the lexer gives the literals back.

At each literal the lexer has to choose among all keywords that stand there. None of
them reaches over the space behind the literal, so none is longer, and the longest one
is tried first. An identifier character on either side would keep a word from standing
there, and the spaces see to it that there is none.
-/

namespace Predictive

namespace Lexicon

open Text (Position)
open Regex (layout layoutTest runOf)

/-- If longer keywords come first, the first keyword that stands at a place is a longest
one of those that do. -/
theorem length_le_of_keywordAt? {lx : Lexicon} {before rest found k : List Char}
    (sorted : lx.keywords.Pairwise (fun earlier later => later.length ≤ earlier.length))
    (chosen : lx.keywordAt? before rest = some found) (member : k ∈ lx.keywords)
    (stands : standsAt before rest k = true) : k.length ≤ found.length := by
  obtain ⟨_, earlier, later, split, skipped⟩ := List.find?_eq_some_iff_append.mp chosen
  rw [split] at member sorted
  rcases List.mem_append.mp member with inFront | atOrBehind
  · have missed := skipped k inFront
    simp [stands] at missed
  · rw [List.pairwise_append, List.pairwise_cons] at sorted
    rcases List.mem_cons.mp atOrBehind with rfl | behind
    · exact Nat.le_refl _
    · exact sorted.2.1.1 k behind

/-- A lexicon of literals: there are no token rules, blanks are passed over, longer keywords
come first, and no keyword is empty or holds a blank. -/
structure OfLiterals (lx : Lexicon) : Prop where
  tokens_eq : lx.tokens = []
  ignores_eq : ∃ mode, lx.ignores = [runOf (layoutTest mode)]
  longest : lx.keywords.Pairwise (fun earlier later => later.length ≤ earlier.length)
  ne_nil : ∀ k ∈ lx.keywords, k ≠ []
  solid : ∀ k ∈ lx.keywords, ∀ c ∈ k, c ∉ layout

/-- What stands behind a literal: the end of the text, or a space. -/
def Parted (tail : List Char) : Prop := tail = [] ∨ ∃ rest, tail = ' ' :: rest

theorem Parted.touches_eq {tail : List Char} (parted : Parted tail) : touches tail = false := by
  rcases parted with rfl | ⟨rest, rfl⟩
  · rfl
  · simp only [Lexicon.touches, List.head?_cons, Option.any_some]
    decide

/-- A piece without blanks that stands in front of a parted literal lies inside of it. -/
theorem Parted.inside {tail k piece : List Char} (parted : Parted tail)
    (solid : ∀ c ∈ piece, c ∉ layout) (stands : piece <+: k ++ tail) : piece <+: k := by
  by_cases short : piece.length ≤ k.length
  · exact List.prefix_of_prefix_length_le stands (List.prefix_append k tail) short
  · exfalso
    have within : k <+: piece :=
      List.prefix_of_prefix_length_le (List.prefix_append k tail) stands (by omega)
    obtain ⟨more, rfl⟩ := within
    rw [List.prefix_append_right_inj] at stands
    cases more with
    | nil => simp at short
    | cons c more =>
      rcases parted with rfl | ⟨rest, rfl⟩
      · simp at stands
      · obtain ⟨rfl, _⟩ := List.cons_prefix_cons.mp stands
        exact solid ' ' (by simp) (by decide)

/-- Literals with a space in front of each. -/
def spaced (ks : List (List Char)) : List Char := ks.flatMap (' ' :: ·)

theorem parted_spaced (ks : List (List Char)) : Parted (spaced ks) := by
  cases ks with
  | nil => exact Or.inl rfl
  | cons k ks => exact Or.inr ⟨_, rfl⟩

theorem intercalate_cons (k : List Char) (ks : List (List Char)) :
    [' '].intercalate (k :: ks) = k ++ spaced ks := by
  induction ks generalizing k with
  | nil => simp [spaced]
  | cons next ks inductionHypothesis =>
    rw [List.intercalate_cons_cons, inductionHypothesis]
    simp [spaced]

/-- Tokens are those of literals: their kinds and their texts are the literals. -/
structure StandFor (tokens : List Token) (ks : List (List Char)) : Prop where
  kinds_eq : tokens.map Token.kind = ks.map String.ofList
  texts_eq : tokens.map Token.text = ks.map String.ofList

theorem StandFor.cons {tokens : List Token} {ks : List (List Char)} (stand : StandFor tokens ks)
    (k : List Char) (p : Position) :
    StandFor (tokenOf (String.ofList k) k p :: tokens) (k :: ks) where
  kinds_eq := by rw [List.map_cons, List.map_cons, stand.kinds_eq, tokenOf]
  texts_eq := by rw [List.map_cons, List.map_cons, stand.texts_eq, tokenOf]

namespace OfLiterals

variable {lx : Lexicon} {before rest k tail : List Char} {c : Char} {p : Position}

theorem filled (literals : lx.OfLiterals) : lx.Filled := literals.ne_nil

/-- Blanks are passed over up to the first other character. -/
theorem ignoredAt?_eq (literals : lx.OfLiterals) (before rest : List Char) :
    lx.ignoredAt? before rest =
      match rest.takeWhile (· ∈ layout) with
      | [] => none
      | blank :: others => some (blank :: others).length := by
  obtain ⟨mode, ignores⟩ := literals.ignores_eq
  have test : (layoutTest mode).accepts = fun c => decide (c ∈ layout) := by
    funext c
    rw [Bool.eq_iff_iff, Regex.layoutTest_accepts, decide_eq_true_eq]
  rw [ignoredAt?, ignores, List.findSome?_singleton, Regex.matched?_runOf, test]
  cases rest with
  | nil => rfl
  | cons c rest =>
    by_cases blank : c ∈ layout
    · simp [blank]
    · simp [blank]

theorem pass_solid (literals : lx.OfLiterals) (solid : c ∉ layout) :
    lx.pass ⟨before, c :: rest, p⟩ = ⟨before, c :: rest, p⟩ := by
  have stays : lx.ignoredAt? before (c :: rest) = none := by
    rw [literals.ignoredAt?_eq]
    simp [solid]
  simp [pass, passFrom, stays]

theorem pass_space (literals : lx.OfLiterals) (solid : c ∉ layout) :
    lx.pass ⟨before, ' ' :: c :: rest, p⟩ = ⟨' ' :: before, c :: rest, p.after ' '⟩ := by
  have space : ' ' ∈ layout := by decide
  have once : lx.ignoredAt? before (' ' :: c :: rest) = some 1 := by
    rw [literals.ignoredAt?_eq]
    simp [space, solid]
  have stays : lx.pass ⟨' ' :: before, c :: rest, p.after ' '⟩ = ⟨' ' :: before, c :: rest, _⟩ :=
    literals.pass_solid solid
  simp only [pass] at stays ⊢
  simp [passFrom, once, stays]

/-- A literal with nothing to touch it on either side is the keyword at its place. -/
theorem keywordAt?_eq (literals : lx.OfLiterals) (member : k ∈ lx.keywords)
    (free : touches before = false) (parted : Parted tail) :
    lx.keywordAt? before (k ++ tail) = some k := by
  have stands : standsAt before (k ++ tail) k = true := by
    simp [standsAt, free, parted.touches_eq]
  obtain ⟨found, chosen⟩ := Option.isSome_iff_exists.mp
    (List.find?_isSome.mpr ⟨k, member, stands⟩ :
      (lx.keywords.find? (standsAt before (k ++ tail))).isSome = true)
  have inside : found <+: k := by
    have known : found ∈ lx.keywords := List.mem_of_find?_eq_some chosen
    have alsoStands := List.find?_some chosen
    refine parted.inside (literals.solid found known) ?_
    simp only [standsAt, Bool.and_eq_true] at alsoStands
    exact List.isPrefixOf_iff_prefix.mp alsoStands.1
  have notLonger : k.length ≤ found.length :=
    length_le_of_keywordAt? literals.longest chosen member stands
  have same : found = k := inside.eq_of_length_le notLonger
  rw [keywordAt?, chosen, same]

theorem tokenAt?_eq (literals : lx.OfLiterals) (member : k ∈ lx.keywords)
    (free : touches before = false) (parted : Parted tail) :
    lx.tokenAt? before (k ++ tail) = some (String.ofList k, k) := by
  have unruled : lx.ruleAt? before (k ++ tail) = none := by
    rw [ruleAt?, literals.tokens_eq, List.foldl_nil]
  simp only [tokenAt?, literals.keywordAt?_eq member free parted, unruled]

/-- At a literal the next token is the literal. -/
theorem read_literal (literals : lx.OfLiterals) (member : k ∈ lx.keywords)
    (free : touches before = false) (parted : Parted tail) :
    lx.read ⟨before, k ++ tail, p⟩ = (.ok (some (tokenOf (String.ofList k) k p)),
      ⟨k.reverse ++ before, tail, p.advance k⟩) := by
  have token := literals.tokenAt?_eq member free parted
  obtain ⟨c, others, rfl⟩ := List.exists_cons_of_ne_nil (literals.ne_nil k member)
  have stays : lx.pass ⟨before, (c :: others) ++ tail, p⟩ = ⟨before, (c :: others) ++ tail, p⟩ :=
    literals.pass_solid (literals.solid _ member c List.mem_cons_self)
  have behind : TextPlace.advance ⟨before, (c :: others) ++ tail, p⟩ (c :: others) =
      ⟨(c :: others).reverse ++ before, tail, p.advance (c :: others)⟩ := by
    rw [TextPlace.advance, List.drop_left]
  rw [read, stays, token, ← behind]
  rfl

/-- A space in front of a literal is passed over. -/
theorem read_space (literals : lx.OfLiterals) (member : k ∈ lx.keywords) (parted : Parted tail) :
    lx.read ⟨before, ' ' :: (k ++ tail), p⟩ =
      (.ok (some (tokenOf (String.ofList k) k (p.after ' '))),
        ⟨k.reverse ++ ' ' :: before, tail, (p.after ' ').advance k⟩) := by
  have free : touches (' ' :: before) = false := Parted.touches_eq (Or.inr ⟨before, rfl⟩)
  rw [← literals.read_literal member free parted]
  obtain ⟨c, others, rfl⟩ := List.exists_cons_of_ne_nil (literals.ne_nil k member)
  have solid := literals.solid _ member c List.mem_cons_self
  have passed : lx.pass ⟨before, ' ' :: ((c :: others) ++ tail), p⟩ =
      lx.pass ⟨' ' :: before, (c :: others) ++ tail, p.after ' '⟩ :=
    (literals.pass_space solid).trans (literals.pass_solid solid).symm
  rw [read, read, passed]

/-- Literals with a space in front of each give their tokens, whatever stands in front of
them. -/
theorem gives_spaced (literals : lx.OfLiterals) {ks : List (List Char)}
    (known : ∀ k ∈ ks, k ∈ lx.keywords) (before : List Char) (p : Position) :
    ∃ tokens, lx.Gives ⟨before, spaced ks, p⟩ tokens none ∧ StandFor tokens ks := by
  induction ks generalizing before p with
  | nil => exact ⟨[], .ended rfl, rfl, rfl⟩
  | cons k ks inductionHypothesis =>
    obtain ⟨member, others⟩ := List.forall_mem_cons.mp known
    obtain ⟨tokens, gives, stand⟩ :=
      inductionHypothesis others (k.reverse ++ ' ' :: before) ((p.after ' ').advance k)
    exact ⟨_, .token (literals.read_space member (parted_spaced ks)) gives, stand.cons k _⟩

/-- Literals with a space between any two of them give their tokens. -/
theorem gives_intercalated (literals : lx.OfLiterals) {ks : List (List Char)}
    (known : ∀ k ∈ ks, k ∈ lx.keywords) (p : Position) :
    ∃ tokens, lx.Gives ⟨[], [' '].intercalate ks, p⟩ tokens none ∧ StandFor tokens ks := by
  cases ks with
  | nil => exact ⟨[], .ended rfl, rfl, rfl⟩
  | cons k ks =>
    obtain ⟨member, others⟩ := List.forall_mem_cons.mp known
    rw [intercalate_cons]
    obtain ⟨tokens, gives, stand⟩ := literals.gives_spaced others (k.reverse ++ []) (p.advance k)
    exact ⟨_, .token (literals.read_literal member rfl (parted_spaced ks)) gives, stand.cons k _⟩

end OfLiterals

end Lexicon

namespace RuleFile

/-- A literal is not empty. -/
def Element.IsFilled (e : Element) : Prop := e.isLiteral = true → e.text ≠ ""

theorem Element.AllSpelled.filled {lexemes : List Lexeme} {elements : List Element}
    (spelled : Element.AllSpelled lexemes elements) : ∀ e ∈ elements, e.IsFilled := by
  induction spelled with
  | nil => simp
  | cons first _ inductionHypothesis =>
    refine List.forall_mem_cons.mpr ⟨?_, inductionHypothesis⟩
    intro literal
    cases first with
    | name _ => cases literal
    | literal _ _ filled => simpa using filled

theorem Alternative.AllSpelled.filled {next : Lexeme} {lexemes : List Lexeme}
    {alternatives : List Alternative} (spelled : Alternative.AllSpelled next lexemes alternatives) :
    ∀ alternative ∈ alternatives, ∀ e ∈ alternative.elements, e.IsFilled := by
  have each : ∀ {next : Lexeme} {lexemes : List Lexeme} {alternative : Alternative},
      alternative.Spelled next lexemes → ∀ e ∈ alternative.elements, e.IsFilled := by
    intro next lexemes alternative only
    cases only with
    | empty _ _ => simp
    | elements all => exact all.filled
  induction spelled with
  | single only => exact List.forall_mem_singleton.mpr (each only)
  | cons first _ _ inductionHypothesis =>
    exact List.forall_mem_cons.mpr ⟨each first, inductionHypothesis⟩

theorem Rule.AllSpelled.filled {lexemes : List Lexeme} {rules : List Rule}
    (spelled : Rule.AllSpelled lexemes rules) : ∀ rule ∈ rules,
      ∀ alternative ∈ rule.alternatives, ∀ e ∈ alternative.elements, e.IsFilled := by
  induction spelled with
  | nil => simp
  | cons first _ inductionHypothesis =>
    refine List.forall_mem_cons.mpr ⟨?_, inductionHypothesis⟩
    cases first with
    | rule _ _ all _ => exact all.filled

/-- No literal of a document that has been read is empty. -/
theorem Document.keywords_filled {text : List Char} {d : Document} (read : ofText text = .ok d) :
    ∀ k ∈ d.keywords, k ≠ "" := by
  obtain ⟨lexemes, _, spelled⟩ := ofText_eq_ok_iff.mp read
  intro k member
  obtain ⟨e, chosen, rfl⟩ := List.mem_map.mp member
  obtain ⟨inRules, literal⟩ := List.mem_filter.mp chosen
  obtain ⟨rule, ofDocument, inRule⟩ := List.mem_flatMap.mp inRules
  obtain ⟨alternative, ofRule, inAlternative⟩ := List.mem_flatMap.mp inRule
  generalize lexemes.list = all at spelled
  cases spelled with
  | document _ defines =>
    exact defines.filled rule ofDocument alternative ofRule e inAlternative literal

end RuleFile

namespace Lexicon

open RuleFile (Document IgnoreRule)

/-- Longer keywords come first. -/
theorem keywordOrder_pairwise (keywords : List String) :
    (keywordOrder keywords).Pairwise (fun earlier later => later.length ≤ earlier.length) := by
  refine (Finite.ordered_pairwise ?_ ?_ (Finite.distinct keywords)).imp of_decide_eq_true
  · intro a b
    simp only [decide_eq_true_eq]
    omega
  · intro a b c
    simp only [decide_eq_true_eq]
    omega

/-- Ordering keywords loses none of them. -/
theorem mem_map_keywordOrder {keywords : List String} {k : List Char} :
    k ∈ (keywordOrder keywords).map String.toList ↔ ∃ name ∈ keywords, name.toList = k := by
  simp only [keywordOrder, List.mem_map, Finite.mem_ordered, Finite.mem_distinct]

theorem map_keywordOrder_pairwise (keywords : List String) :
    ((keywordOrder keywords).map String.toList).Pairwise
      (fun earlier later => later.length ≤ earlier.length) := by
  rw [List.pairwise_map]
  simpa only [String.length_toList] using keywordOrder_pairwise keywords

/-- A document without tokens whose one ignored pattern is that of blanks has a lexicon. If
no literal of the document is empty or holds a blank, it is a lexicon of literals. -/
theorem exists_ofDocument {d : Document} (unnamed : d.tokens = [])
    (ignored : d.ignores.map IgnoreRule.pattern = [Regex.blankPattern])
    (filled : ∀ k ∈ d.keywords, k ≠ "")
    (solid : ∀ k ∈ d.keywords, ∀ c ∈ k.toList, c ∉ Regex.layout) :
    ∃ lx, ofDocument d = .ok lx ∧ lx.OfLiterals ∧ ∀ k ∈ d.keywords, k.toList ∈ lx.keywords := by
  obtain ⟨rule, only, pattern⟩ := List.map_eq_singleton_iff.mp ignored
  obtain ⟨mode, expressed⟩ : ∃ mode, expression rule.pattern rule.flags =
      .ok (Regex.runOf (Regex.layoutTest mode)) := by
    rw [expression, pattern, Regex.ofPattern_blankPattern]
    exact ⟨_, rfl⟩
  refine ⟨⟨(keywordOrder d.keywords).map String.toList, [], [Regex.runOf (Regex.layoutTest mode)]⟩,
    ?_, ⟨rfl, ⟨mode, rfl⟩, map_keywordOrder_pairwise d.keywords, ?_, ?_⟩, ?_⟩
  · simp only [ofDocument, ofRules, unnamed, only, List.map_nil, List.map_cons, tokenRules,
      ignoreRules, expressed]
    rfl
  · intro k member
    obtain ⟨name, written, rfl⟩ := mem_map_keywordOrder.mp member
    simpa using filled name written
  · intro k member
    obtain ⟨name, written, rfl⟩ := mem_map_keywordOrder.mp member
    exact solid name written
  · exact fun k written => mem_map_keywordOrder.mpr ⟨k, written, rfl⟩

end Lexicon

/-- The terminals of a document are the names of its tokens and its literals. -/
theorem RuleFile.Document.mem_terminals_iff {d : RuleFile.Document} {g : Grammar}
    (meant : d.grammar? = .ok g) {t : Symbol} :
    t ∈ g.terminals ↔ t ∈ d.tokenNames ∨ t ∈ d.keywords := by
  obtain ⟨_, terminals, _⟩ := Grammar.content_of_accepted (ofDeclaration?_of_grammar? meant)
  rw [terminals, mem_nameSet, declaration, List.mem_append]

/-- A lexer that is bound to literals with a space between any two of them comes to the end
of the text and takes their tokens. -/
theorem Lexer.tokens_intercalated {l : Lexer} (literals : l.lexicon.OfLiterals)
    {ks : List (List Char)} (known : ∀ k ∈ ks, k ∈ l.lexicon.keywords) :
    ∃ tokens last, (l.reset ([' '].intercalate ks) 1 1).tokens = (tokens, none, last) ∧
      Lexicon.StandFor tokens ks := by
  obtain ⟨tokens, gives, stand⟩ := literals.gives_intercalated known ⟨0, 1, 1⟩
  rcases taken : (l.reset ([' '].intercalate ks) 1 1).tokens with ⟨others, fault, last⟩
  have again := tokens_gives (l := l.reset ([' '].intercalate ks) 1 1) literals.filled rfl taken
  obtain ⟨rfl, rfl⟩ := gives.unique again
  exact ⟨tokens, last, rfl, stand⟩

namespace Parser

variable {p : Parser}

/-- A run over tokens that accepts has taken them all, and has applied a leftmost derivation of
their kinds. -/
theorem derives_of_accepted {tokens : List Token}
    (accepts : (p.runItems (tokens.map .token)).ending = .accepted) :
    (p.runItems (tokens.map .token)).consumed = tokens.length ∧
      p.grammar.IsWord (kinds tokens) ∧
      p.grammar.LeftmostDerives (p.runItems (tokens.map .token)).applied [p.grammar.start]
        (kinds tokens) := by
  obtain ⟨source, opens⟩ := ItemStream.opens (tokens_stand tokens)
  obtain ⟨final, before, behind, rfl, tracks, effect⟩ := run_last_state (p := p) opens
  change p.Effect none final behind (.inr (p.runItems _)) at effect
  generalize p.runItems _ = outcome at effect accepts ⊢
  cases effect with
  | accept top =>
    have derives := tracks.derives
    rw [top, List.append_nil] at derives
    rw [List.append_nil]
    exact ⟨tracks.counted, tracks.word, derives⟩
  | reject _ => simp [Run.finish] at accepts
  | broken _ _ impossible => simp at impossible

/-- How a run over a text ends: all of its tokens have been taken and are a sentence, or a
token is rejected, or the lexer faults. It accepts in the first case only. -/
inductive Ended (p : Parser) (tokens : List Token) (fault : Option LexFault)
    (outcome : Outcome Lexer LexFault) : Prop where
  | accepted (clean : fault = none) (ending : outcome.ending = .accepted)
      (consumed : outcome.consumed = tokens.length) (word : p.grammar.IsWord (kinds tokens))
      (derives : p.grammar.LeftmostDerives outcome.applied [p.grammar.start] (kinds tokens))
  | rejected {error : ParseError} (ending : outcome.ending = .rejected error)
      (none : ¬ (fault = none ∧ p.grammar.Generates (kinds tokens)))
  | faulted {f : LexFault} (ending : outcome.ending = .faulted f)
      (none : ¬ (fault = none ∧ p.grammar.Generates (kinds tokens)))

/-- A run over a text ends in one of these ways. -/
theorem runText_ends (p : Parser) {lexer : Lexer} (filled : lexer.lexicon.Filled)
    {text : List Char} {tokens : List Token} {fault : Option LexFault} {last : Lexer}
    (lexed : (lexer.reset text 1 1).tokens = (tokens, fault, last)) :
    p.Ended tokens fault (p.runText lexer text) := by
  have gives := Lexer.tokens_gives (l := lexer.reset text 1 1) filled rfl lexed
  have agrees : Agrees fault (p.run (lexer.reset text 1 1)) (p.runItems (tokens.map .token)) :=
    run_agrees (Lexer.opens_or_faults filled gives)
  have ending : (p.runText lexer text).ending =
      (p.run (lexer.reset text 1 1)).ending.withExcerpt text := rfl
  cases agrees with
  | accepted clean accepts otherAccepts applied consumed =>
    obtain ⟨counted, word, derives⟩ := derives_of_accepted otherAccepts
    rw [← applied] at derives
    exact .accepted clean (by rw [ending, accepts]; rfl) (consumed.trans counted) word derives
  | @rejected error _ rejects otherRejects _ _ =>
    refine .rejected (by rw [ending, rejects]; rfl) ?_
    rintro ⟨_, word, steps⟩
    have accepts := accepted_of_derives word steps (tokens_stand tokens) rfl
    rw [otherRejects] at accepts
    cases accepts
  | faulted faults faulted _ _ _ =>
    refine .faulted (by rw [ending, faulted]; rfl) ?_
    rintro ⟨clean, _⟩
    simp [faults] at clean

/-- If the lexer comes to the end of a text and the kinds of its tokens are a word that the
grammar generates, the text is accepted and all tokens are taken. -/
theorem runText_accepts {lexer : Lexer} (filled : lexer.lexicon.Filled) {text : List Char}
    {tokens : List Token} {last : Lexer}
    (lexed : (lexer.reset text 1 1).tokens = (tokens, none, last))
    (generated : p.grammar.Generates (kinds tokens)) :
    (p.runText lexer text).ending = .accepted ∧
      (p.runText lexer text).consumed = tokens.length := by
  cases p.runText_ends filled lexed with
  | accepted _ ending consumed _ _ => exact ⟨ending, consumed⟩
  | rejected _ none => exact absurd ⟨rfl, generated⟩ none
  | faulted _ none => exact absurd ⟨rfl, generated⟩ none

/-- A rule file that declares no tokens and one ignored pattern, that of blanks, and whose
literals hold no blanks, has a lexicon. If its grammar has a parser, then every word that
the grammar generates, written down with a space between any two literals, is cut into the
tokens of the word, and the text is accepted with all of them taken. What the lexer was used
for before makes no difference. -/
theorem literal_sentences_are_accepted {source : List Char} {d : RuleFile.Document} {g : Grammar}
    {p : Parser} (read : RuleFile.Document.ofText source = .ok d) (unnamed : d.tokens = [])
    (ignored : d.ignores.map RuleFile.IgnoreRule.pattern = ["[ \\t\\r\\n]+"])
    (solid : ∀ k ∈ d.keywords, ∀ c ∈ k.toList, c ∉ [' ', '\t', '\r', '\n'])
    (meant : d.grammar? = .ok g) (built : ofGrammar? g = .ok p) :
    ∃ lx, Lexicon.ofDocument d = .ok lx ∧ ∀ w, g.Generates w →
      ∀ lexer : Lexer, lexer.lexicon = lx →
        (∃ tokens last,
          (lexer.reset (" ".intercalate w).toList 1 1).tokens = (tokens, none, last) ∧
          tokens.map Token.kind = w ∧ tokens.map Token.text = w) ∧
        (p.runText lexer (" ".intercalate w).toList).ending = .accepted ∧
        (p.runText lexer (" ".intercalate w).toList).consumed = w.length := by
  obtain rfl := grammar_of_built built
  obtain ⟨lx, made, literals, known⟩ := Lexicon.exists_ofDocument unnamed ignored
    (RuleFile.Document.keywords_filled read) solid
  refine ⟨lx, made, ?_⟩
  rintro w generated lexer rfl
  have spelled : (w.map String.toList).map String.ofList = w := by
    simp [List.map_map, Function.comp_def]
  have text : (" ".intercalate w).toList = [' '].intercalate (w.map String.toList) := by
    rw [String.toList_intercalate]
    rfl
  have listed : ∀ k ∈ w.map String.toList, k ∈ lexer.lexicon.keywords := by
    rw [List.forall_mem_map]
    intro t member
    have terminal := (RuleFile.Document.mem_terminals_iff meant).mp (generated.1 t member)
    exact known t (terminal.resolve_left (by simp [RuleFile.Document.tokenNames, unnamed]))
  obtain ⟨tokens, last, lexed, ⟨kinds, texts⟩⟩ := Lexer.tokens_intercalated literals listed
  rw [spelled] at kinds texts
  rw [text]
  have counted : tokens.length = w.length := by rw [← kinds, List.length_map]
  obtain ⟨accepts, consumed⟩ := runText_accepts (p := p) literals.filled lexed
    (show p.grammar.Generates (tokens.map Token.kind) from kinds ▸ generated)
  exact ⟨⟨tokens, last, lexed, kinds, texts⟩, accepts, consumed.trans counted⟩

/-- Nested conditions. One literal begins another one, and both are words. -/
def conditions : Grammar where
  terminals := ["(", ")", "if", "iffy"]
  nonterminals := ["s"]
  start := "s"
  rules := [⟨"s", ["if", "(", "s", ")"]⟩, ⟨"s", ["iffy"]⟩]
  terminals_set := ⟨by decide, by decide⟩
  nonterminals_set := ⟨by decide, by decide⟩
  terminals_ne_nil := by decide
  disjoint := by decide
  terminal_not_reserved := by decide
  nonterminal_not_reserved := by decide
  start_declared := by decide
  rules_nodup := by decide
  lhs_declared := by decide
  rhs_ne_nil := by decide
  rhs_declared := by decide
  has_rule := by decide

/-- A rule file for nested conditions. -/
def conditionsSource : String := "%ignore /[ \\t\\r\\n]+/; s : 'if' '(' s ')' | 'iffy';"

theorem conditions_are_read : ∃ d, RuleFile.Document.ofText conditionsSource.toList = .ok d ∧
    d.tokens = [] ∧ d.ignores.map RuleFile.IgnoreRule.pattern = ["[ \\t\\r\\n]+"] ∧
    d.keywords = ["if", "(", ")", "iffy"] ∧ d.grammar? = .ok conditions := by
  refine ⟨?_, ?read, ?content⟩
  case read =>
    cbv
    rfl
  case content => exact ⟨rfl, rfl, rfl, rfl⟩

theorem conditions_generates : conditions.Generates ["if", "(", "iffy", ")"] := by
  constructor
  · unfold Grammar.IsWord
    decide
  · have outer : conditions.Step ["s"] ["if", "(", "s", ")"] :=
      .apply (p := ⟨"s", ["if", "(", "s", ")"]⟩) [] [] (by decide)
    have inner : conditions.Step ["if", "(", "s", ")"] ["if", "(", "iffy", ")"] :=
      .apply (p := ⟨"s", ["iffy"]⟩) ["if", "("] [")"] (by decide)
    exact .step outer (.step inner (.refl _))

/-- One condition inside another one is a sentence, and its text is accepted. -/
theorem conditions_are_accepted : ∃ d p lx,
    RuleFile.Document.ofText conditionsSource.toList = .ok d ∧ d.tokens = [] ∧
    d.ignores.map RuleFile.IgnoreRule.pattern = ["[ \\t\\r\\n]+"] ∧
    (∀ k ∈ d.keywords, ∀ c ∈ k.toList, c ∉ [' ', '\t', '\r', '\n']) ∧
    d.grammar? = .ok conditions ∧ ofGrammar? conditions = .ok p ∧
    Lexicon.ofDocument d = .ok lx ∧ conditions.Generates ["if", "(", "iffy", ")"] ∧
    (p.runText { lexicon := lx } "if ( iffy )".toList).ending = .accepted ∧
    (p.runText { lexicon := lx } "if ( iffy )".toList).consumed = 4 := by
  obtain ⟨d, read, unnamed, ignored, keywords, meant⟩ := conditions_are_read
  have solid : ∀ k ∈ d.keywords, ∀ c ∈ k.toList, c ∉ [' ', '\t', '\r', '\n'] := by
    have checked : ["if", "(", ")", "iffy"].all (fun k =>
        k.toList.all (fun c => decide (c ∉ [' ', '\t', '\r', '\n']))) = true := by decide
    simpa only [keywords, List.all_eq_true, decide_eq_true_eq] using checked
  have built := ofGrammar?_of_clean (g := conditions) (by decide +kernel)
  obtain ⟨lx, made, sentences⟩ :=
    literal_sentences_are_accepted read unnamed ignored solid meant built
  obtain ⟨_, accepts, consumed⟩ := sentences _ conditions_generates { lexicon := lx } rfl
  exact ⟨d, _, lx, read, unnamed, ignored, solid, meant, built, made, conditions_generates,
    accepts, consumed⟩

end Parser

end Predictive
