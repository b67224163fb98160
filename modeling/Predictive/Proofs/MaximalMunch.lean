import Predictive.Lexer.Longest
import Predictive.Proofs.LexerCalls
import Predictive.Proofs.LiteralSentences

/-!
# Tokens are the longest candidates

A lexicon looks for a token in two ways. It takes the first keyword that stands at a
place, and its keywords are listed by length. It goes through the token rules with a best
match so far, which only a strictly longer one replaces. Then the lengths of both are
compared. What comes out is a longest one of all candidates at the place: a literal if
one of that length stands there, and otherwise the match of the first rule that has one of
that length.
-/

namespace Predictive

open Text (isIdentifierContinue)
open RuleFile (Document TokenRule LiteralAt PatternAt)

/-- Of two equal lists of images, each image in the one is an image in the other. -/
theorem exists_of_map_eq_map {α β γ : Type} {f : α → γ} {h : β → γ} {xs : List α} {ys : List β}
    (same : xs.map f = ys.map h) {x : α} (member : x ∈ xs) : ∃ y ∈ ys, h y = f x := by
  have listed : f x ∈ ys.map h := same ▸ List.mem_map_of_mem member
  exact List.mem_map.mp listed

namespace Lexicon

variable {lx : Lexicon} {before rest text piece : List Char} {kind : Symbol} {i : Nat}

/-- The length of the best candidate so far, and zero without one. -/
def lengthOf (best : Option (Symbol × List Char)) : Nat :=
  (best.map (fun b => b.2.length)).getD 0

/-- A rule has a match that is longer than the best candidate so far and takes its place, or
has no such match and changes nothing. -/
theorem offer_cases (before rest : List Char) (best : Option (Symbol × List Char))
    (rule : Symbol × Regex.Node) :
    (offer before rest best rule = best ∧
      ∀ found, rule.2.matched? before rest = some found → found.length ≤ lengthOf best) ∨
    ∃ found, offer before rest best rule = some (rule.1, found) ∧
      rule.2.matched? before rest = some found ∧ lengthOf best < found.length := by
  unfold offer
  cases matched : rule.2.matched? before rest with
  | none => exact Or.inl ⟨rfl, by simp⟩
  | some found =>
    by_cases longest : lengthOf best < found.length
    · exact Or.inr ⟨found, if_pos longest, rfl, longest⟩
    · refine Or.inl ⟨if_neg longest, ?_⟩
      rintro other same
      obtain rfl := Option.some.inj same
      exact Nat.le_of_not_lt longest

/-- A rule is the first one with a longest match: the rules in front of it have shorter
matches, and the rules behind it have no longer ones. -/
structure FirstLongest (rules : List (Symbol × Regex.Node)) (before rest : List Char)
    (kind : Symbol) (text : List Char) (front back : List (Symbol × Regex.Node))
    (node : Regex.Node) : Prop where
  split : rules = front ++ (kind, node) :: back
  matched : node.matched? before rest = some text
  shorter : ∀ rule ∈ front, ∀ found, rule.2.matched? before rest = some found →
    found.length < text.length
  no_longer : ∀ rule ∈ back, ∀ found, rule.2.matched? before rest = some found →
    found.length ≤ text.length

/-- Behind all rules the best candidate is the one from the start, if no match is longer, or
the match of the first rule with a longest one. -/
theorem foldl_offer_cases (before rest : List Char) (rules : List (Symbol × Regex.Node))
    (best : Option (Symbol × List Char)) :
    (rules.foldl (offer before rest) best = best ∧
      ∀ rule ∈ rules, ∀ found, rule.2.matched? before rest = some found →
        found.length ≤ lengthOf best) ∨
    ∃ kind text front node back, rules.foldl (offer before rest) best = some (kind, text) ∧
      lengthOf best < text.length ∧ FirstLongest rules before rest kind text front back node := by
  induction rules generalizing best with
  | nil => exact Or.inl ⟨rfl, List.forall_mem_nil _⟩
  | cons rule rules inductionHypothesis =>
    rw [List.foldl_cons]
    -- The bound on the matches in front is the best candidate so far, whichever rule gave it.
    rcases offer_cases before rest best rule with ⟨kept, short⟩ | ⟨found, taken, matched, longer⟩
    · rw [kept]
      rcases inductionHypothesis best with
        ⟨stays, none⟩ | ⟨kind, text, front, node, back, result, longer, first⟩
      · exact Or.inl ⟨stays, List.forall_mem_cons.mpr ⟨short, none⟩⟩
      · refine Or.inr ⟨kind, text, rule :: front, node, back, result, longer, ?_, first.matched, ?_,
          first.no_longer⟩
        · rw [first.split, List.cons_append]
        · refine List.forall_mem_cons.mpr ⟨?_, first.shorter⟩
          intro found matched
          exact Nat.lt_of_le_of_lt (short found matched) longer
    · rw [taken]
      rcases inductionHypothesis (some (rule.1, found)) with
        ⟨stays, none⟩ | ⟨kind, text, front, node, back, result, longest, first⟩
      · exact Or.inr ⟨rule.1, found, [], rule.2, rules, stays, longer, rfl, matched,
          List.forall_mem_nil _, none⟩
      · have shorter : found.length < text.length := longest
        refine Or.inr ⟨kind, text, rule :: front, node, back, result, longer.trans shorter, ?_,
          first.matched, ?_, first.no_longer⟩
        · rw [first.split, List.cons_append]
        · refine List.forall_mem_cons.mpr ⟨?_, first.shorter⟩
          intro other again
          obtain rfl := Option.some.inj (matched.symm.trans again)
          exact shorter

/-- The first rule with a longest match has a longest one of all. -/
theorem FirstLongest.longest {rules front back : List (Symbol × Regex.Node)} {node : Regex.Node}
    (first : FirstLongest rules before rest kind text front back node) :
    ∀ rule ∈ rules, ∀ found, rule.2.matched? before rest = some found →
      found.length ≤ text.length := by
  rw [first.split]
  refine List.forall_mem_append.mpr ⟨?_, List.forall_mem_cons.mpr ⟨?_, first.no_longer⟩⟩
  · intro rule member found matched
    exact Nat.le_of_lt (first.shorter rule member found matched)
  · intro found matched
    obtain rfl := Option.some.inj (first.matched.symm.trans matched)
    exact Nat.le_refl _

/-- A lexicon holds the literals of a document, longer ones first, and the expressions of
its patterns, in order. -/
structure Holds (lx : Lexicon) (d : Document) : Prop where
  keywords_eq : lx.keywords = (keywordOrder d.keywords).map String.toList
  tokens_eq : d.tokens.map (fun rule => (rule.name, expression rule.pattern rule.flags)) =
    lx.tokens.map (fun entry => (entry.1, .ok entry.2))
  ignores_eq : d.ignores.map (fun rule => expression rule.pattern rule.flags) =
    lx.ignores.map .ok

/-- Named patterns have expressions if each of them has one. -/
theorem tokenRules_eq_ok_iff {rules : List (Symbol × String × String)}
    {entries : List (Symbol × Regex.Node)} : tokenRules rules = .ok entries ↔
      rules.map (fun rule => (rule.1, expression rule.2.1 rule.2.2)) =
        entries.map (fun entry => (entry.1, .ok entry.2)) := by
  induction rules generalizing entries with
  | nil => cases entries <;> simp [tokenRules]
  | cons rule rules inductionHypothesis =>
    obtain ⟨name, pattern, flags⟩ := rule
    cases expressed : expression pattern flags with
    | error fault => cases entries <;> simp [tokenRules, expressed]
    | ok node =>
      cases entries with
      | nil => simp [tokenRules, expressed, RuleFile.map_eq_ok]
      | cons entry entries =>
        simp [tokenRules, expressed, RuleFile.map_eq_ok, inductionHypothesis, Prod.ext_iff, and_comm]

/-- Ignored patterns have expressions if each of them has one. -/
theorem ignoreRules_eq_ok_iff {rules : List (String × String)} {nodes : List Regex.Node} :
    ignoreRules rules = .ok nodes ↔
      rules.map (fun rule => expression rule.1 rule.2) = nodes.map .ok := by
  induction rules generalizing nodes with
  | nil => cases nodes <;> simp [ignoreRules]
  | cons rule rules inductionHypothesis =>
    obtain ⟨pattern, flags⟩ := rule
    cases expressed : expression pattern flags with
    | error fault => cases nodes <;> simp [ignoreRules, expressed]
    | ok node =>
      cases nodes with
      | nil => simp [ignoreRules, expressed, RuleFile.map_eq_ok]
      | cons other nodes =>
        simp [ignoreRules, expressed, RuleFile.map_eq_ok, inductionHypothesis, and_comm]

/-- A document has a lexicon if all its patterns have expressions, and then just the one that
holds them. -/
theorem ofDocument_eq_ok_iff {d : Document} : ofDocument d = .ok lx ↔ lx.Holds d := by
  have tokens : ∀ entries,
      tokenRules (d.tokens.map (fun rule => (rule.name, rule.pattern, rule.flags))) = .ok entries ↔
        d.tokens.map (fun rule => (rule.name, expression rule.pattern rule.flags)) =
          entries.map (fun entry => (entry.1, .ok entry.2)) := by
    intro entries
    rw [tokenRules_eq_ok_iff, List.map_map]
    rfl
  have ignores : ∀ nodes,
      ignoreRules (d.ignores.map (fun rule => (rule.pattern, rule.flags))) = .ok nodes ↔
        d.ignores.map (fun rule => expression rule.pattern rule.flags) = nodes.map .ok := by
    intro nodes
    rw [ignoreRules_eq_ok_iff, List.map_map]
    rfl
  constructor
  · intro made
    unfold ofDocument ofRules at made
    split at made
    · cases made
    · rename_i entries read
      obtain ⟨nodes, alsoRead, rfl⟩ := RuleFile.map_eq_ok.mp made
      exact ⟨rfl, (tokens entries).mp read, (ignores nodes).mp alsoRead⟩
  · rintro ⟨keywords_eq, tokens_eq, ignores_eq⟩
    obtain ⟨keywords, entries, nodes⟩ := lx
    obtain rfl := keywords_eq
    simp only [ofDocument, ofRules, (tokens entries).mpr tokens_eq, (ignores nodes).mpr ignores_eq,
      Except.map]

/-- An identifier character touches an offset from the front if there is one directly in
front of it. -/
theorem touches_reverse_take (inside : i ≤ text.length) :
    touches (text.take i).reverse = false ↔
      ∀ j c, j + 1 = i → text[j]? = some c → isIdentifierContinue c = false := by
  cases i with
  | zero => simp [touches]
  | succ j =>
    obtain ⟨c, here⟩ : ∃ c, text[j]? = some c := ⟨_, List.getElem?_eq_getElem inside⟩
    simp only [touches, List.take_add_one, here, Option.toList_some, List.reverse_append,
      List.reverse_singleton, List.singleton_append, List.head?_cons, Option.any_some,
      Nat.add_right_cancel_iff]
    constructor
    · rintro other _ d rfl there
      obtain rfl : c = d := Option.some.inj (here.symm.trans there)
      exact other
    · exact fun each => each j c rfl here

/-- A keyword stands at a place just if the literal stands in the text at the offset. -/
theorem standsAt_iff (inside : i ≤ text.length) {k : List Char} :
    standsAt (text.take i).reverse (text.drop i) k = true ↔ LiteralAt text i k := by
  have front : k.isPrefixOf (text.drop i) = true ↔ k <+: text.drop i :=
    List.isPrefixOf_iff_prefix
  have word : isWordKeyword k = true ↔ ∃ c ∈ k, isIdentifierContinue c = true := by
    simp [isWordKeyword]
  have behind : touches ((text.drop i).drop k.length) = false ↔
      ∀ c, text[i + k.length]? = some c → isIdentifierContinue c = false := by
    rw [touches, List.drop_drop, List.head?_drop]
    cases text[i + k.length]? <;> simp
  rw [standsAt, Bool.and_eq_true, front, Bool.not_eq_true', Bool.and_eq_false_imp, word,
    Bool.or_eq_false_iff, touches_reverse_take inside, behind]
  constructor
  · rintro ⟨occurs, free⟩
    exact ⟨occurs, fun holdsOne => (free holdsOne).1, fun holdsOne => (free holdsOne).2⟩
  · rintro ⟨occurs, before, behind⟩
    exact ⟨occurs, fun holdsOne => ⟨before holdsOne, behind holdsOne⟩⟩

namespace Holds

variable {d : Document} {node : Regex.Node} {front back : List (Symbol × Regex.Node)}

theorem sorted (holds : lx.Holds d) :
    lx.keywords.Pairwise (fun earlier later => later.length ≤ earlier.length) := by
  rw [holds.keywords_eq]
  exact map_keywordOrder_pairwise d.keywords

theorem mem_keywords (holds : lx.Holds d) {k : List Char} :
    k ∈ lx.keywords ↔ ∃ name ∈ d.keywords, name.toList = k := by
  rw [holds.keywords_eq]
  exact mem_map_keywordOrder

/-- Each entry of the lexicon is a token rule of the document with its expression. -/
theorem mem_tokens (holds : lx.Holds d) : (kind, node) ∈ lx.tokens ↔
    ∃ rule ∈ d.tokens, rule.name = kind ∧ expression rule.pattern rule.flags = .ok node := by
  have listed : (kind, node) ∈ lx.tokens ↔ (kind, (.ok node : Except PatternFault Regex.Node)) ∈
      lx.tokens.map (fun entry => (entry.1, .ok entry.2)) := by
    simp [Prod.ext_iff]
  rw [listed, ← holds.tokens_eq]
  simp [Prod.ext_iff]

/-- The candidates of the lexicon are those of the document. -/
theorem candidate_iff (holds : lx.Holds d) (inside : i ≤ text.length) :
    lx.Candidate (text.take i).reverse (text.drop i) kind piece ↔
      d.CandidateAt text i kind piece := by
  constructor
  · intro candidate
    cases candidate with
    | keyword member stands =>
      obtain ⟨name, written, rfl⟩ := holds.mem_keywords.mp member
      rw [String.ofList_toList]
      exact .literal written ((standsAt_iff inside).mp stands)
    | rule member filled matched =>
      obtain ⟨rule, declared, rfl, expressed⟩ := holds.mem_tokens.mp member
      exact .rule declared ⟨filled, _, expressed, matched⟩
  · intro candidate
    cases candidate with
    | literal written stands =>
      have keyword := Candidate.keyword (holds.mem_keywords.mpr ⟨kind, written, rfl⟩)
        ((standsAt_iff inside).mpr stands)
      rwa [String.ofList_toList] at keyword
    | rule declared applies =>
      obtain ⟨filled, node, expressed, matched⟩ := applies
      exact .rule (holds.mem_tokens.mpr ⟨_, declared, rfl, expressed⟩) filled matched

/-- The length of a candidate is at most a number if this is true of keywords and of
matches. -/
theorem length_le (holds : lx.Holds d) (inside : i ≤ text.length) {n : Nat}
    (literals : ∀ k ∈ lx.keywords, standsAt (text.take i).reverse (text.drop i) k = true →
      k.length ≤ n)
    (rules : ∀ rule ∈ lx.tokens, ∀ found,
      rule.2.matched? (text.take i).reverse (text.drop i) = some found → found.length ≤ n) :
    ∀ kind piece, d.CandidateAt text i kind piece → piece.length ≤ n := by
  intro kind piece candidate
  cases (holds.candidate_iff inside).mpr candidate with
  | keyword member stands => exact literals _ member stands
  | rule member _ matched => exact rules _ member _ matched

/-- A keyword that is found is the token at its offset if no match is longer. -/
theorem longestAt_of_keywordAt? (holds : lx.Holds d) (inside : i ≤ text.length)
    (found : lx.keywordAt? (text.take i).reverse (text.drop i) = some piece)
    (rules : ∀ rule ∈ lx.tokens, ∀ found,
      rule.2.matched? (text.take i).reverse (text.drop i) = some found →
        found.length ≤ piece.length) :
    d.LongestAt text i (String.ofList piece) piece := by
  have stands := List.find?_some found
  obtain ⟨name, written, rfl⟩ := holds.mem_keywords.mp (List.mem_of_find?_eq_some found)
  rw [String.ofList_toList]
  refine .literal written ((standsAt_iff inside).mp stands) ?_
  rw [← String.length_toList]
  refine holds.length_le inside ?_ rules
  intro k member alsoStands
  exact length_le_of_keywordAt? holds.sorted found member alsoStands

/-- The first rule with a longest match gives the token at an offset if every keyword that
stands there is shorter. -/
theorem longestAt_of_firstLongest (holds : lx.Holds d) (inside : i ≤ text.length)
    (first : FirstLongest lx.tokens (text.take i).reverse (text.drop i) kind piece front back node)
    (filled : piece ≠ [])
    (literals : ∀ k ∈ lx.keywords, standsAt (text.take i).reverse (text.drop i) k = true →
      k.length < piece.length) :
    d.LongestAt text i kind piece := by
  -- The rules of the document are cut where the entries of the lexicon are.
  have declared := holds.tokens_eq
  rw [first.split, List.map_append, List.map_cons] at declared
  obtain ⟨ruleFront, tail, split, sameFront, sameTail⟩ := List.map_eq_append_iff.mp declared
  obtain ⟨rule, ruleBack, rfl, same, _⟩ := List.map_eq_cons_iff.mp sameTail
  obtain ⟨rfl, expressed⟩ := Prod.mk.inj same
  refine .rule split ⟨filled, node, expressed, first.matched⟩ ?_ ?_ ?_
  · refine holds.length_le inside ?_ first.longest
    exact fun k member stands => Nat.le_of_lt (literals k member stands)
  · intro k written stands
    rw [← String.length_toList]
    exact literals k.toList (holds.mem_keywords.mpr ⟨k, written, rfl⟩)
      ((standsAt_iff inside).mpr stands)
  · rintro other member found ⟨_, otherNode, otherExpressed, matched⟩
    obtain ⟨entry, inFront, sameEntry⟩ := exists_of_map_eq_map sameFront member
    obtain ⟨_, entryExpressed⟩ := Prod.mk.inj sameEntry
    obtain rfl := Except.ok.inj (entryExpressed.trans otherExpressed)
    exact first.shorter entry inFront found matched

/-- What the lexicon takes at an offset is the token of the document there. -/
theorem longestAt_of_tokenAt? (holds : lx.Holds d) (inside : i ≤ text.length)
    (found : lx.tokenAt? (text.take i).reverse (text.drop i) = some (kind, piece)) :
    d.LongestAt text i kind piece := by
  have bestRule := foldl_offer_cases (text.take i).reverse (text.drop i) lx.tokens none
  change (lx.ruleAt? _ _ = none ∧ _) ∨ ∃ kind text front node back,
    lx.ruleAt? _ _ = some (kind, text) ∧ _ at bestRule
  unfold tokenAt? at found
  cases keyword : lx.keywordAt? (text.take i).reverse (text.drop i) with
  | none =>
    rcases bestRule with ⟨none, _⟩ | ⟨name, text, front, node, back, rule, longer, first⟩
    · simp [keyword, none] at found
    · simp only [keyword, rule, Option.some.injEq, Prod.mk.injEq] at found
      obtain ⟨rfl, rfl⟩ := found
      refine holds.longestAt_of_firstLongest inside first (List.ne_nil_of_length_pos longer) ?_
      intro k member stands
      exact absurd stands (List.find?_eq_none.mp keyword k member)
  | some literal =>
    rcases bestRule with ⟨none, empty⟩ | ⟨name, text, front, node, back, rule, longer, first⟩
    · simp only [keyword, none, Option.some.injEq, Prod.mk.injEq] at found
      obtain ⟨rfl, rfl⟩ := found
      refine holds.longestAt_of_keywordAt? inside keyword ?_
      intro rule member found matched
      exact Nat.le_trans (empty rule member found matched) (Nat.zero_le _)
    · simp only [keyword, rule] at found
      split at found
      · rename_i short
        obtain ⟨rfl, rfl⟩ := Prod.mk.inj (Option.some.inj found)
        refine holds.longestAt_of_keywordAt? inside keyword ?_
        intro rule member found matched
        exact Nat.le_trans (first.longest rule member found matched) short
      · rename_i long
        obtain ⟨rfl, rfl⟩ := Prod.mk.inj (Option.some.inj found)
        refine holds.longestAt_of_firstLongest inside first (List.ne_nil_of_length_pos longer) ?_
        intro k member stands
        exact Nat.lt_of_le_of_lt (length_le_of_keywordAt? holds.sorted keyword member stands)
          (Nat.lt_of_not_le long)

end Holds

end Lexicon

namespace RuleFile.Document

variable {d : Document} {text piece other : List Char} {kind name : Symbol} {i : Nat}

/-- The token at an offset is one of the candidates there. -/
theorem LongestAt.candidateAt (token : d.LongestAt text i kind piece) :
    d.CandidateAt text i kind piece := by
  cases token with
  | literal written stands _ => exact .literal written stands
  | rule split matched _ _ _ => exact .rule (by simp [split]) matched

theorem LongestAt.length_le (token : d.LongestAt text i kind piece)
    (candidate : d.CandidateAt text i name other) : other.length ≤ piece.length := by
  cases token with
  | literal _ _ longest => exact longest _ _ candidate
  | rule _ _ longest _ _ => exact longest _ _ candidate

/-- A candidate is the piece of the text at its offset. -/
theorem CandidateAt.isPrefix (candidate : d.CandidateAt text i kind piece) :
    piece <+: text.drop i := by
  cases candidate with
  | literal _ stands => exact stands.occurs
  | rule _ applies =>
    obtain ⟨_, node, _, matched⟩ := applies
    exact ⟨_, Regex.Node.matched?_eq_some matched⟩

/-- There is at most one token at an offset. -/
theorem LongestAt.unique (one : d.LongestAt text i kind piece)
    (again : d.LongestAt text i name other) : kind = name ∧ piece = other := by
  have sameLength : piece.length = other.length :=
    Nat.le_antisymm (again.length_le one.candidateAt) (one.length_le again.candidateAt)
  have same : piece = other :=
    (List.prefix_of_prefix_length_le one.candidateAt.isPrefix again.candidateAt.isPrefix
      (Nat.le_of_eq sameLength)).eq_of_length sameLength
  refine ⟨?_, same⟩
  cases one with
  | literal written stands _ =>
    cases again with
    | literal _ _ _ => exact String.toList_injective same
    | rule _ _ _ literals _ =>
      have shorter := literals kind written stands
      rw [← String.length_toList] at shorter
      omega
  | rule split matched _ literals earlier =>
    cases again with
    | literal written stands _ =>
      have shorter := literals name written stands
      rw [← String.length_toList] at shorter
      omega
    | rule otherSplit otherMatched _ _ otherEarlier =>
      -- If the two rules were different, one would be declared in front of the other one.
      rcases List.append_eq_append_iff.mp (split.symm.trans otherSplit) with
        ⟨between, rfl, rest⟩ | ⟨between, rfl, rest⟩
      · rcases List.cons_eq_append_iff.mp rest with ⟨rfl, same⟩ | ⟨others, rfl, _⟩
        · exact congrArg TokenRule.name (List.cons.inj same).1.symm
        · have shorter := otherEarlier _ (by simp) _ matched
          omega
      · rcases List.cons_eq_append_iff.mp rest with ⟨rfl, same⟩ | ⟨others, rfl, _⟩
        · exact congrArg TokenRule.name (List.cons.inj same).1
        · have shorter := earlier _ (by simp) _ otherMatched
          omega

end RuleFile.Document

namespace Lexer

variable {l : Lexer} {lx : Lexicon} {d : Document}

/-- Commands. Both literals are words, and one begins the other one. -/
def commands : Grammar where
  terminals := ["ID", "if", "iffy"]
  nonterminals := ["command"]
  start := "command"
  rules := [⟨"command", ["if", "ID"]⟩, ⟨"command", ["iffy"]⟩]
  terminals_set := ⟨by decide, by decide⟩
  nonterminals_set := ⟨by decide, by decide⟩
  terminals_ne_nil := by decide
  disjoint := by decide
  terminal_not_reserved := by decide
  nonterminal_not_reserved := by decide
  start_declared := by decide
  rules_nodup := by decide
  lhs_declared := by decide
  rhs_ne_nil := by decide
  rhs_declared := by decide
  has_rule := by decide

/-- A rule file for commands. -/
def commandsSource : String := "%token ID /[a-z]+/; %ignore / +/; command : 'if' ID | 'iffy';"

/-- What a text of commands is cut into. -/
def commandsLexicon : Lexicon where
  keywords := ["iffy".toList, "if".toList]
  tokens := [("ID", Regex.runOf (.set [.range 97 122] false .exact))]
  ignores := [Regex.runOf (.set [.range 32 32] false .exact)]

theorem commands_are_read : ∃ d, Document.ofText commandsSource.toList = .ok d ∧
    Lexicon.ofDocument d = .ok commandsLexicon ∧ d.grammar? = .ok commands := by
  refine ⟨?_, ?read, ?content⟩
  case read =>
    cbv
    rfl
  case content =>
    refine ⟨?_, rfl⟩
    cbv

end Lexer

end Predictive
