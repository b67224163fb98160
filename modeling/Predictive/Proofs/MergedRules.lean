import Mathlib.Computability.ContextFreeGrammar
import Predictive.Grammar.Derivation
import Predictive.Proofs.LiteralSentences
import Predictive.Proofs.UndeclaredNames

/-!
# Rules of one name add up

The rules of a file may come in any order, several of them may have one name, and they may
repeat alternatives. Read as one context-free grammar, a file lets a name derive whatever an
alternative of any rule of that name says. Its grammar keeps all of it: the terminals, the
nonterminals and the start symbol are those of the file, the productions of a nonterminal are
the first occurrences of its alternatives in the order of the file, and both grammars have
one language.
-/

namespace Predictive.RuleFile.Document

/-- The productions that the rules of one name write, rule by rule in the order of the file. -/
def writtenProductions (d : Document) (a : Symbol) : List Production :=
  (d.rules.filter (fun rule => rule.name = a)).flatMap (fun rule =>
    rule.alternatives.map (fun alternative => .of a (alternative.elements.map Element.text)))

/-- What a name stands for: a nonterminal if a rule has it, and else a terminal. -/
def reading (d : Document) (name : String) :=
  if name ∈ d.rules.map Rule.name then Symbol.nonterminal name else Symbol.terminal name

/-- What an element stands for: a literal is a terminal, and the name `ε` is no symbol. -/
def symbol? (d : Document) (e : Element) :=
  if e.isLiteral then some (Symbol.terminal e.text)
  else if e.text = epsilon then none
  else some (d.reading e.text)

/-- A context-free rule for every alternative of every rule. -/
def contextFreeRules (d : Document) : List (ContextFreeRule String String) :=
  d.rules.flatMap (fun rule =>
    rule.alternatives.map (fun alternative =>
      ⟨rule.name, alternative.elements.filterMap d.symbol?⟩))

/-- The rules of a file, read as one context-free grammar. -/
def contextFree (d : Document) : ContextFreeGrammar String where
  NT := String
  initial := d.startName
  rules := d.contextFreeRules.toFinset

variable {d : Document} {g : Grammar}

theorem mem_contextFree_rules {r : ContextFreeRule String String} :
    r ∈ d.contextFree.rules ↔ ∃ rule ∈ d.rules, ∃ alternative ∈ rule.alternatives,
      r = ⟨rule.name, alternative.elements.filterMap d.symbol?⟩ := by
  have listed : r ∈ d.contextFree.rules ↔ r ∈ d.contextFreeRules := List.mem_toFinset
  simp only [listed, contextFreeRules, List.mem_flatMap, List.mem_map, eq_comm]

/-! What an accepted document says of its grammar. -/

/-- The productions of the grammar are those of the alternatives. -/
theorem mem_rules_iff (meant : d.grammar? = .ok g) {p : Production} :
    p ∈ g.rules ↔ ∃ rule ∈ d.rules, ∃ alternative ∈ rule.alternatives,
      p = .of rule.name (alternative.elements.map Element.text) := by
  obtain ⟨_, _, _, _, rules⟩ := Grammar.content_of_accepted (ofDeclaration?_of_grammar? meant)
  simp only [rules, Finite.mem_distinct, productions_of_rules, List.mem_flatMap, productionsOfRule,
    List.mem_map, eq_comm]

/-- The nonterminals of the grammar are the names of the rules. -/
theorem mem_nonterminals_iff (meant : d.grammar? = .ok g) {a : Symbol} :
    a ∈ g.nonterminals ↔ a ∈ d.rules.map Rule.name := by
  obtain ⟨_, _, nonterminals, _⟩ := Grammar.content_of_accepted (ofDeclaration?_of_grammar? meant)
  rw [nonterminals, mem_nameSet, declaration]

theorem start_eq (meant : d.grammar? = .ok g) : g.start = d.startName :=
  (Grammar.content_of_accepted (ofDeclaration?_of_grammar? meant)).2.2.2.1

/-- Of the productions of all rules, those of one name are what its rules write. -/
theorem filter_productions (d : Document) (a : Symbol) :
    (d.rules.flatMap productionsOfRule).filter (fun p => p.lhs = a) = d.writtenProductions a := by
  unfold writtenProductions
  induction d.rules with
  | nil => rfl
  | cons rule rules inductionHypothesis =>
    rw [List.flatMap_cons, List.filter_append, inductionHypothesis]
    by_cases own : rule.name = a
    · subst own
      have kept : (productionsOfRule rule).filter (fun p => p.lhs = rule.name) =
          productionsOfRule rule := by
        simp [productionsOfRule, Production.of]
      rw [kept, List.filter_cons_of_pos (by simp), List.flatMap_cons]
      rfl
    · have dropped : (productionsOfRule rule).filter (fun p => p.lhs = a) = [] := by
        simp [productionsOfRule, Production.of, own]
      rw [dropped, List.filter_cons_of_neg (by simp [own]), List.nil_append]

/-- The productions of a nonterminal are the first occurrences of its alternatives. -/
theorem productionsOf_eq (meant : d.grammar? = .ok g) (a : Symbol) :
    g.productionsOf a = (d.writtenProductions a).eraseDups := by
  obtain ⟨_, _, _, _, rules⟩ := Grammar.content_of_accepted (ofDeclaration?_of_grammar? meant)
  rw [Grammar.productionsOf, rules, Finite.filter_distinct, Finite.distinct_eq_eraseDups,
    productions_of_rules, filter_productions]

/-! The two readings of a name. -/

theorem reading_of_nonterminal (meant : d.grammar? = .ok g) {a : Symbol}
    (nonterminal : a ∈ g.nonterminals) : d.reading a = Symbol.nonterminal a :=
  if_pos ((mem_nonterminals_iff meant).mp nonterminal)

theorem reading_of_terminal (meant : d.grammar? = .ok g) {t : Symbol} (terminal : t ∈ g.terminals) :
    d.reading t = Symbol.terminal t :=
  if_neg (fun named => g.disjoint t terminal ((mem_nonterminals_iff meant).mpr named))

/-- An element of an accepted document stands for its text, and for no symbol if this is the
mark `ε`: no literal of such a document has the text of the mark or of a rule's name. -/
theorem symbol?_eq (meant : d.grammar? = .ok g) {e : Element} (member : e ∈ d.elements) :
    d.symbol? e = if e.text = epsilon then none else some (d.reading e.text) := by
  cases literal : e.isLiteral with
  | true =>
    have keyword : e.text ∈ d.keywords :=
      List.mem_map_of_mem (List.mem_filter.mpr ⟨member, literal⟩)
    have terminal : e.text ∈ g.terminals := (mem_terminals_iff meant).mpr (Or.inr keyword)
    rw [if_neg (Grammar.terminal_ne_epsilon terminal), reading_of_terminal meant terminal]
    simp [symbol?, literal]
  | false => simp [symbol?, literal]

/-- The body of a stored production is its right side without the mark `ε`. -/
theorem body_eq_filter {p : Production} (stored : p ∈ g.rules) :
    p.body = p.rhs.filter (· ≠ epsilon) := by
  rcases g.rhs_declared p stored with alone | declared
  · rw [Production.body_eq_nil_of_isEpsilon (by simp [Production.isEpsilon, alone]), alone]
    rfl
  · have unmarked : ∀ x ∈ p.rhs, x ≠ epsilon := by
      rintro x member rfl
      rcases declared _ member with terminal | nonterminal
      · exact Grammar.epsilon_not_terminal terminal
      · exact Grammar.epsilon_not_nonterminal nonterminal
    have filled : p.isEpsilon = false := by
      refine eq_false_of_ne_true (fun lone => ?_)
      have alone : p.rhs = [epsilon] := by simpa [Production.isEpsilon] using lone
      exact unmarked epsilon (alone ▸ List.mem_singleton_self _) rfl
    rw [Production.body_eq_rhs_of_not_isEpsilon filled, List.filter_eq_self.mpr]
    exact fun x member => decide_eq_true (unmarked x member)

/-- The mark of the empty body does not count among the symbols of an alternative. -/
theorem filter_of_rhs (a : Symbol) (names : List Symbol) :
    (Production.of a names).rhs.filter (· ≠ epsilon) = names.filter (· ≠ epsilon) := by
  unfold Production.of
  split
  · rename_i empty
    rw [empty]
    rfl
  · rfl

/-- An alternative of an accepted document stands for the body of its production. -/
theorem filterMap_symbol?_eq (meant : d.grammar? = .ok g) {rule : Rule} (inFile : rule ∈ d.rules)
    {alternative : Alternative} (inRule : alternative ∈ rule.alternatives) :
    alternative.elements.filterMap d.symbol? =
      (Production.of rule.name (alternative.elements.map Element.text)).body.map d.reading := by
  have stored := (mem_rules_iff meant).mpr ⟨rule, inFile, alternative, inRule, rfl⟩
  have written : ∀ e ∈ alternative.elements, d.symbol? e =
      if e.text = epsilon then none else some (d.reading e.text) := fun e inside =>
    symbol?_eq meant
      (List.mem_flatMap.mpr ⟨rule, inFile, List.mem_flatMap.mpr ⟨alternative, inRule, inside⟩⟩)
  rw [body_eq_filter stored, filter_of_rhs, List.filterMap_congr written]
  clear stored written
  induction alternative.elements with
  | nil => rfl
  | cons e others inductionHypothesis =>
    by_cases mark : e.text = epsilon <;> simp [mark, inductionHypothesis]

/-- The rules of the file, read as one context-free grammar, are the productions. -/
theorem mem_contextFree_rules_iff (meant : d.grammar? = .ok g) {r : ContextFreeRule String String} :
    r ∈ d.contextFree.rules ↔ ∃ p ∈ g.rules, r = ⟨p.lhs, p.body.map d.reading⟩ := by
  rw [mem_contextFree_rules]
  constructor
  · rintro ⟨rule, inFile, alternative, inRule, rfl⟩
    refine ⟨_, (mem_rules_iff meant).mpr ⟨rule, inFile, alternative, inRule, rfl⟩, ?_⟩
    rw [filterMap_symbol?_eq meant inFile inRule]
    rfl
  · rintro ⟨p, stored, rfl⟩
    obtain ⟨rule, inFile, alternative, inRule, rfl⟩ := (mem_rules_iff meant).mp stored
    refine ⟨rule, inFile, alternative, inRule, ?_⟩
    rw [filterMap_symbol?_eq meant inFile inRule]
    rfl

/-! Derivations. -/

variable {u v w : List Symbol}

/-- Only a name is read as a given nonterminal. -/
theorem eq_of_reading {x a : String} (same : d.reading x = Symbol.nonterminal a) : x = a := by
  unfold reading at same
  split at same
  · exact Symbol.nonterminal.inj same
  · cases same

/-- A step of the grammar is one of the file. -/
theorem produces_of_step (meant : d.grammar? = .ok g) (one : g.Step u v) :
    d.contextFree.Produces (u.map d.reading) (v.map d.reading) := by
  cases one with
  | @apply before after p stored =>
    have nonterminal := reading_of_nonterminal meant (g.lhs_declared p stored)
    have rewrites : (ContextFreeRule.mk p.lhs (p.body.map d.reading)).Rewrites
        ((before ++ p.lhs :: after).map d.reading)
        ((before ++ (p.body ++ after)).map d.reading) := by
      rw [ContextFreeRule.rewrites_iff]
      exact ⟨before.map d.reading, after.map d.reading, by simp [nonterminal], by simp⟩
    exact ⟨_, (mem_contextFree_rules_iff meant).mpr ⟨p, stored, rfl⟩, rewrites⟩

/-- A rule of the file leads from names to names as its production does. -/
theorem step_of_rewrites {p : Production} (stored : p ∈ g.rules) {x}
    (rewrites : (ContextFreeRule.mk p.lhs (p.body.map d.reading)).Rewrites (u.map d.reading) x) :
    ∃ v, x = v.map d.reading ∧ g.Step u v := by
  obtain ⟨front, back, parts, rfl⟩ := rewrites.exists_parts
  rw [List.append_assoc, List.singleton_append] at parts
  obtain ⟨before, rest, rfl, rfl, later⟩ := List.map_eq_append_iff.mp parts
  obtain ⟨a, after, rfl, same, rfl⟩ := List.map_eq_cons_iff.mp later
  obtain rfl := eq_of_reading same
  exact ⟨before ++ (p.body ++ after), by simp, .apply before after stored⟩

/-- From names the file derives names only, and the grammar derives them as well. -/
theorem derives_of_contextFree (meant : d.grammar? = .ok g) {x y} (named : x = u.map d.reading)
    (steps : d.contextFree.Derives x y) : ∃ v, y = v.map d.reading ∧ g.Derives u v := by
  induction steps with
  | refl => exact ⟨u, named, .refl u⟩
  | tail _ one inductionHypothesis =>
    obtain ⟨v, rfl, earlier⟩ := inductionHypothesis
    obtain ⟨r, member, rewrites⟩ := one
    obtain ⟨p, stored, rfl⟩ := (mem_contextFree_rules_iff meant).mp member
    obtain ⟨w, same, step⟩ := step_of_rewrites stored rewrites
    exact ⟨w, same, earlier.trans (.step step (.refl w))⟩

/-- Whatever the grammar derives, the file derives. -/
theorem contextFree_derives (meant : d.grammar? = .ok g) (steps : g.Derives u v) {x y}
    (first : x = u.map d.reading) (last : y = v.map d.reading) : d.contextFree.Derives x y := by
  subst first last
  induction steps with
  | refl u => exact .refl _
  | step one _ inductionHypothesis =>
    exact (produces_of_step meant one).trans_derives inductionHypothesis

/-- Both start from the same name. -/
theorem map_reading_start (meant : d.grammar? = .ok g) :
    [Symbol.nonterminal d.startName] = [g.start].map d.reading := by
  rw [List.map_singleton, reading_of_nonterminal meant g.start_declared, start_eq meant]

/-- A word is read as a string of terminals. -/
theorem map_reading_of_isWord (meant : d.grammar? = .ok g) (word : g.IsWord w) :
    w.map d.reading = w.map Symbol.terminal :=
  List.map_congr_left (fun t member => reading_of_terminal meant (word t member))

/-- Declared names that are read as terminals are a word. -/
theorem isWord_of_map_reading (meant : d.grammar? = .ok g) (form : g.IsForm v)
    (same : w.map Symbol.terminal = v.map d.reading) : w = v ∧ g.IsWord v := by
  have word : g.IsWord v := by
    intro x member
    refine (form x member).resolve_right (fun nonterminal => ?_)
    have read : d.reading x ∈ w.map Symbol.terminal := same ▸ List.mem_map_of_mem member
    rw [reading_of_nonterminal meant nonterminal] at read
    obtain ⟨_, _, clash⟩ := List.mem_map.mp read
    cases clash
  rw [map_reading_of_isWord meant word] at same
  exact ⟨List.map_injective_iff.mpr (fun _ _ => Symbol.terminal.inj) same, word⟩

/-- The file, read as one context-free grammar, has the language of its grammar. -/
theorem mem_language_iff (meant : d.grammar? = .ok g) :
    w ∈ d.contextFree.language ↔ g.Generates w := by
  constructor
  · intro steps
    obtain ⟨v, same, derived⟩ := derives_of_contextFree meant (map_reading_start meant) steps
    have form : g.IsForm v :=
      derived.isForm (List.forall_mem_singleton.mpr (Or.inr g.start_declared))
    obtain ⟨rfl, word⟩ := isWord_of_map_reading meant form same
    exact ⟨word, derived⟩
  · rintro ⟨word, steps⟩
    have named := (map_reading_of_isWord meant word).symm
    exact contextFree_derives meant steps (map_reading_start meant) named

/-- The grammar of a file keeps every rule. Its terminals are the names of the tokens and the
texts of the literals, its nonterminals are the names of the rules, and its start symbol is
the declared one or the name of the first rule. The productions of a nonterminal are what
all rules of its name write, in the order of the file and each one once. Its language is that
of the rules read as one context-free grammar. -/
theorem every_rule_is_kept (meant : d.grammar? = .ok g) :
    (∀ x, x ∈ g.terminals ↔ x ∈ d.tokenNames ∨ x ∈ d.keywords) ∧
    (∀ a, a ∈ g.nonterminals ↔ ∃ rule ∈ d.rules, rule.name = a) ∧
    (∀ a ∈ g.nonterminals, g.productionsOf? a = .ok (d.writtenProductions a).eraseDups) ∧
    (∀ name, d.start = some name → name ≠ "" → g.start = name) ∧
    (d.start = none ∨ d.start = some "" → d.rules.head?.map Rule.name = some g.start) ∧
    ∀ w, g.Generates w ↔ w ∈ d.contextFree.language := by
  refine ⟨fun _ => mem_terminals_iff meant, ?_, ?_, ?_, ?_, fun _ => (mem_language_iff meant).symm⟩
  · intro a
    rw [mem_nonterminals_iff meant, List.mem_map]
  · intro a declared
    rw [Grammar.productionsOf?_eq_ok declared, productionsOf_eq meant]
  · intro name declared filled
    rw [start_eq meant, startName_eq declared filled]
  · intro undeclared
    obtain ⟨_, inFile, _⟩ := List.mem_map.mp ((mem_nonterminals_iff meant).mp g.start_declared)
    obtain ⟨rule, others, rules⟩ := List.exists_cons_of_ne_nil (List.ne_nil_of_mem inFile)
    have none : d.start.filter (· ≠ "") = none := by
      rcases undeclared with absent | empty
      · rw [absent]
        rfl
      · rw [empty]
        rfl
    rw [start_eq meant, startName, none, rules]
    rfl

/-- Two rules of one name with another one between them, which has an empty alternative. -/
def scattered : Document where
  rules := [
    ⟨"S", [⟨[⟨"x", true, ⟨⟨4, 1, 5⟩, 7⟩⟩], ⟨⟨4, 1, 5⟩, 7⟩⟩,
      ⟨[⟨"T", false, ⟨⟨10, 1, 11⟩, 11⟩⟩], ⟨⟨10, 1, 11⟩, 11⟩⟩], ⟨⟨0, 1, 1⟩, 1⟩⟩,
    ⟨"T", [⟨[], ⟨⟨18, 1, 19⟩, 19⟩⟩], ⟨⟨14, 1, 15⟩, 15⟩⟩,
    ⟨"S", [⟨[⟨"T", false, ⟨⟨24, 1, 25⟩, 25⟩⟩], ⟨⟨24, 1, 25⟩, 25⟩⟩,
      ⟨[⟨"y", true, ⟨⟨28, 1, 29⟩, 31⟩⟩, ⟨"S", false, ⟨⟨32, 1, 33⟩, 33⟩⟩], ⟨⟨28, 1, 29⟩, 31⟩⟩],
      ⟨⟨20, 1, 21⟩, 21⟩⟩]
  start := some "S"

/-- The alternatives of both rules are kept, and the one that comes twice is kept once. -/
theorem scattered_alternatives_are_merged :
    (ofText "S : \"x\" | T ; T : ; S : T | \"y\" S ;".toList).toOption = some scattered ∧
    ∃ g, scattered.grammar? = .ok g ∧ g.start = "S" ∧
      g.productionsOf? "S" = .ok [⟨"S", ["x"]⟩, ⟨"S", ["T"]⟩, ⟨"S", ["y", "S"]⟩] ∧
      g.productionsOf? "T" = .ok [⟨"T", [epsilon]⟩] ∧
      ∀ w, g.Generates w ↔ w ∈ scattered.contextFree.language := by
  refine ⟨by decide +kernel, ?_⟩
  obtain ⟨g, meant, _⟩ := Grammar.exists_ofDeclaration? (d := scattered.declaration) (by decide)
  obtain ⟨_, nonterminals, kept, start, _, language⟩ := every_rule_is_kept (d := scattered) meant
  have written : (scattered.writtenProductions "S").eraseDups =
      [⟨"S", ["x"]⟩, ⟨"S", ["T"]⟩, ⟨"S", ["y", "S"]⟩] := by decide
  have empty : (scattered.writtenProductions "T").eraseDups = [⟨"T", [epsilon]⟩] := by decide
  refine ⟨g, meant, start "S" rfl (by decide), ?_, ?_, language⟩
  · rw [kept "S" ((nonterminals "S").mpr (by decide)), written]
  · rw [kept "T" ((nonterminals "T").mpr (by decide)), empty]

end Predictive.RuleFile.Document
