import Predictive.Proofs.DocumentReading
import Predictive.Proofs.WrittenWords
import Predictive.RuleFile.Meaning

/-!
# The lexemes of written rules

A part of a document says something apart from its places: an element its text and
whether it is a literal, an alternative what its elements say, a rule its name and what
its alternatives say. For each part there is the language of the lexemes that spell a part
with a given content. Words of a written grammar give lexemes of these languages, line by
line.
-/

namespace Predictive

namespace RuleFile

open Text (literal)

/-- What an element says, apart from its place. -/
def Element.content (e : Element) : String × Bool := (e.text, e.isLiteral)

/-- What an alternative says, apart from places. -/
def Alternative.content (a : Alternative) : List (String × Bool) := a.elements.map Element.content

/-- What a rule says, apart from places. -/
def Rule.content (r : Rule) : String × List (List (String × Bool)) :=
  (r.name, r.alternatives.map Alternative.content)

/-- The lexemes that spell elements with the given contents. -/
def elementsOf (contents : List (String × Bool)) : Language Lexeme :=
  fun lexemes => ∃ elements, Element.AllSpelled lexemes elements ∧
    elements.map Element.content = contents

/-- The lexemes that spell an alternative with the given content, whatever delimiter
stands behind them. -/
def alternativeOf (content : List (String × Bool)) : Language Lexeme :=
  fun lexemes => ∀ next, ∃ alternative : Alternative, alternative.Spelled next lexemes ∧
    alternative.content = content

/-- The lexemes that spell alternatives with the given contents. -/
def alternativesOf (contents : List (List (String × Bool))) : Language Lexeme :=
  fun lexemes => ∀ next, ∃ alternatives, Alternative.AllSpelled next lexemes alternatives ∧
    alternatives.map Alternative.content = contents

/-- The lexemes that spell a rule with the given content. -/
def ruleOf (content : String × List (List (String × Bool))) : Language Lexeme :=
  fun lexemes => ∃ rule : Rule, rule.Spelled lexemes ∧ rule.content = content

/-- The lexemes that spell rules with the given contents. -/
def rulesOf (contents : List (String × List (List (String × Bool)))) : Language Lexeme :=
  fun lexemes => ∃ rules, Rule.AllSpelled lexemes rules ∧ rules.map Rule.content = contents

/-- The lexemes of a start directive for the given name. -/
def startOf (name : String) : Language Lexeme :=
  fun lexemes => Directive.Spelled lexemes (.start name)

theorem one_le_elementsOf : 1 ≤ elementsOf [] := by
  rintro _ rfl
  exact ⟨[], .nil, rfl⟩

theorem name_mul_elementsOf (name : List Char) (contents : List (String × Bool)) :
    lexemeOf .identifier name * elementsOf contents ≤
      elementsOf ((String.ofList name, false) :: contents) := by
  rintro _ ⟨_, ⟨l, named, text, rfl⟩, lexemes, ⟨elements, spelled, same⟩, rfl⟩
  refine ⟨⟨l.text, false, l.span⟩ :: elements, .cons (.name named) spelled, ?_⟩
  rw [List.map_cons, same, Element.content, text]

theorem literal_mul_elementsOf {value : List Char} (filled : value ≠ [])
    (contents : List (String × Bool)) :
    lexemeOf .doubleQuoted (literal value) * elementsOf contents ≤
      elementsOf ((String.ofList value, true) :: contents) := by
  rintro _ ⟨_, ⟨l, quoted, text, rfl⟩, lexemes, ⟨elements, spelled, same⟩, rfl⟩
  have reads : Text.unquote l.text.toList = .ok value := by
    rw [text, String.toList_ofList]
    exact Text.unquote_literal value
  refine ⟨⟨String.ofList value, true, l.span⟩ :: elements,
    .cons (.literal (Or.inl quoted) reads filled) spelled, ?_⟩
  rw [List.map_cons, same, Element.content]

theorem elementsOf_le_alternativeOf (content : List (String × Bool)) :
    elementsOf content ≤ alternativeOf content := by
  rintro lexemes ⟨elements, spelled, same⟩ next
  exact ⟨_, .elements spelled, same⟩

theorem empty_le_alternativeOf :
    lexemeOf .percent ['%'] * lexemeOf .identifier "empty".toList ≤ alternativeOf [] := by
  rintro _ ⟨_, ⟨sign, opens, _, rfl⟩, _, ⟨keyword, named, text, rfl⟩, rfl⟩ next
  exact ⟨_, .empty opens ⟨named, text⟩, rfl⟩

theorem alternativeOf_le_alternativesOf (content : List (String × Bool)) :
    alternativeOf content ≤ alternativesOf [content] := by
  intro lexemes member next
  obtain ⟨alternative, spelled, same⟩ := member next
  exact ⟨[alternative], .single spelled, by rw [List.map_singleton, same]⟩

theorem alternativeOf_mul_alternativesOf (content : List (String × Bool))
    (contents : List (List (String × Bool))) :
    alternativeOf content * (lexemeOf .bar ['|'] * alternativesOf contents) ≤
      alternativesOf (content :: contents) := by
  rintro _ ⟨front, first, _, ⟨_, ⟨bar, parts, _, rfl⟩, rest, others, rfl⟩, rfl⟩ next
  obtain ⟨alternative, spelled, same⟩ := first bar
  obtain ⟨alternatives, allSpelled, allSame⟩ := others next
  exact ⟨alternative :: alternatives, .cons spelled parts allSpelled,
    by rw [List.map_cons, same, allSame]⟩

theorem words_le_ruleOf (name : List Char) (contents : List (List (String × Bool))) :
    lexemeOf .identifier name *
        (lexemeOf .colon [':'] * (alternativesOf contents * lexemeOf .semicolon [';'])) ≤
      ruleOf (String.ofList name, contents) := by
  rintro _ ⟨_, ⟨l, named, text, rfl⟩, _, ⟨_, ⟨colon, opens, _, rfl⟩, _, ⟨body, spelled, _,
    ⟨close, closes, _, rfl⟩, rfl⟩, rfl⟩, rfl⟩
  obtain ⟨alternatives, allSpelled, same⟩ := spelled close
  refine ⟨_, .rule named opens allSpelled closes, ?_⟩
  rw [Rule.content, same, text]

theorem one_le_rulesOf : 1 ≤ rulesOf [] := by
  rintro _ rfl
  exact ⟨[], .nil, rfl⟩

theorem ruleOf_mul_rulesOf (content : String × List (List (String × Bool)))
    (contents : List (String × List (List (String × Bool)))) :
    ruleOf content * rulesOf contents ≤ rulesOf (content :: contents) := by
  rintro _ ⟨front, ⟨rule, spelled, same⟩, rest, ⟨rules, allSpelled, allSame⟩, rfl⟩
  exact ⟨rule :: rules, .cons spelled allSpelled, by rw [List.map_cons, same, allSame]⟩

theorem words_le_startOf (name : List Char) :
    lexemeOf .percent ['%'] * lexemeOf .identifier "start".toList *
        (lexemeOf .identifier name * lexemeOf .semicolon [';']) ≤
      startOf (String.ofList name) := by
  rintro _ ⟨_, ⟨_, ⟨sign, opens, _, rfl⟩, _, ⟨keyword, worded, wordText, rfl⟩, rfl⟩, _,
    ⟨_, ⟨l, named, text, rfl⟩, _, ⟨close, closes, _, rfl⟩, rfl⟩, rfl⟩
  have spelled := Directive.Spelled.start opens ⟨worded, wordText⟩ named closes
  rw [text] at spelled
  exact spelled

end RuleFile

namespace Grammar

open RuleFile

variable {g : Grammar}

/-- What the element of a symbol says. -/
def symbolContent (g : Grammar) (x : Symbol) : String × Bool := (x, g.isTerminal x)

/-- What the alternative of a production says. -/
def bodyContent (g : Grammar) (p : Production) : List (String × Bool) := p.body.map g.symbolContent

/-- What the rule of a nonterminal says. -/
def ruleContent (g : Grammar) (a : Symbol) : String × List (List (String × Bool)) :=
  (a, (g.productionsOf a).map g.bodyContent)

/-- Nonterminals are names to the scanner, and terminals are not empty. -/
structure Writable (g : Grammar) : Prop where
  named : ∀ a ∈ g.nonterminals, identifier? a.toList = some a.toList.length
  filled : ∀ t ∈ g.terminals, t ≠ ""

/-- The words of declared symbols give their elements. -/
theorem Writable.symbols_phrase (writable : g.Writable) {xs : List Symbol}
    (declared : ∀ x ∈ xs, x ∈ g.terminals ∨ x ∈ g.nonterminals) :
    PhraseOf (elementsOf (xs.map g.symbolContent)) (xs.map g.symbolWord) := by
  induction xs with
  | nil => exact phraseOf_nil.mono one_le_elementsOf
  | cons x rest inductionHypothesis =>
    have others := inductionHypothesis (fun y member => declared y (List.mem_cons_of_mem x member))
    by_cases terminal : x ∈ g.terminals
    · have word : g.symbolWord x = Text.literal x.toList := by simp [symbolWord, isTerminal, terminal]
      have content : g.symbolContent x = (String.ofList x.toList, true) := by
        simp [symbolContent, isTerminal, terminal]
      have filled : x.toList ≠ [] := by
        simpa using writable.filled x terminal
      rw [List.map_cons, List.map_cons, word, content]
      exact ((wordOf_literal x.toList).phrase.append others).mono (literal_mul_elementsOf filled _)
    · have word : g.symbolWord x = x.toList := by simp [symbolWord, isTerminal, terminal]
      have content : g.symbolContent x = (String.ofList x.toList, false) := by
        simp [symbolContent, isTerminal, terminal]
      have nonterminal := (declared x List.mem_cons_self).resolve_left terminal
      rw [List.map_cons, List.map_cons, word, content]
      exact ((wordOf_name (writable.named x nonterminal)).phrase.append others).mono
        (name_mul_elementsOf _ _)

/-- The words of a body give its alternative. -/
theorem Writable.body_phrase (writable : g.Writable) {p : Production} (member : p ∈ g.rules) :
    PhraseOf (alternativeOf (g.bodyContent p)) (g.bodyWords p) := by
  cases empty : p.isEpsilon with
  | true =>
    have word : WordOf _ "%empty".toList := wordOf_keyword (by decide : identifier? "empty".toList = _)
    simpa [bodyWords, bodyContent, Production.body, empty] using
      word.phrase.mono empty_le_alternativeOf
  | false =>
    have declared : ∀ x ∈ p.rhs, x ∈ g.terminals ∨ x ∈ g.nonterminals := by
      rcases g.rhs_declared p member with marked | declared
      · simp [Production.isEpsilon, marked] at empty
      · exact declared
    simpa [bodyWords, bodyContent, Production.body, empty] using
      (writable.symbols_phrase declared).mono (elementsOf_le_alternativeOf _)

/-- The words of alternatives give them in their order. -/
theorem Writable.alternatives_phrase (writable : g.Writable) {ps : List Production} (filled : ps ≠ [])
    (members : ∀ p ∈ ps, p ∈ g.rules) :
    PhraseOf (alternativesOf (ps.map g.bodyContent)) (g.alternativeWords ps) := by
  induction ps with
  | nil => exact absurd rfl filled
  | cons p rest inductionHypothesis =>
    have first := writable.body_phrase (members p List.mem_cons_self)
    cases rest with
    | nil => exact first.mono (alternativeOf_le_alternativesOf _)
    | cons q others =>
      have later := inductionHypothesis (List.cons_ne_nil q others)
        (fun r member => members r (List.mem_cons_of_mem p member))
      exact (first.append (wordOf_bar.phrase.append later)).mono
        (alternativeOf_mul_alternativesOf _ _)

/-- The line of a nonterminal gives its rule. -/
theorem Writable.rule_line (writable : g.Writable) {a : Symbol} (declared : a ∈ g.nonterminals) :
    LineOf (ruleOf (g.ruleContent a)) (g.ruleWords a) := by
  have filled : g.productionsOf a ≠ [] := by
    obtain ⟨p, member, left⟩ := g.has_rule a declared
    exact List.ne_nil_of_mem (mem_productionsOf.mpr ⟨member, left⟩)
  have alternatives := writable.alternatives_phrase filled (fun p member => (mem_productionsOf.mp member).1)
  have phrase := (wordOf_name (writable.named a declared)).phrase.append
    (wordOf_colon.phrase.append (alternatives.append wordOf_semicolon.phrase))
  have line := phrase.line.mono (words_le_ruleOf a.toList _)
  rw [String.ofList_toList] at line
  exact line

/-- The lines of nonterminals give their rules. -/
theorem Writable.rules_scan (writable : g.Writable) {names : List Symbol}
    (declared : ∀ a ∈ names, a ∈ g.nonterminals) :
    ScansInto ((names.map g.ruleWords).flatMap writtenLine) (rulesOf (names.map g.ruleContent)) := by
  induction names with
  | nil => exact scansInto_nil.mono one_le_rulesOf
  | cons a rest inductionHypothesis =>
    have first := writable.rule_line (declared a List.mem_cons_self)
    have others := inductionHypothesis (fun b member => declared b (List.mem_cons_of_mem a member))
    rw [List.map_cons, List.flatMap_cons]
    exact (first.scans others).mono (ruleOf_mul_rulesOf _ _)

/-- A written grammar is cut into the start directive and the rules of its left sides. -/
theorem Writable.scans (writable : g.Writable) :
    ScansInto g.written (startOf g.start * rulesOf (g.leftSides.map g.ruleContent)) := by
  have keyword : WordOf _ "%start".toList := wordOf_keyword (by decide : identifier? "start".toList = _)
  have name := wordOf_name (writable.named g.start g.start_declared)
  have line := (keyword.phrase.append (name.phrase.append wordOf_semicolon.phrase)).line.mono
    (words_le_startOf g.start.toList)
  rw [String.ofList_toList] at line
  have declared : ∀ a ∈ g.leftSides, a ∈ g.nonterminals := by
    intro a member
    obtain ⟨p, stored, rfl⟩ := List.mem_map.mp (Finite.mem_distinct.mp member)
    exact g.lhs_declared p stored
  exact line.scans (writable.rules_scan declared)

/-- A written grammar is read to a document that declares nothing but the start symbol,
and whose rules say what the grammar has. -/
theorem Writable.reads (writable : g.Writable) : ∃ d, Document.ofText g.written = .ok d ∧
    d.tokens = [] ∧ d.startName = g.start ∧
    d.rules.map Rule.content = g.leftSides.map g.ruleContent := by
  obtain ⟨lexemes, cut, front, starts, rest, ⟨rules, defines, same⟩, whole⟩ := writable.scans {}
  have declares : Directive.AllSpelled (front ++ []) [.start g.start] := .cons starts .nil
  rw [List.append_nil] at declares
  have spelled := Document.Spelled.document declares defines
  have whole : front ++ rest = lexemes.list := whole
  rw [whole] at spelled
  have filled : g.start ≠ "" := by
    intro empty
    have name := writable.named g.start g.start_declared
    rw [empty] at name
    cases name
  exact ⟨_, Document.ofText_eq_ok_iff.mpr ⟨lexemes, cut, spelled⟩, rfl,
    Document.startName_eq rfl filled, same⟩

end Grammar

end Predictive
