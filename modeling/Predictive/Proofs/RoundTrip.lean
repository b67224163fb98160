import Predictive.Proofs.Redeclaration
import Predictive.Proofs.WrittenRules

/-!
# Grammars are read back from their written form

The rules of the document that is read say what the grammar has, so the document declares
the same symbols, the same start symbol and the same productions. They come nonterminal by
nonterminal, in the order of the left sides; the productions of each keep their order.
-/

namespace Predictive

namespace RuleFile.Document

/-- The elements of a document say what its rules say, one behind the other. -/
theorem elements_content (d : Document) :
    d.elements.map Element.content = (d.rules.map Rule.content).flatMap (·.2.flatten) := by
  rw [elements, List.map_flatMap, List.flatMap_map]
  congr 1
  funext rule
  rw [List.map_flatMap, Rule.content, List.flatMap_def]
  rfl

theorem mem_keywords_iff {d : Document} {x : String} :
    x ∈ d.keywords ↔ (x, true) ∈ d.elements.map Element.content := by
  simp only [keywords, List.mem_map, List.mem_filter, Element.content, Prod.mk.injEq]
  constructor
  · rintro ⟨e, ⟨member, literal⟩, rfl⟩
    exact ⟨e, member, rfl, literal⟩
  · rintro ⟨e, member, rfl, literal⟩
    exact ⟨e, ⟨member, literal⟩, rfl⟩

/-- The productions that a rule with a given content stands for. -/
def productionsOfContent (content : String × List (List (String × Bool))) : List Production :=
  content.2.map (fun alternative => .of content.1 (alternative.map Prod.fst))

theorem productionsOfRule_eq (rule : Rule) :
    productionsOfRule rule = productionsOfContent rule.content := by
  rw [productionsOfRule, productionsOfContent, Rule.content, List.map_map]
  refine List.map_congr_left ?_
  intro alternative _
  simp [Alternative.content, Element.content, Function.comp_def]

/-- A document declares the productions of its rules, rule by rule. -/
theorem declaration_productions (d : Document) :
    d.declaration.productions = (d.rules.map Rule.content).flatMap productionsOfContent := by
  have normal : ∀ p ∈ d.rules.flatMap productionsOfRule, Production.of p.lhs p.rhs = p := by
    intro p member
    obtain ⟨rule, _, inside⟩ := List.mem_flatMap.mp member
    obtain ⟨alternative, _, rfl⟩ := List.mem_map.mp inside
    exact Production.of_of _ _
  have offers : d.declaration.productions =
      (d.rules.flatMap productionsOfRule).map (fun p => Production.of p.lhs p.rhs) := by
    have each : Declaration.offerProduction? ∘ Declaration.offeredItem ∘ RuleItem.production =
        some ∘ fun p => Production.of p.lhs p.rhs := rfl
    simp only [Declaration.productions, declaration, Declaration.offered, List.map_map,
      List.filterMap_map, each, List.filterMap_eq_map]
  rw [offers, List.map_congr_left normal, List.map_id', List.flatMap_map]
  congr 1
  funext rule
  exact productionsOfRule_eq rule

theorem declaration_formProblems (d : Document) : d.declaration.formProblems = [] := by
  simp [Declaration.formProblems, declaration, Declaration.offered, Declaration.offeredItem,
    Declaration.offerProblem?]

end RuleFile.Document

namespace Grammar

open RuleFile

variable {g : Grammar}

/-- The body of a stored production in normal form is the production again. -/
theorem of_body {p : Production} (member : p ∈ g.rules) : Production.of p.lhs p.body = p := by
  cases empty : p.isEpsilon with
  | true =>
    have marked : p.rhs = [epsilon] := by simpa [Production.isEpsilon] using empty
    rw [Production.body_eq_nil_of_isEpsilon empty, Production.of, if_pos rfl, ← marked]
  | false =>
    rw [Production.body_eq_rhs_of_not_isEpsilon empty, Production.of,
      if_neg (g.rhs_ne_nil p member)]

/-- What a rule says is the productions of its nonterminal. -/
theorem productionsOf_ruleContent (g : Grammar) (a : Symbol) :
    Document.productionsOfContent (g.ruleContent a) = g.productionsOf a := by
  rw [Document.productionsOfContent, ruleContent, List.map_map]
  refine (List.map_congr_left ?_).trans (List.map_id _)
  intro p member
  obtain ⟨stored, rfl⟩ := mem_productionsOf.mp member
  have symbols : (g.bodyContent p).map Prod.fst = p.body := by
    simp [bodyContent, symbolContent, Function.comp_def]
  rw [Function.comp_apply, symbols, of_body stored, id]

theorem mem_leftSides {a : Symbol} : a ∈ g.leftSides ↔ a ∈ g.nonterminals := by
  rw [leftSides, Finite.mem_distinct, List.mem_map]
  constructor
  · rintro ⟨p, member, rfl⟩
    exact g.lhs_declared p member
  · intro declared
    obtain ⟨p, member, left⟩ := g.has_rule a declared
    exact ⟨p, member, left⟩

theorem mem_flatMap_leftSides {p : Production} :
    p ∈ g.leftSides.flatMap g.productionsOf ↔ p ∈ g.rules := by
  simp only [List.mem_flatMap, mem_leftSides, mem_productionsOf]
  constructor
  · rintro ⟨_, _, member, _⟩
    exact member
  · intro member
    exact ⟨p.lhs, g.lhs_declared p member, member, rfl⟩

/-- A document whose rules say what a grammar has restates the grammar, when every
terminal stands in a body. -/
theorem restates_of_content {d : Document}
    (used : ∀ t ∈ g.terminals, ∃ p ∈ g.rules, t ∈ p.body) (tokens : d.tokens = [])
    (start : d.startName = g.start)
    (rules : d.rules.map Rule.content = g.leftSides.map g.ruleContent) :
    d.declaration.Restates g where
  start_eq := start
  formProblems_eq := d.declaration_formProblems
  mem_nonterminals := by
    have names : d.rules.map Rule.name = g.leftSides := by
      have first := congrArg (List.map Prod.fst) rules
      simpa [List.map_map, Function.comp_def, Rule.content, ruleContent] using first
    intro a
    rw [← mem_leftSides, ← names]
    rfl
  mem_productions := by
    intro p
    rw [d.declaration_productions, rules, List.flatMap_map]
    simp only [productionsOf_ruleContent]
    exact mem_flatMap_leftSides
  mem_terminals := by
    intro t
    have names : d.declaration.terminals = d.keywords := by
      simp [Document.declaration, Document.tokenNames, tokens]
    -- A literal of the document stands in a body, and a terminal in a body is a literal.
    have content : (t, true) ∈ (g.leftSides.map g.ruleContent).flatMap (·.2.flatten) ↔
        ∃ p ∈ g.rules, t ∈ p.body ∧ t ∈ g.terminals := by
      simp only [List.mem_flatMap, List.mem_map, List.mem_flatten]
      constructor
      · rintro ⟨_, ⟨a, _, rfl⟩, _, bodies, inside⟩
        obtain ⟨p, member, rfl⟩ := List.mem_map.mp bodies
        obtain ⟨x, written, same⟩ := List.mem_map.mp inside
        obtain ⟨rfl, terminal⟩ := Prod.mk.inj same
        exact ⟨p, (mem_productionsOf.mp member).1, written, of_decide_eq_true terminal⟩
      · rintro ⟨p, member, written, terminal⟩
        refine ⟨_, ⟨p.lhs, mem_leftSides.mpr (g.lhs_declared p member), rfl⟩, g.bodyContent p, ?_, ?_⟩
        · exact List.mem_map.mpr ⟨p, mem_productionsOf.mpr ⟨member, rfl⟩, rfl⟩
        · exact List.mem_map.mpr ⟨t, written, by simp [symbolContent, isTerminal, terminal]⟩
    rw [names, Document.mem_keywords_iff, d.elements_content, rules, content]
    constructor
    · rintro ⟨_, _, _, terminal⟩
      exact terminal
    · intro terminal
      obtain ⟨p, member, written⟩ := used t terminal
      exact ⟨p, member, written, terminal⟩

/-- A grammar is read back from its written form: with the same terminals, the same
nonterminals, the same start symbol and, for every nonterminal, the same productions in
the same order. The nonterminals have to be names to the scanner; the terminals may hold
any characters. -/
theorem written_is_read_back (g : Grammar)
    (named : ∀ a ∈ g.nonterminals, identifier? a.toList = some a.toList.length)
    (used : ∀ t ∈ g.terminals, t ≠ "" ∧ ∃ p ∈ g.rules, t ∈ p.body) :
    ∃ d again, Document.ofText g.written = .ok d ∧ d.grammar? = .ok again ∧
      again.terminals = g.terminals ∧ again.nonterminals = g.nonterminals ∧
      again.start = g.start ∧
      ∀ a ∈ g.nonterminals, again.productionsOf a = g.productionsOf a := by
  have writable : g.Writable := ⟨named, fun t terminal => (used t terminal).1⟩
  obtain ⟨d, read, tokens, start, rules⟩ := writable.reads
  have restates := restates_of_content (fun t terminal => (used t terminal).2) tokens start rules
  obtain ⟨again, accepted, terminals, nonterminals, sameStart, productions⟩ :=
    restates.exists_grammar
  have listed : again.rules = g.leftSides.flatMap g.productionsOf := by
    rw [productions, d.declaration_productions, rules, List.flatMap_map]
    simp only [productionsOf_ruleContent]
    exact Finite.distinct_eq_self (g.flatMap_productionsOf_nodup (Finite.distinct_nodup _))
  have clean : d.namingProblems = [] := by
    have some : d.rules ≠ [] := by
      intro none
      have empty : g.leftSides = [] := by simpa [none] using rules.symm
      have first := mem_leftSides.mpr g.start_declared
      simp [empty] at first
    simp [Document.namingProblems, some, Document.tokenNames, tokens]
  refine ⟨d, again, read, ?_, terminals, nonterminals, sameStart, ?_⟩
  · rw [Document.grammar?, clean]
    exact accepted
  · intro a declared
    rw [productionsOf, listed]
    exact g.filter_flatMap_productionsOf (Finite.distinct_nodup _) (mem_leftSides.mpr declared)

/-- Names that are also keywords of rule files, and terminals that hold a quote, a
backslash, the opening of a comment, a line end and the null character. -/
def quirks : Grammar where
  terminals := ["\x00\n", "\"", "//", "\\"]
  nonterminals := ["empty", "start"]
  start := "start"
  rules := [⟨"start", ["\"", "start", "\\"]⟩, ⟨"empty", [epsilon]⟩, ⟨"start", ["//", "empty"]⟩,
    ⟨"empty", ["\x00\n"]⟩]
  terminals_set := ⟨by decide, by decide⟩
  nonterminals_set := ⟨by decide, by decide⟩
  terminals_ne_nil := by decide
  disjoint := by decide
  terminal_not_reserved := by decide
  nonterminal_not_reserved := by decide
  start_declared := by decide
  rules_nodup := by decide
  lhs_declared := by decide
  rhs_ne_nil := by decide
  rhs_declared := by decide
  has_rule := by decide

/-- The quirky grammar as text. It is read back, with the productions of `start` in
their order. -/
theorem quirks_is_read_back :
    String.ofList quirks.written =
      "%start start ;\nstart : \"\\\"\" start \"\\\\\" | \"//\" empty ;\n" ++
        "empty : %empty | \"\\x00\\n\" ;\n" ∧
    ∃ d again, Document.ofText quirks.written = .ok d ∧ d.grammar? = .ok again ∧
      again.terminals = ["\x00\n", "\"", "//", "\\"] ∧ again.start = "start" ∧
      again.productionsOf "start" =
        [⟨"start", ["\"", "start", "\\"]⟩, ⟨"start", ["//", "empty"]⟩] := by
  have named : ∀ a ∈ quirks.nonterminals, identifier? a.toList = some a.toList.length := by decide
  have used : ∀ t ∈ quirks.terminals, t ≠ "" ∧ ∃ p ∈ quirks.rules, t ∈ p.body := by decide
  obtain ⟨d, again, read, built, terminals, _, start, productions⟩ :=
    written_is_read_back quirks named used
  exact ⟨by decide, d, again, read, built, terminals, start, productions "start" (by decide)⟩

end Grammar

end Predictive
