import Predictive.Proofs.BrokenRules
import Predictive.Proofs.Rearrangement
import Predictive.Proofs.RoundTrip

/-!
# Names that a rule file does not declare

An element of a rule body is a name or a literal. A grammar has one space of names for its
symbols, so a name that neither a rule nor a token has is looked up among the terminals, and
the texts of the literals are terminals. A name of this kind is refused unless a literal of
the same file has its text. Then it is read as that literal, wherever the literal stands:
quoting the name changes nothing.
-/

namespace Predictive

/-- A grammar is what it has. -/
theorem Grammar.eq_of_content {g h : Grammar} (terminals : g.terminals = h.terminals)
    (nonterminals : g.nonterminals = h.nonterminals) (start : g.start = h.start)
    (rules : g.rules = h.rules) : g = h := by
  cases g
  cases h
  simp only at terminals nonterminals start rules
  subst terminals nonterminals start rules
  rfl

namespace Declaration

variable {d e : Declaration}

/-- Two declarations differ at most in how they list their sets of names. -/
structure SameSets (d e : Declaration) : Prop where
  mem_terminals : ∀ x, x ∈ d.terminals ↔ x ∈ e.terminals
  mem_nonterminals : ∀ x, x ∈ d.nonterminals ↔ x ∈ e.nonterminals
  rules_eq : d.rules = e.rules
  start_eq : d.start = e.start

/-- What is reported depends on the sets alone. -/
theorem SameSets.problems_eq (same : d.SameSets e) : d.problems = e.problems := by
  have noTerminals : d.terminals = [] ↔ e.terminals = [] := by
    simp only [List.eq_nil_iff_forall_not_mem, same.mem_terminals]
  have noNonterminals : d.nonterminals = [] ↔ e.nonterminals = [] := by
    simp only [List.eq_nil_iff_forall_not_mem, same.mem_nonterminals]
  have terminals := nameSet_ext same.mem_terminals
  have nonterminals := nameSet_ext same.mem_nonterminals
  have productions : d.productions = e.productions := by
    rw [Declaration.productions, same.rules_eq]
    rfl
  have form : d.formProblems = e.formProblems := by
    rw [formProblems, same.rules_eq]
    rfl
  have each : d.productionProblems = e.productionProblems := by
    funext p
    have symbols : d.symbolProblems p = e.symbolProblems p := by
      funext x
      simp only [symbolProblems, same.mem_terminals, same.mem_nonterminals]
    simp only [productionProblems, symbols, same.mem_nonterminals]
  have reservedNames : d.reservedProblems = e.reservedProblems := by
    funext x
    simp only [reservedProblems, same.mem_terminals, same.mem_nonterminals]
  simp only [problems, sharedNames, barrenNames, noTerminals, noNonterminals, terminals,
    nonterminals, productions, form, each, reservedNames, same.start_eq, same.mem_nonterminals]

/-- So does the grammar. -/
theorem SameSets.ofDeclaration?_eq (same : d.SameSets e) :
    Grammar.ofDeclaration? d = Grammar.ofDeclaration? e := by
  have problems := same.problems_eq
  by_cases clean : d.problems = []
  · obtain ⟨g, accepted, terminals, nonterminals, start, rules⟩ :=
      Grammar.exists_ofDeclaration? clean
    obtain ⟨h, again, terminals', nonterminals', start', rules'⟩ :=
      Grammar.exists_ofDeclaration? (problems ▸ clean)
    have productions : d.productions = e.productions := by
      rw [Declaration.productions, same.rules_eq]
      rfl
    rw [accepted, again]
    refine congrArg Except.ok (Grammar.eq_of_content ?_ ?_ ?_ ?_)
    · rw [terminals, terminals', nameSet_ext same.mem_terminals]
    · rw [nonterminals, nonterminals', nameSet_ext same.mem_nonterminals]
    · rw [start, start', same.start_eq]
    · rw [rules, rules', productions]
  · rw [Grammar.ofDeclaration?_of_problems clean,
      Grammar.ofDeclaration?_of_problems (problems ▸ clean), problems]

end Declaration

namespace RuleFile

variable {d : Document} {name : String}

/-- A name becomes a literal if it is one of the given texts. -/
def Element.quotedIn (literals : List String) (e : Element) : Element :=
  { e with isLiteral := e.isLiteral || decide (e.text ∈ literals) }

namespace Document

/-- A name that stands in a rule body and is declared nowhere: no rule and no token has it,
and it is not the mark of the empty body. -/
structure Undeclared (d : Document) (name : String) : Prop where
  used : ∃ e ∈ d.elements, e.isLiteral = false ∧ e.text = name
  not_epsilon : name ≠ epsilon
  not_rule : ∀ rule ∈ d.rules, rule.name ≠ name
  not_token : ∀ token ∈ d.tokens, token.name ≠ name

/-- The document with quotes around every name that is the text of one of its literals. -/
def quoted (d : Document) : Document :=
  { d with
    rules := d.rules.map (fun rule =>
      { rule with
        alternatives := rule.alternatives.map (fun alternative =>
          { alternative with
            elements := alternative.elements.map (Element.quotedIn d.keywords) }) }) }

theorem quoted_elements (d : Document) :
    d.quoted.elements = d.elements.map (Element.quotedIn d.keywords) := by
  simp only [elements, quoted, List.flatMap_map, List.map_flatMap]

/-- Quoting names that are texts of literals adds no text of a literal. -/
theorem mem_keywords_quoted : name ∈ d.quoted.keywords ↔ name ∈ d.keywords := by
  simp only [keywords, quoted_elements, List.mem_map, List.mem_filter]
  constructor
  · rintro ⟨_, ⟨⟨e, member, rfl⟩, literal⟩, rfl⟩
    rcases (Bool.or_eq_true _ _).mp literal with written | read
    · exact ⟨e, ⟨member, written⟩, rfl⟩
    · have spelled : e.text ∈ d.keywords := of_decide_eq_true read
      simpa [keywords, Element.quotedIn] using spelled
  · rintro ⟨e, ⟨member, written⟩, rfl⟩
    exact ⟨e.quotedIn d.keywords, ⟨⟨e, member, rfl⟩, by simp [Element.quotedIn, written]⟩, rfl⟩

theorem quoted_ruleNames (d : Document) : d.quoted.rules.map Rule.name = d.rules.map Rule.name := by
  simp [quoted, Function.comp_def]

/-- Quoting keeps the texts of all elements, and so the productions. -/
theorem quoted_productions (d : Document) :
    d.quoted.rules.flatMap productionsOfRule = d.rules.flatMap productionsOfRule := by
  simp only [quoted, List.flatMap_map]
  congr 1
  funext rule
  simp [productionsOfRule, Element.quotedIn, Function.comp_def]

theorem quoted_namingProblems (d : Document) : d.quoted.namingProblems = d.namingProblems := by
  simp [namingProblems, quoted, tokenNames, List.filter_map, Function.comp_def]

/-- Quoting changes how a document lists its terminals, and nothing else that it declares. -/
theorem quoted_sameSets (d : Document) : d.quoted.declaration.SameSets d.declaration where
  mem_terminals := by
    intro x
    simp only [declaration, List.mem_append, mem_keywords_quoted]
    rfl
  mem_nonterminals := by
    intro x
    simp only [declaration, quoted_ruleNames]
  rules_eq := by simp only [declaration, quoted_productions]
  start_eq := by
    have first : d.quoted.rules.head?.map Rule.name = d.rules.head?.map Rule.name := by
      rw [← List.head?_map, ← List.head?_map, quoted_ruleNames]
    simp only [declaration, startName, first]
    rfl

/-- Names that are texts of literals are read as these literals. -/
theorem quoted_grammar? (d : Document) : d.quoted.grammar? = d.grammar? := by
  rw [grammar?, grammar?, quoted_namingProblems, d.quoted_sameSets.ofDeclaration?_eq]

/-- The names that stay undeclared are those that no literal spells. -/
theorem quoted_undeclared_iff :
    d.quoted.Undeclared name ↔ d.Undeclared name ∧ name ∉ d.keywords := by
  have names : (∀ rule ∈ d.quoted.rules, rule.name ≠ name) ↔
      ∀ rule ∈ d.rules, rule.name ≠ name := by
    rw [← List.forall_mem_map (f := Rule.name) (P := (· ≠ name)), quoted_ruleNames,
      List.forall_mem_map]
  constructor
  · intro undeclared
    obtain ⟨_, inQuoted, unquoted, rfl⟩ := undeclared.used
    rw [quoted_elements] at inQuoted
    obtain ⟨e, member, rfl⟩ := List.mem_map.mp inQuoted
    obtain ⟨written, spelled⟩ := Bool.or_eq_false_iff.mp unquoted
    refine ⟨⟨⟨e, member, written, rfl⟩, undeclared.not_epsilon, names.mp undeclared.not_rule,
      undeclared.not_token⟩, of_decide_eq_false spelled⟩
  · rintro ⟨undeclared, unspelled⟩
    obtain ⟨e, member, written, rfl⟩ := undeclared.used
    refine ⟨⟨e.quotedIn d.keywords, ?_, ?_, rfl⟩, undeclared.not_epsilon,
      names.mpr undeclared.not_rule, undeclared.not_token⟩
    · rw [quoted_elements]
      exact List.mem_map_of_mem member
    · simp [Element.quotedIn, written, unspelled]

/-- An element of a rule body stands in the right side of a production. -/
theorem exists_production_of_element {e : Element} (member : e ∈ d.elements) :
    ∃ p ∈ d.rules.flatMap productionsOfRule, e.text ∈ p.rhs := by
  simp only [elements, List.mem_flatMap] at member
  obtain ⟨rule, inRules, alternative, inRule, inside⟩ := member
  have filled : alternative.elements.map Element.text ≠ [] :=
    List.ne_nil_of_mem (List.mem_map_of_mem inside)
  refine ⟨.of rule.name (alternative.elements.map Element.text), ?_, ?_⟩
  · exact List.mem_flatMap.mpr ⟨rule, inRules, List.mem_map_of_mem inRule⟩
  · rw [Production.of, if_neg filled]
    exact List.mem_map_of_mem inside

theorem productions_of_rules (d : Document) :
    d.declaration.productions = d.rules.flatMap productionsOfRule := by
  rw [declaration_productions, List.flatMap_map]
  congr 1
  funext rule
  exact (productionsOfRule_eq rule).symm

/-- The left side of a production is the name of a rule. -/
theorem lhs_of_mem_productions {p : Production} (member : p ∈ d.rules.flatMap productionsOfRule) :
    p.lhs ∈ d.declaration.nonterminals := by
  obtain ⟨rule, inRules, inside⟩ := List.mem_flatMap.mp member
  obtain ⟨alternative, _, rfl⟩ := List.mem_map.mp inside
  exact List.mem_map_of_mem inRules

/-- A name that nothing declares and no literal spells is reported in every production that
uses it. -/
theorem Undeclared.mem_problems (undeclared : d.Undeclared name) (unspelled : name ∉ d.keywords)
    {p : Production} (member : p ∈ d.rules.flatMap productionsOfRule) (uses : name ∈ p.rhs) :
    .symbolNotDeclared p name ∈ d.declaration.problems := by
  have left := lhs_of_mem_productions member
  have offered : 0 < d.declaration.timesOffered p := by
    rw [Declaration.timesOffered_eq, productions_of_rules]
    exact List.count_pos_iff.mpr member
  have unknown :
      ¬ (name = epsilon ∨ name ∈ d.declaration.terminals ∨ name ∈ d.declaration.nonterminals) := by
    simp only [declaration, tokenNames, List.mem_append, List.mem_map]
    rintro (mark | (⟨token, declared, same⟩ | spelled) | ⟨rule, declared, same⟩)
    · exact undeclared.not_epsilon mark
    · exact undeclared.not_token token declared same
    · exact unspelled spelled
    · exact undeclared.not_rule rule declared same
  refine Declaration.mem_problems_iff.mpr ⟨?_, ?_⟩
  · rw [Declaration.hides_body_iff rfl]
    exact fun hidden => hidden.1 left
  · rw [Declaration.timesBroken, if_neg unknown]
    exact Nat.mul_pos offered (List.count_pos_iff.mpr uses)

/-- A name that stands in a rule body and is declared nowhere is refused, unless it is the
text of a literal: either rules are named like tokens, and that is reported first, or every
production that uses the name is reported. With quotes around the names that are texts of
literals, these are the only names that stay undeclared, and the grammar, or the report, is
the same as without the quotes. -/
theorem undeclared_names_are_refused_or_read_as_literals (d : Document) :
    (∀ name, d.Undeclared name → name ∉ d.keywords →
      ∃ problems, d.grammar? = .error problems ∧
        (d.namingProblems ≠ [] ∧ problems = d.namingProblems ∨
          (∃ p ∈ d.rules.flatMap productionsOfRule, name ∈ p.rhs) ∧
          ∀ p ∈ d.rules.flatMap productionsOfRule, name ∈ p.rhs →
            .symbolNotDeclared p name ∈ problems)) ∧
    (∀ name, d.quoted.Undeclared name ↔ d.Undeclared name ∧ name ∉ d.keywords) ∧
    d.quoted.grammar? = d.grammar? := by
  refine ⟨?_, fun _ => quoted_undeclared_iff, d.quoted_grammar?⟩
  intro name undeclared unspelled
  obtain ⟨e, member, _, rfl⟩ := undeclared.used
  obtain ⟨p, inside, uses⟩ := exists_production_of_element member
  unfold grammar?
  split
  · refine ⟨_, Grammar.ofDeclaration?_of_problems ?_, Or.inr ⟨⟨p, inside, uses⟩, ?_⟩⟩
    · exact List.ne_nil_of_mem (undeclared.mem_problems unspelled inside uses)
    · exact fun _ => undeclared.mem_problems unspelled
  · rename_i first others met
    exact ⟨_, rfl, Or.inl ⟨met ▸ List.cons_ne_nil _ _, met.symm⟩⟩

/-- A rule with a literal and a name behind it, as read from `S : "x" y ;` for the name `y`. -/
def literalAndName (name : String) : Document where
  rules :=
    [⟨"S", [⟨[⟨"x", true, ⟨⟨4, 1, 5⟩, 7⟩⟩, ⟨name, false, ⟨⟨8, 1, 9⟩, 9⟩⟩], ⟨⟨4, 1, 5⟩, 7⟩⟩],
      ⟨⟨0, 1, 1⟩, 1⟩⟩]
  start := some "S"

/-- Behind the literal `x`, the name `y` is reported. -/
theorem other_name_is_reported :
    (literalAndName "y").Undeclared "y" ∧ "y" ∉ (literalAndName "y").keywords ∧
    ∃ problems, (literalAndName "y").grammar? = .error problems ∧
      .symbolNotDeclared ⟨"S", ["x", "y"]⟩ "y" ∈ problems := by
  have undeclared : (literalAndName "y").Undeclared "y" :=
    ⟨⟨⟨"y", false, ⟨⟨8, 1, 9⟩, 9⟩⟩, by decide, rfl, rfl⟩, by decide, by decide, by decide⟩
  have unspelled : "y" ∉ (literalAndName "y").keywords := by decide
  obtain ⟨refuses, _⟩ := undeclared_names_are_refused_or_read_as_literals (literalAndName "y")
  obtain ⟨problems, refused, named | ⟨_, reported⟩⟩ := refuses "y" undeclared unspelled
  · exact absurd rfl named.1
  · exact ⟨undeclared, unspelled, problems, refused, reported _ (by decide) (by decide)⟩

/-- Behind the literal `x`, the name `x` is accepted, though no rule and no token has it. -/
theorem literal_text_is_accepted_as_name :
    ofText "S : \"x\" x ;".toList = .ok (literalAndName "x") ∧
    (literalAndName "x").Undeclared "x" ∧ ∃ g, (literalAndName "x").grammar? = .ok g := by
  refine ⟨?_, ⟨⟨⟨"x", false, ⟨⟨8, 1, 9⟩, 9⟩⟩, ?_, rfl, rfl⟩, ?_, ?_, ?_⟩, ?_⟩
  · have accepted : (ofText "S : \"x\" x ;".toList).toOption = some (literalAndName "x") := by
      decide +kernel
    cases read : ofText "S : \"x\" x ;".toList with
    | error fault =>
      rw [read] at accepted
      cases accepted
    | ok d =>
      rw [read] at accepted
      exact congrArg Except.ok (Option.some.inj accepted)
  · decide
  · decide
  · decide
  · decide
  · exact ⟨_, rfl⟩

end Document

end RuleFile

end Predictive
