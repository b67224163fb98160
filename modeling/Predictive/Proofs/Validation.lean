import Predictive.Proofs.Redeclaration

/-!
# Which declarations are grammars

The rules of a declaration come as a mapping or as a list, and each form has mistakes of
its own. `written` reads either form as the left sides and bodies that stand in it, and
`Valid` says on them, without any check, what makes a declaration a grammar. The checks
find no problem exactly in the valid ones.

A grammar keeps, for every nonterminal, the first occurrences of its bodies in normal form.
It can be declared again from its own listing of productions, and nothing changes.
-/

namespace Predictive

namespace Finite

universe u
variable {α : Type u} [DecidableEq α]

/-- Elements that a set lacks join it as their first occurrences. -/
theorem adjoinAll_eq_append_eraseDups (set offered : List α) :
    adjoinAll set offered = set ++ (without offered set).eraseDups := by
  induction offered generalizing set with
  | nil => simp [adjoinAll, without]
  | cons x rest inductionHypothesis =>
    change adjoinAll (adjoin set x) rest = _
    rw [inductionHypothesis]
    by_cases present : x ∈ set
    · have skipped : without (x :: rest) set = without rest set := by
        simp [without, present]
      rw [adjoin, if_pos present, skipped]
    · have taken : without (x :: rest) set = x :: without rest set := by
        simp [without, present]
      have others : (without rest set).filter (fun y => !y == x) = without rest (set ++ [x]) := by
        rw [without, without, List.filter_filter]
        refine List.filter_congr ?_
        intro y _
        by_cases same : y = x <;> simp [same]
      rw [adjoin, if_neg present, taken, List.eraseDups_cons, others, List.append_assoc,
        List.singleton_append]

/-- The first occurrence of every element, in order. -/
theorem distinct_eq_eraseDups (xs : List α) : distinct xs = xs.eraseDups := by
  rw [distinct, adjoinAll_eq_append_eraseDups, List.nil_append]
  congr 1
  simp [without]

/-- First occurrences are selected before or after the others are dropped. -/
theorem filter_adjoinAll (keep : α → Bool) (set offered : List α) :
    (adjoinAll set offered).filter keep = adjoinAll (set.filter keep) (offered.filter keep) := by
  induction offered generalizing set with
  | nil => rfl
  | cons x rest inductionHypothesis =>
    change (adjoinAll (adjoin set x) rest).filter keep = _
    rw [inductionHypothesis]
    by_cases kept : keep x = true
    · have joined : (adjoin set x).filter keep = adjoin (set.filter keep) x := by
        by_cases present : x ∈ set <;> simp [adjoin, present, kept]
      rw [List.filter_cons_of_pos kept, joined]
      rfl
    · have same : (adjoin set x).filter keep = set.filter keep := by
        by_cases present : x ∈ set <;> simp [adjoin, present, kept]
      rw [List.filter_cons_of_neg kept, same]

theorem filter_distinct (keep : α → Bool) (xs : List α) :
    (distinct xs).filter keep = distinct (xs.filter keep) :=
  filter_adjoinAll keep [] xs

end Finite

/-- The symbols of a body, if no text stands in its place. -/
def Body.names? : Body → Option (List Symbol)
  | symbols names => some names
  | text _ => none

/-- The bodies of a left side that no text stands for. -/
def Bodies.written : Bodies → List (List Symbol)
  | list bodies => bodies.filterMap Body.names?
  | text _ => []

/-- The left side and the body of an item, if it is a production. -/
def RuleItem.written? : RuleItem → Option (Symbol × List Symbol)
  | production p => some (p.lhs, p.rhs)
  | stray _ => none

namespace RuleSource

/-- The left sides and bodies that rules offer, as written and in order, repetitions kept.
Whatever is neither is passed over. -/
def written : RuleSource → List (Symbol × List Symbol)
  | mapping entries => entries.flatMap (fun entry => entry.2.written.map (entry.1, ·))
  | listing items => items.filterMap RuleItem.written?

/-- No text stands for a body or for several bodies, and no stray value for a production. -/
def WellFormed : RuleSource → Prop
  | mapping entries => ∀ entry ∈ entries, ∃ bodies, entry.2 = .list bodies ∧
      ∀ body ∈ bodies, ∃ names, body = .symbols names
  | listing items => ∀ item ∈ items, ∃ p, item = .production p

end RuleSource

namespace Declaration

variable {d : Declaration}

/-- What makes a declaration a grammar. -/
structure Valid (d : Declaration) : Prop where
  terminals_ne_nil : d.terminals ≠ []
  nonterminals_ne_nil : d.nonterminals ≠ []
  disjoint : ∀ x ∈ d.terminals, x ∉ d.nonterminals
  not_reserved : ∀ x ∈ reserved, x ∉ d.terminals ∧ x ∉ d.nonterminals
  start_declared : d.start ∈ d.nonterminals
  wellFormed : d.rules.WellFormed
  lhs_declared : ∀ rule ∈ d.rules.written, rule.1 ∈ d.nonterminals
  rhs_declared : ∀ rule ∈ d.rules.written, ∀ x ∈ rule.2,
    x ∈ d.terminals ∨ x ∈ d.nonterminals ∨ x = epsilon ∧ rule.2 = [epsilon]
  has_rule : ∀ a ∈ d.nonterminals, ∃ rule ∈ d.rules.written, rule.1 = a

/-- The alternatives that a declaration offers for a nonterminal: its bodies in normal form,
in the order of their first appearance. -/
def alternatives (d : Declaration) (a : Symbol) : List Production :=
  ((d.rules.written.filter (fun rule => rule.1 = a)).map
    (fun rule => Production.of rule.1 rule.2)).eraseDups

/-- What a list of bodies offers. -/
theorem filterMap_offeredBodies (entry : Symbol × Bodies) :
    (offeredBodies entry).filterMap offerProduction? =
      entry.2.written.map (fun names => .of entry.1 names) := by
  obtain ⟨lhs, bodies⟩ := entry
  cases bodies with
  | text value => rfl
  | list bodies =>
    simp only [offeredBodies, Bodies.written, List.filterMap_map, List.map_filterMap]
    congr 1
    funext body
    cases body <;> rfl

/-- The offered productions are the written ones in normal form. -/
theorem productions_eq_written (d : Declaration) :
    d.productions = d.rules.written.map (fun rule => .of rule.1 rule.2) := by
  unfold productions offered RuleSource.written
  cases d.rules with
  | mapping entries =>
    simp only [List.filterMap_flatMap, List.map_flatMap, List.map_map, filterMap_offeredBodies]
    rfl
  | listing items =>
    simp only [List.filterMap_map, List.map_filterMap]
    congr 1
    funext item
    cases item <;> rfl

/-- The rules have no problem in their form exactly when they are well-formed. -/
theorem formProblems_eq_nil_iff : d.formProblems = [] ↔ d.rules.WellFormed := by
  unfold formProblems offered RuleSource.WellFormed
  cases d.rules with
  | mapping entries =>
    rw [List.filterMap_flatMap, List.flatMap_eq_nil_iff]
    refine forall₂_congr ?_
    rintro ⟨lhs, bodies⟩ _
    cases bodies with
    | text value => simp [offeredBodies, offerProblem?]
    | list bodies =>
      simp only [offeredBodies, List.filterMap_map, List.filterMap_eq_nil_iff, Bodies.list.injEq,
        exists_eq_left']
      refine forall₂_congr ?_
      intro body _
      cases body <;> simp [offeredBody, offerProblem?]
  | listing items =>
    simp only [List.filterMap_map, List.filterMap_eq_nil_iff]
    refine forall₂_congr ?_
    intro item _
    cases item <;> simp [offeredItem, offerProblem?]

/-- The normal form changes the symbols of the empty body only, and `ε` may stand there
alone. -/
theorem declared_of_iff {known : Symbol → Prop} {lhs : Symbol} {names : List Symbol} :
    ((Production.of lhs names).rhs = [epsilon] ∨ ∀ x ∈ (Production.of lhs names).rhs, known x) ↔
      ∀ x ∈ names, known x ∨ x = epsilon ∧ names = [epsilon] := by
  unfold Production.of
  by_cases empty : names = []
  · simp [empty]
  · simp only [if_neg empty]
    constructor
    · rintro (rfl | declared)
      · intro x member
        exact Or.inr ⟨List.mem_singleton.mp member, rfl⟩
      · exact fun x member => Or.inl (declared x member)
    · intro each
      by_cases alone : names = [epsilon]
      · exact Or.inl alone
      · refine Or.inr ?_
        intro x member
        exact (each x member).resolve_right (fun marked => alone marked.2)

/-- A production breaks no rule exactly when its left side is declared and its right side is
the lone `ε` or declared throughout. -/
theorem productionProblems_eq_nil_iff
    (plain : epsilon ∉ d.terminals ∧ epsilon ∉ d.nonterminals) {p : Production} :
    d.productionProblems p = [] ↔ p.lhs ∈ d.nonterminals ∧
      (p.rhs = [epsilon] ∨ ∀ x ∈ p.rhs, x ∈ d.terminals ∨ x ∈ d.nonterminals) := by
  constructor
  · intro clean
    exact ⟨lhs_declared_of_productionProblems clean, rhs_declared_of_productionProblems clean⟩
  · rintro ⟨left, declared⟩
    rw [productionProblems, if_pos left, List.flatMap_eq_nil_iff]
    intro x member
    rcases declared with marked | each
    · obtain rfl : x = epsilon := by simpa [marked] using member
      simp [symbolProblems, marked]
    · have known := each x member
      have other : x ≠ epsilon := by
        rintro rfl
        exact known.elim plain.1 plain.2
      rw [symbolProblems, if_neg other, if_pos known]

theorem sharedNames_eq_nil_iff :
    d.sharedNames = [] ↔ ∀ x ∈ d.terminals, x ∉ d.nonterminals := by
  simp only [sharedNames, List.filter_eq_nil_iff, mem_nameSet, decide_eq_true_eq]

/-- No nonterminal is left without productions exactly when each has a rule. -/
theorem barrenNames_eq_nil_iff (plain : ∀ x ∈ reserved, x ∉ d.nonterminals) :
    d.barrenNames = [] ↔ ∀ a ∈ d.nonterminals, ∃ rule ∈ d.rules.written, rule.1 = a := by
  simp only [barrenNames, List.filter_eq_nil_iff, mem_nameSet, decide_eq_true_eq, not_and,
    Decidable.not_not, productions_eq_written, List.map_map, List.mem_map, Function.comp_apply,
    Production.of]
  refine forall₂_congr ?_
  intro a declared
  have free : a ∉ reserved := fun special => plain a special declared
  simp only [free, not_false_eq_true, forall_const]

/-- No production breaks a rule exactly when the written left sides and bodies do not. -/
theorem productionProblems_all_iff (plain : epsilon ∉ d.terminals ∧ epsilon ∉ d.nonterminals) :
    (∀ p ∈ d.productions, d.productionProblems p = []) ↔
      (∀ rule ∈ d.rules.written, rule.1 ∈ d.nonterminals) ∧
      ∀ rule ∈ d.rules.written, ∀ x ∈ rule.2,
        x ∈ d.terminals ∨ x ∈ d.nonterminals ∨ x = epsilon ∧ rule.2 = [epsilon] := by
  rw [productions_eq_written, List.forall_mem_map]
  simp only [productionProblems_eq_nil_iff plain, declared_of_iff, or_assoc, imp_and, forall_and]
  rfl

/-- The checks find no problem exactly in the valid declarations. -/
theorem problems_eq_nil_iff_valid : d.problems = [] ↔ d.Valid := by
  rw [problems_eq_nil_iff, sharedNames_eq_nil_iff, formProblems_eq_nil_iff]
  constructor
  · rintro ⟨terminals, nonterminals, disjoint, plain, start, form, each, named⟩
    obtain ⟨left, right⟩ :=
      (productionProblems_all_iff (plain epsilon epsilon_mem_reserved)).mp each
    have ruled := (barrenNames_eq_nil_iff (fun x special => (plain x special).2)).mp named
    exact ⟨terminals, nonterminals, disjoint, plain, start, form, left, right, ruled⟩
  · rintro ⟨terminals, nonterminals, disjoint, plain, start, form, left, right, ruled⟩
    have each := (productionProblems_all_iff (plain epsilon epsilon_mem_reserved)).mpr ⟨left, right⟩
    have named := (barrenNames_eq_nil_iff (fun x special => (plain x special).2)).mpr ruled
    exact ⟨terminals, nonterminals, disjoint, plain, start, form, each, named⟩

end Declaration

namespace Grammar

variable {d : Declaration} {g : Grammar} {a : Symbol}

/-- A grammar keeps the alternatives that its declaration offers. -/
theorem productionsOf_eq_alternatives (accepted : ofDeclaration? d = .ok g) (a : Symbol) :
    g.productionsOf a = d.alternatives a := by
  obtain ⟨_, _, _, _, rules⟩ := content_of_accepted accepted
  rw [productionsOf, rules, Finite.filter_distinct, Finite.distinct_eq_eraseDups,
    Declaration.productions_eq_written, List.filter_map]
  rfl

/-- The declaration that lists the productions of a grammar. -/
def listing (g : Grammar) : Declaration where
  terminals := g.terminals
  nonterminals := g.nonterminals
  rules := .listing (g.allProductions.map .production)
  start := g.start

/-- The listing of a grammar offers its productions as they are. -/
theorem listing_productions (g : Grammar) : g.listing.productions = g.allProductions := by
  have written : g.listing.rules.written = g.allProductions.map (fun p => (p.lhs, p.rhs)) := by
    have each : RuleItem.written? ∘ RuleItem.production = some ∘ fun p => (p.lhs, p.rhs) := rfl
    simp only [listing, RuleSource.written, List.filterMap_map, each, List.filterMap_eq_map]
  rw [Declaration.productions_eq_written, written, List.map_map]
  refine (List.map_congr_left ?_).trans (List.map_id _)
  intro p member
  have filled := g.rhs_ne_nil p (mem_allProductions.mp member)
  simp [Production.of, filled]

theorem listing_restates (g : Grammar) : g.listing.Restates g where
  mem_terminals := fun _ => Iff.rfl
  mem_nonterminals := fun _ => Iff.rfl
  start_eq := rfl
  formProblems_eq := by
    rw [Declaration.formProblems_eq_nil_iff]
    intro item member
    obtain ⟨p, _, rfl⟩ := List.mem_map.mp member
    exact ⟨p, rfl⟩
  mem_productions := by
    intro p
    rw [listing_productions]
    exact mem_allProductions

/-- A grammar declared again from its listing has the same productions. -/
theorem exists_grammar_of_listing (g : Grammar) : ∃ again, ofDeclaration? g.listing = .ok again ∧
    again.nonterminals = g.nonterminals ∧
      ∀ a ∈ g.nonterminals, again.productionsOf a = g.productionsOf a := by
  obtain ⟨again, accepted, _, nonterminals, _, rules⟩ := g.listing_restates.exists_grammar
  refine ⟨again, accepted, nonterminals, ?_⟩
  intro a declared
  rw [productionsOf, rules, listing_productions, Finite.distinct_eq_self g.allProductions_nodup]
  exact g.filter_flatMap_productionsOf g.nonterminals_set.nodup declared

theorem productionsOf?_eq_ok (declared : a ∈ g.nonterminals) :
    g.productionsOf? a = .ok (g.productionsOf a) := by
  simp [productionsOf?, isNonterminal, declared]

/-- A declaration is accepted exactly when it is valid. Its grammar then answers, for every
nonterminal, with the alternatives that the declaration offers: there is one at least, none
comes twice, and none has an empty right side. The listing of all productions has each of
them once and nothing else, and declared again it gives the same answers. -/
theorem accepts_exactly_the_valid (d : Declaration) :
    ((∃ g, ofDeclaration? d = .ok g) ↔ d.Valid) ∧
    ∀ g, ofDeclaration? d = .ok g →
      (∀ a ∈ d.nonterminals, g.productionsOf? a = .ok (d.alternatives a) ∧
        d.alternatives a ≠ [] ∧ (d.alternatives a).Nodup ∧
        ∀ p ∈ d.alternatives a, p.rhs ≠ []) ∧
      g.allProductions.Nodup ∧
      (∀ p, p ∈ g.allProductions ↔ ∃ a ∈ d.nonterminals, p ∈ d.alternatives a) ∧
      ∃ again, ofDeclaration? g.listing = .ok again ∧
        ∀ a ∈ d.nonterminals, again.productionsOf? a = g.productionsOf? a := by
  constructor
  · rw [← Declaration.problems_eq_nil_iff_valid]
    constructor
    · rintro ⟨g, accepted⟩
      exact (content_of_accepted accepted).1
    · intro clean
      obtain ⟨g, accepted, _⟩ := exists_ofDeclaration? clean
      exact ⟨g, accepted⟩
  · intro g accepted
    obtain ⟨_, _, nonterminals, _, _⟩ := content_of_accepted accepted
    have declared : ∀ a, a ∈ d.nonterminals ↔ a ∈ g.nonterminals := by
      intro a
      rw [nonterminals, mem_nameSet]
    have kept := productionsOf_eq_alternatives accepted
    refine ⟨?_, g.allProductions_nodup, ?_, ?_⟩
    · intro a named
      rw [productionsOf?_eq_ok ((declared a).mp named), ← kept a]
      obtain ⟨p, member, left⟩ := g.has_rule a ((declared a).mp named)
      refine ⟨rfl, List.ne_nil_of_mem (mem_productionsOf.mpr ⟨member, left⟩),
        g.rules_nodup.filter _, ?_⟩
      exact fun p member => g.rhs_ne_nil p (mem_productionsOf.mp member).1
    · intro p
      simp only [allProductions, List.mem_flatMap, declared, kept]
    · obtain ⟨again, restored, sameNames, same⟩ := g.exists_grammar_of_listing
      refine ⟨again, restored, ?_⟩
      intro a named
      have known := (declared a).mp named
      rw [productionsOf?_eq_ok known, productionsOf?_eq_ok (sameNames ▸ known), same a known]

/-- Sums of `x` in a mapping whose bodies come twice, in both spellings of the empty one. -/
def sumsMapping : Declaration where
  terminals := ["x", "+", "x"]
  nonterminals := ["S", "T"]
  rules := .mapping
    [("T", .list [.symbols [epsilon], .symbols ["+", "x", "T"], .symbols []]),
      ("S", .list [.symbols ["x", "T"], .symbols ["x", "T"]])]
  start := "S"

/-- The mapping is valid, and `T` keeps two of its three bodies. With a body for `U`, which
is no nonterminal, it is not valid and not accepted. -/
theorem sums_mapping_is_accepted : sumsMapping.Valid ∧
    (∃ g, ofDeclaration? sumsMapping = .ok g ∧
      g.productionsOf? "T" = .ok [⟨"T", [epsilon]⟩, ⟨"T", ["+", "x", "T"]⟩]) ∧
    ¬ ∃ g, ofDeclaration? { sumsMapping with
      rules := .mapping [("T", .list [.symbols []]), ("S", .list [.symbols []]),
        ("U", .list [.symbols ["x"]])] } = .ok g := by
  have valid : sumsMapping.Valid := Declaration.problems_eq_nil_iff_valid.mp (by decide)
  obtain ⟨accepts, content⟩ := accepts_exactly_the_valid sumsMapping
  refine ⟨valid, ?_, ?_⟩
  · obtain ⟨g, accepted⟩ := accepts.mpr valid
    obtain ⟨answers, _⟩ := content g accepted
    have offered : sumsMapping.alternatives "T" = [⟨"T", [epsilon]⟩, ⟨"T", ["+", "x", "T"]⟩] := by
      decide
    exact ⟨g, accepted, offered ▸ (answers "T" (by decide)).1⟩
  · rw [(accepts_exactly_the_valid _).1]
    intro impossible
    exact absurd (impossible.lhs_declared ("U", ["x"]) (by decide)) (by decide)

end Grammar

end Predictive
