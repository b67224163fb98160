import Predictive.Grammar.Declaration

/-!
# Grammars

A `Grammar` carries its validity: the symbol sets are distinct names in name
order, they share no name and contain no reserved one, the start symbol is a
nonterminal, every production is in normal form over declared symbols, none is
stored twice, and every nonterminal has one. `Grammar.ofDeclaration?` builds a
grammar from any declaration without problems and reports all problems of any
other.

Productions are stored in order of first appearance. `productionsOf` selects
those of one nonterminal; `allProductions` goes through the nonterminals by
name, which is the order of every pass over the grammar.
-/

namespace Predictive

/-- Distinct names in name order: the one list that stands for a set of names. -/
structure IsNameSet (names : List Symbol) : Prop where
  nodup : names.Nodup
  pairwise : names.Pairwise (fun a b => nameLe a b = true)

theorem isNameSet_nameSet (names : List Symbol) : IsNameSet (nameSet names) :=
  ⟨nameSet_nodup names, byName_pairwise _⟩

/-- A valid context-free grammar. -/
structure Grammar where
  terminals : List Symbol
  nonterminals : List Symbol
  start : Symbol
  rules : List Production
  terminals_set : IsNameSet terminals
  nonterminals_set : IsNameSet nonterminals
  terminals_ne_nil : terminals ≠ []
  disjoint : ∀ x ∈ terminals, x ∉ nonterminals
  terminal_not_reserved : ∀ x ∈ terminals, x ∉ reserved
  nonterminal_not_reserved : ∀ x ∈ nonterminals, x ∉ reserved
  start_declared : start ∈ nonterminals
  rules_nodup : rules.Nodup
  lhs_declared : ∀ p ∈ rules, p.lhs ∈ nonterminals
  rhs_ne_nil : ∀ p ∈ rules, p.rhs ≠ []
  rhs_declared : ∀ p ∈ rules, p.rhs = [epsilon] ∨
    ∀ x ∈ p.rhs, x ∈ terminals ∨ x ∈ nonterminals
  has_rule : ∀ a ∈ nonterminals, ∃ p ∈ rules, p.lhs = a

namespace Declaration

variable {d : Declaration}

theorem epsilon_mem_reserved : epsilon ∈ reserved := by decide

/-- Every offered production is in normal form. -/
theorem rhs_ne_nil_of_mem_productions {p : Production} (member : p ∈ d.productions) :
    p.rhs ≠ [] := by
  simp only [productions, List.mem_filterMap] at member
  obtain ⟨offer, present, selected⟩ := member
  unfold offered at present
  split at present
  · simp only [List.mem_flatMap] at present
    obtain ⟨⟨lhs, bodies⟩, _, inside⟩ := present
    cases bodies with
    | text value =>
      simp only [offeredBodies, List.mem_singleton] at inside
      simp [inside, offerProduction?] at selected
    | list bodies =>
      simp only [offeredBodies, List.mem_map] at inside
      obtain ⟨body, _, same⟩ := inside
      cases body with
      | text value => simp [← same, offeredBody, offerProduction?] at selected
      | symbols names =>
        simp only [← same, offeredBody, offerProduction?, Option.some.injEq] at selected
        exact selected ▸ Production.of_rhs_ne_nil lhs names
  · simp only [List.mem_map] at present
    obtain ⟨item, _, same⟩ := present
    cases item with
    | stray value => simp [← same, offeredItem, offerProduction?] at selected
    | production q =>
      simp only [← same, offeredItem, offerProduction?, Option.some.injEq] at selected
      exact selected ▸ Production.of_rhs_ne_nil q.lhs q.rhs

/-- The checks of a declaration, each without a problem. -/
theorem problems_eq_nil_iff : d.problems = [] ↔
    d.terminals ≠ [] ∧ d.nonterminals ≠ [] ∧ d.sharedNames = [] ∧
    (∀ x ∈ reserved, x ∉ d.terminals ∧ x ∉ d.nonterminals) ∧
    d.start ∈ d.nonterminals ∧ d.formProblems = [] ∧
    (∀ p ∈ d.productions, d.productionProblems p = []) ∧ d.barrenNames = [] := by
  simp only [problems, List.append_eq_nil_iff, List.flatMap_eq_nil_iff, List.map_eq_nil_iff,
    reservedProblems, ite_eq_left_iff, ite_eq_right_iff, imp_false, List.cons_ne_nil,
    Decidable.not_not]
  simp only [and_assoc, ne_eq]

/-- A production without problems has a declared left side. -/
theorem lhs_declared_of_productionProblems {p : Production}
    (clean : d.productionProblems p = []) : p.lhs ∈ d.nonterminals := by
  unfold productionProblems at clean
  split at clean
  · assumption
  · simp at clean

/-- A production without problems is the lone `ε` or uses declared names only. -/
theorem rhs_declared_of_productionProblems {p : Production}
    (clean : d.productionProblems p = []) :
    p.rhs = [epsilon] ∨ ∀ x ∈ p.rhs, x ∈ d.terminals ∨ x ∈ d.nonterminals := by
  have declared := lhs_declared_of_productionProblems clean
  simp only [productionProblems, declared, if_true, List.flatMap_eq_nil_iff] at clean
  by_cases mark : epsilon ∈ p.rhs
  · left
    have alone := clean epsilon mark
    simp only [symbolProblems, if_true, ite_eq_left_iff, imp_false, Decidable.not_not,
      List.cons_ne_nil] at alone
    obtain ⟨only, single⟩ := List.length_eq_one_iff.mp alone
    rw [single, List.mem_singleton] at mark
    rw [single, mark]
  · right
    intro x member
    have other : x ≠ epsilon := fun same => mark (same ▸ member)
    have noProblem := clean x member
    simp only [symbolProblems, other, if_false, ite_eq_left_iff, List.cons_ne_nil, imp_false,
      Decidable.not_not] at noProblem
    exact noProblem

/-- A declaration without problems leaves no nonterminal without productions. -/
theorem has_production_of_problems (clean : d.problems = []) {a : Symbol}
    (declared : a ∈ d.nonterminals) : ∃ p ∈ d.productions, p.lhs = a := by
  obtain ⟨_, _, _, free, _, _, _, barren⟩ := problems_eq_nil_iff.mp clean
  simp only [barrenNames, List.filter_eq_nil_iff, mem_nameSet, decide_eq_true_eq,
    not_and, Decidable.not_not] at barren
  have plain : a ∉ reserved := fun special => (free a special).2 declared
  exact List.mem_map.mp (barren a declared plain)

end Declaration

namespace Grammar

/-- A declaration without problems is a grammar; any other gives its problems. -/
def ofDeclaration? (d : Declaration) : Except (List Problem) Grammar :=
  match clean : d.problems with
  | [] => .ok {
      terminals := nameSet d.terminals
      nonterminals := nameSet d.nonterminals
      start := d.start
      rules := Finite.distinct d.productions
      terminals_set := isNameSet_nameSet _
      nonterminals_set := isNameSet_nameSet _
      terminals_ne_nil := by
        obtain ⟨filled, _⟩ := Declaration.problems_eq_nil_iff.mp clean
        obtain ⟨x, member⟩ := List.exists_mem_of_ne_nil _ filled
        exact List.ne_nil_of_mem (mem_nameSet.mpr member)
      disjoint := by
        obtain ⟨_, _, shared, _⟩ := Declaration.problems_eq_nil_iff.mp clean
        intro x member other
        simp only [Declaration.sharedNames, List.filter_eq_nil_iff, decide_eq_true_eq] at shared
        exact shared x member (mem_nameSet.mp other)
      terminal_not_reserved := by
        obtain ⟨_, _, _, free, _⟩ := Declaration.problems_eq_nil_iff.mp clean
        exact fun x member special => (free x special).1 (mem_nameSet.mp member)
      nonterminal_not_reserved := by
        obtain ⟨_, _, _, free, _⟩ := Declaration.problems_eq_nil_iff.mp clean
        exact fun x member special => (free x special).2 (mem_nameSet.mp member)
      start_declared := by
        obtain ⟨_, _, _, _, declared, _⟩ := Declaration.problems_eq_nil_iff.mp clean
        exact mem_nameSet.mpr declared
      rules_nodup := Finite.distinct_nodup _
      lhs_declared := by
        obtain ⟨_, _, _, _, _, _, each, _⟩ := Declaration.problems_eq_nil_iff.mp clean
        intro p member
        exact mem_nameSet.mpr
          (Declaration.lhs_declared_of_productionProblems (each p (Finite.mem_distinct.mp member)))
      rhs_ne_nil := fun p member =>
        Declaration.rhs_ne_nil_of_mem_productions (Finite.mem_distinct.mp member)
      rhs_declared := by
        obtain ⟨_, _, _, _, _, _, each, _⟩ := Declaration.problems_eq_nil_iff.mp clean
        intro p member
        simp only [mem_nameSet]
        exact Declaration.rhs_declared_of_productionProblems
          (each p (Finite.mem_distinct.mp member))
      has_rule := by
        intro a member
        obtain ⟨p, present, same⟩ :=
          Declaration.has_production_of_problems clean (mem_nameSet.mp member)
        exact ⟨p, Finite.mem_distinct.mpr present, same⟩ }
  | first :: others => .error (first :: others)

/-- The order in which the grammar's symbols are listed. -/
def symbols (g : Grammar) : SymbolOrder := .declared g.terminals g.nonterminals

/-- The productions of one nonterminal in order of first appearance. -/
def productionsOf (g : Grammar) (a : Symbol) : List Production :=
  g.rules.filter (fun p => p.lhs = a)

/-- All productions: nonterminals by name, then order of first appearance. -/
def allProductions (g : Grammar) : List Production := g.nonterminals.flatMap g.productionsOf

/-- The left sides in order of first appearance. -/
def leftSides (g : Grammar) : List Symbol := Finite.distinct (g.rules.map Production.lhs)

/-- A name is declared as a terminal. -/
def isTerminal (g : Grammar) (name : Symbol) : Bool := name ∈ g.terminals

/-- A name is declared as a nonterminal. -/
def isNonterminal (g : Grammar) (name : Symbol) : Bool := name ∈ g.nonterminals

/-- A one-line description: start, symbol sets and number of productions. -/
def summary (g : Grammar) : String :=
  "Grammar(start=" ++ Text.quoted g.start ++ ", terminals=" ++ Text.quotedList g.terminals ++
    ", nonterminals=" ++ Text.quotedList g.nonterminals ++ ", productions=" ++
    toString g.allProductions.length ++ ")"

theorem mem_productionsOf {g : Grammar} {a : Symbol} {p : Production} :
    p ∈ g.productionsOf a ↔ p ∈ g.rules ∧ p.lhs = a := by
  simp [productionsOf]

/-- Going through the nonterminals meets every stored production. -/
theorem mem_allProductions {g : Grammar} {p : Production} :
    p ∈ g.allProductions ↔ p ∈ g.rules := by
  simp only [allProductions, List.mem_flatMap, mem_productionsOf]
  constructor
  · rintro ⟨_, _, member, _⟩
    exact member
  · intro member
    exact ⟨p.lhs, g.lhs_declared p member, member, rfl⟩

/-- Going through distinct names meets no production twice. -/
theorem flatMap_productionsOf_nodup (g : Grammar) {names : List Symbol} (unique : names.Nodup) :
    (names.flatMap g.productionsOf).Nodup := by
  rw [List.nodup_iff_pairwise_ne, List.pairwise_flatMap]
  constructor
  · exact fun a _ => g.rules_nodup.filter _
  · refine unique.imp ?_
    rintro a b different p ofA _ ofB rfl
    exact different ((mem_productionsOf.mp ofA).2.symm.trans (mem_productionsOf.mp ofB).2)

/-- Going through the nonterminals meets every production once. -/
theorem allProductions_nodup (g : Grammar) : g.allProductions.Nodup :=
  g.flatMap_productionsOf_nodup g.nonterminals_set.nodup

end Grammar

/-- A question about a name for which the grammar has no answer. -/
inductive UnknownName where
  | notNonterminal (name : Symbol)
  | noFirst (name : Symbol)
  | noFollow (name : Symbol)

namespace UnknownName

/-- The wording of an unanswered question. -/
def message : UnknownName → String
  | notNonterminal name => Text.quoted name ++ " is not a nonterminal of this grammar"
  | noFirst name => "no FIRST set for unknown symbol " ++ Text.quoted name
  | noFollow name => "no FOLLOW set for " ++ Text.quoted name ++ " (not a nonterminal)"

end UnknownName

namespace Grammar

/-- The productions of a nonterminal; any other name is refused. -/
def productionsOf? (g : Grammar) (a : Symbol) : Except UnknownName (List Production) :=
  if g.isNonterminal a then .ok (g.productionsOf a) else .error (.notNonterminal a)

end Grammar

end Predictive
