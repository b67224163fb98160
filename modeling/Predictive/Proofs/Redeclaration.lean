import Predictive.Grammar.Basic

/-!
# Declaring a grammar again

A declaration that names the symbols of a grammar and offers its productions, in any
order and with repetitions, has no problems. The grammar built from it has the same
symbol sets and the same start symbol, because a set of names has one listing.
-/

namespace Predictive

/-- A set of names has one listing. -/
theorem IsNameSet.ext {first second : List Symbol} (one : IsNameSet first)
    (other : IsNameSet second) (same : ∀ x, x ∈ first ↔ x ∈ second) : first = second := by
  have permuted : first.Perm second := (List.perm_ext_iff_of_nodup one.nodup other.nodup).mpr same
  exact permuted.eq_of_pairwise (fun _ _ _ _ => nameLe_antisymm) one.pairwise other.pairwise

namespace Grammar

/-- A declaration without problems is accepted with its sets, its start symbol and the
first occurrences of its productions. -/
theorem exists_ofDeclaration? {d : Declaration} (clean : d.problems = []) :
    ∃ g, ofDeclaration? d = .ok g ∧ g.terminals = nameSet d.terminals ∧
      g.nonterminals = nameSet d.nonterminals ∧ g.start = d.start ∧
      g.rules = Finite.distinct d.productions := by
  unfold ofDeclaration?
  split
  · exact ⟨_, rfl, rfl, rfl, rfl, rfl⟩
  · rename_i found
    simp [clean] at found

/-- What is known of a declaration that is accepted, and of its grammar. -/
theorem content_of_accepted {d : Declaration} {g : Grammar} (accepted : ofDeclaration? d = .ok g) :
    d.problems = [] ∧ g.terminals = nameSet d.terminals ∧
      g.nonterminals = nameSet d.nonterminals ∧ g.start = d.start ∧
      g.rules = Finite.distinct d.productions := by
  unfold ofDeclaration? at accepted
  split at accepted
  · rename_i clean
    obtain rfl := Except.ok.inj accepted
    exact ⟨clean, rfl, rfl, rfl, rfl⟩
  · cases accepted

/-- Going nonterminal by nonterminal keeps the productions of each in order. -/
theorem filter_flatMap_productionsOf (g : Grammar) {names : List Symbol} (unique : names.Nodup)
    {a : Symbol} (member : a ∈ names) :
    (names.flatMap g.productionsOf).filter (fun p => p.lhs = a) = g.productionsOf a := by
  have own : (g.productionsOf a).filter (fun p => p.lhs = a) = g.productionsOf a := by
    rw [List.filter_eq_self]
    intro p inside
    exact decide_eq_true (mem_productionsOf.mp inside).2
  have other : ∀ b, b ≠ a → (g.productionsOf b).filter (fun p => p.lhs = a) = [] := by
    intro b different
    rw [List.filter_eq_nil_iff]
    intro p inside
    rw [decide_eq_true_eq, (mem_productionsOf.mp inside).2]
    exact different
  -- Of the blocks, the one of the name itself stays whole and all others vanish.
  obtain ⟨front, back, rfl⟩ := List.append_of_mem member
  have apart := List.nodup_append.mp unique
  have before : ∀ b ∈ front, (g.productionsOf b).filter (fun p => p.lhs = a) = [] := by
    intro b inFront
    exact other b (apart.2.2 b inFront a List.mem_cons_self)
  have behind : ∀ b ∈ back, (g.productionsOf b).filter (fun p => p.lhs = a) = [] := by
    intro b inBack
    exact other b (fun same => (List.nodup_cons.mp apart.2.1).1 (same ▸ inBack))
  rw [List.filter_flatMap, List.flatMap_append, List.flatMap_cons, own,
    List.flatMap_eq_nil_iff.mpr before, List.flatMap_eq_nil_iff.mpr behind, List.nil_append,
    List.append_nil]

end Grammar

/-- A declaration says what a grammar has. -/
structure Declaration.Restates (d : Declaration) (g : Grammar) : Prop where
  mem_terminals : ∀ x, x ∈ d.terminals ↔ x ∈ g.terminals
  mem_nonterminals : ∀ x, x ∈ d.nonterminals ↔ x ∈ g.nonterminals
  start_eq : d.start = g.start
  formProblems_eq : d.formProblems = []
  mem_productions : ∀ p, p ∈ d.productions ↔ p ∈ g.rules

namespace Declaration.Restates

variable {d : Declaration} {g : Grammar}

/-- A production of the grammar breaks no rule. -/
theorem productionProblems_eq (restates : d.Restates g) {p : Production} (member : p ∈ g.rules) :
    d.productionProblems p = [] := by
  have left : p.lhs ∈ d.nonterminals :=
    (restates.mem_nonterminals p.lhs).mpr (g.lhs_declared p member)
  rw [productionProblems, if_pos left, List.flatMap_eq_nil_iff]
  intro x inside
  rcases g.rhs_declared p member with marked | declared
  · have same : x = epsilon := by simpa [marked] using inside
    simp [symbolProblems, same, marked]
  · have other : x ≠ epsilon := by
      rintro rfl
      rcases declared epsilon inside with terminal | nonterminal
      · exact g.terminal_not_reserved epsilon terminal epsilon_mem_reserved
      · exact g.nonterminal_not_reserved epsilon nonterminal epsilon_mem_reserved
    have known : x ∈ d.terminals ∨ x ∈ d.nonterminals := by
      rw [restates.mem_terminals, restates.mem_nonterminals]
      exact declared x inside
    rw [symbolProblems, if_neg other, if_pos known]

/-- A declaration that says what a grammar has breaks no rule. -/
theorem problems_eq (restates : d.Restates g) : d.problems = [] := by
  obtain ⟨t, terminal⟩ := List.exists_mem_of_ne_nil _ g.terminals_ne_nil
  refine problems_eq_nil_iff.mpr ⟨?_, ?_, ?_, ?_, ?_, restates.formProblems_eq, ?_, ?_⟩
  · exact List.ne_nil_of_mem ((restates.mem_terminals t).mpr terminal)
  · exact List.ne_nil_of_mem ((restates.mem_nonterminals g.start).mpr g.start_declared)
  · simp only [sharedNames, List.filter_eq_nil_iff, mem_nameSet, decide_eq_true_eq,
      restates.mem_terminals, restates.mem_nonterminals]
    exact g.disjoint
  · intro x special
    rw [restates.mem_terminals, restates.mem_nonterminals]
    constructor
    · exact fun terminal => g.terminal_not_reserved x terminal special
    · exact fun nonterminal => g.nonterminal_not_reserved x nonterminal special
  · rw [restates.start_eq, restates.mem_nonterminals]
    exact g.start_declared
  · intro p member
    exact restates.productionProblems_eq ((restates.mem_productions p).mp member)
  · simp only [barrenNames, List.filter_eq_nil_iff, mem_nameSet, decide_eq_true_eq, not_and,
      Decidable.not_not, restates.mem_nonterminals]
    intro a declared _
    obtain ⟨p, member, left⟩ := g.has_rule a declared
    exact List.mem_map.mpr ⟨p, (restates.mem_productions p).mpr member, left⟩

/-- A declaration that says what a grammar has gives the sets and the start symbol
back, and the first occurrences of its productions. -/
theorem exists_grammar (restates : d.Restates g) :
    ∃ again, Grammar.ofDeclaration? d = .ok again ∧ again.terminals = g.terminals ∧
      again.nonterminals = g.nonterminals ∧ again.start = g.start ∧
      again.rules = Finite.distinct d.productions := by
  obtain ⟨again, accepted, terminals, nonterminals, start, rules⟩ :=
    Grammar.exists_ofDeclaration? restates.problems_eq
  refine ⟨again, accepted, ?_, ?_, start.trans restates.start_eq, rules⟩
  · refine again.terminals_set.ext g.terminals_set ?_
    intro x
    rw [terminals, mem_nameSet, restates.mem_terminals]
  · refine again.nonterminals_set.ext g.nonterminals_set ?_
    intro x
    rw [nonterminals, mem_nameSet, restates.mem_nonterminals]

end Declaration.Restates

end Predictive
