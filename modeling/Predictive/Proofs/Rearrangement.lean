import Predictive.Proofs.Clashes
import Predictive.Proofs.Redeclaration

/-!
# The order of productions

Two grammars over the same symbols that store the same productions, in whatever
order, derive the same strings. FIRST, FOLLOW and the lookaheads of a production
say what can be derived, so they are the same sets in both, although the passes
that compute them meet the productions in different orders. Where a set is listed,
it is listed by rank, and a set has one listing by rank.

What is left of the order is the competition for a cell: the first production that
asks for it gets it. In a table without conflicts there is no competition. In any
other one only productions of one nonterminal compete, so their order of first
appearance decides all that can be seen of the table.
-/

namespace Predictive

namespace Finite

universe u
variable {α : Type u} [DecidableEq α]

/-- Offering elements keeps a set in the order in which they were first met; `before`
is what has been offered already. -/
theorem adjoinAll_pairwise (before offered : List α)
    (met : (distinct before).Pairwise
      (fun x y => (before ++ offered).idxOf x < (before ++ offered).idxOf y)) :
    (adjoinAll (distinct before) offered).Pairwise
      (fun x y => (before ++ offered).idxOf x < (before ++ offered).idxOf y) := by
  induction offered generalizing before with
  | nil => exact met
  | cons x rest inductionHypothesis =>
    have shifted : before ++ x :: rest = (before ++ [x]) ++ rest := by simp
    have joined : distinct (before ++ [x]) = adjoin (distinct before) x := by
      simp only [distinct, adjoinAll, List.foldl_append, List.foldl_cons, List.foldl_nil]
    change (adjoinAll (adjoin (distinct before) x) rest).Pairwise _
    rw [shifted, ← joined]
    apply inductionHypothesis
    rw [← shifted, joined, adjoin]
    split
    · exact met
    · rename_i absent
      rw [mem_distinct] at absent
      refine List.pairwise_append.mpr ⟨met, List.pairwise_singleton _ x, ?_⟩
      intro y old z new
      obtain rfl := List.mem_singleton.mp new
      -- What is new stands behind everything offered before, which is found there.
      have earlier : y ∈ before := mem_distinct.mp old
      have place : before.idxOf y < before.length := List.idxOf_lt_length_of_mem earlier
      rw [List.idxOf_append, if_pos earlier, List.idxOf_append, if_neg absent]
      omega

/-- First occurrences stand in the order of their places. -/
theorem distinct_pairwise (xs : List α) :
    (distinct xs).Pairwise (fun x y => xs.idxOf x < xs.idxOf y) :=
  adjoinAll_pairwise [] xs List.Pairwise.nil

end Finite

/-- A set of names has one listing by name. -/
theorem nameSet_ext {xs ys : List Symbol} (same : ∀ x, x ∈ xs ↔ x ∈ ys) :
    nameSet xs = nameSet ys := by
  refine (isNameSet_nameSet xs).ext (isNameSet_nameSet ys) ?_
  intro x
  rw [mem_nameSet, mem_nameSet, same]

theorem SymbolOrder.le_antisymm {order : SymbolOrder} {a b : Symbol}
    (below : order.le a b = true) (above : order.le b a = true) : a = b := by
  simp only [le, Bool.or_eq_true, Bool.and_eq_true, decide_eq_true_eq, beq_iff_eq] at below above
  rcases below with lower | ⟨_, first⟩
  · omega
  · rcases above with higher | ⟨_, second⟩
    · omega
    · exact nameLe_antisymm first second

/-- The order in which names are given leaves no trace in their listing by rank. -/
theorem SymbolOrder.arrange_eq_of_perm {order : SymbolOrder} {xs ys : List Symbol}
    (permuted : xs.Perm ys) : order.arrange xs = order.arrange ys :=
  Finite.ordered_eq_of_perm order.le_total order.le_trans (fun _ _ => le_antisymm) permuted

/-- A set has one listing by rank. -/
theorem SymbolOrder.arrange_ext {order : SymbolOrder} {xs ys : List Symbol} (one : xs.Nodup)
    (other : ys.Nodup) (same : ∀ x, x ∈ xs ↔ x ∈ ys) : order.arrange xs = order.arrange ys :=
  arrange_eq_of_perm ((List.perm_ext_iff_of_nodup one other).mpr same)

namespace Table

variable {t : Table}

/-- No two cells belong to the same nonterminal and lookahead. -/
def OneEach (t : Table) : Prop :=
  t.cells.Pairwise (fun earlier later => ¬ IsAt later.nonterminal later.lookahead earlier)

/-- A cell is filled once only. -/
theorem OneEach.put (each : t.OneEach) (cell : Cell) : (t.put cell).OneEach := by
  unfold Table.put
  split
  · rename_i empty
    refine List.pairwise_append.mpr ⟨each, List.pairwise_singleton _ cell, ?_⟩
    intro earlier member later new here
    obtain rfl := List.mem_singleton.mp new
    rw [get?, Option.map_eq_none_iff, List.find?_eq_none] at empty
    exact empty earlier member (decide_eq_true here)
  · split
    · exact each
    · exact each

theorem OneEach.foldl (each : t.OneEach) (requests : List Cell) :
    (requests.foldl Table.put t).OneEach := by
  induction requests generalizing t with
  | nil => exact each
  | cons cell rest inductionHypothesis => exact inductionHypothesis (each.put cell)

/-- Each expected lookahead is listed once. -/
theorem OneEach.expected_nodup (each : t.OneEach) (a : Symbol) : (t.expected a).Nodup := by
  rw [expected, List.nodup_iff_pairwise_ne, List.pairwise_map]
  refine (each.filter _).imp_of_mem ?_
  intro earlier later inEarlier inLater apart same
  have left := of_decide_eq_true (List.mem_filter.mp inEarlier).2
  have right := of_decide_eq_true (List.mem_filter.mp inLater).2
  exact apart ⟨left.trans right.symm, same⟩

end Table

namespace Grammar

theorem table_oneEach (g : Grammar) : g.table.OneEach := by
  have empty : Table.OneEach {} := List.Pairwise.nil
  exact empty.foldl _

/-- Two grammars have the same symbols, the same start symbol and the same set of
productions. Nothing is said about the order in which productions are stored. -/
structure Rearranges (g h : Grammar) : Prop where
  terminals_eq : g.terminals = h.terminals
  nonterminals_eq : g.nonterminals = h.nonterminals
  start_eq : g.start = h.start
  mem_rules : ∀ p, p ∈ g.rules ↔ p ∈ h.rules

namespace Rearranges

variable {g h : Grammar} {a t x : Symbol} {u v : List Symbol} {p : Production}

theorem symm (same : g.Rearranges h) : h.Rearranges g where
  terminals_eq := same.terminals_eq.symm
  nonterminals_eq := same.nonterminals_eq.symm
  start_eq := same.start_eq.symm
  mem_rules := fun p => (same.mem_rules p).symm

section Derivations

theorem derives (same : g.Rearranges h) (steps : g.Derives u v) : h.Derives u v := by
  induction steps with
  | refl _ => exact .refl _
  | step one _ inductionHypothesis =>
    cases one with
    | apply before after member =>
      exact .step (.apply before after ((same.mem_rules _).mp member)) inductionHypothesis

theorem canBegin (same : g.Rearranges h) : g.CanBegin u t → h.CanBegin u t := by
  rintro ⟨terminal, rest, steps⟩
  exact ⟨same.terminals_eq ▸ terminal, rest, same.derives steps⟩

theorem canFollow (same : g.Rearranges h) : g.CanFollow x t → h.CanFollow x t := by
  rintro ⟨terminal, c, nonterminal, before, after, steps⟩
  exact ⟨same.terminals_eq ▸ terminal, c, same.nonterminals_eq ▸ nonterminal, before, after,
    same.derives steps⟩

theorem canEnd (same : g.Rearranges h) : g.CanEnd x → h.CanEnd x := by
  rintro ⟨before, steps⟩
  exact ⟨before, same.start_eq ▸ same.derives steps⟩

theorem succeeds (same : g.Rearranges h) : g.Succeeds x t → h.Succeeds x t := by
  rintro (follows | ⟨mark, last⟩)
  · exact Or.inl (same.canFollow follows)
  · exact Or.inr ⟨mark, same.canEnd last⟩

theorem predicts (same : g.Rearranges h) : g.Predicts p t → h.Predicts p t := by
  rintro (begins | ⟨gone, behind⟩)
  · exact Or.inl (same.canBegin begins)
  · exact Or.inr ⟨same.derives gone, same.succeeds behind⟩

theorem predicts_iff (same : g.Rearranges h) : g.Predicts p t ↔ h.Predicts p t :=
  ⟨same.predicts, same.symm.predicts⟩

end Derivations

section Sets

theorem symbols_eq (same : g.Rearranges h) : g.symbols = h.symbols := by
  rw [symbols, symbols, same.terminals_eq, same.nonterminals_eq]

theorem firstNames_eq (same : g.Rearranges h) : g.firstNames = h.firstNames := by
  rw [firstNames, firstNames, same.terminals_eq, same.nonterminals_eq]

/-- What is in FIRST of a name in one grammar is in FIRST of it in the other one. -/
theorem first_get_subset (same : g.Rearranges h) (known : x ∈ g.firstNames)
    (member : t ∈ g.first.get x) : t ∈ h.first.get x := by
  have one := isFirstOf_get known
  have other : h.IsFirstOf (plain [x]) (h.first.get x) :=
    isFirstOf_get (same.firstNames_eq ▸ known)
  rcases one.nothing_else t member with terminal | rfl
  · rw [other.terminal_iff t (same.terminals_eq ▸ terminal)]
    exact same.canBegin ((one.terminal_iff t terminal).mp member)
  · rw [other.epsilon_iff]
    exact same.derives (one.epsilon_iff.mp member)

theorem mem_first_get (same : g.Rearranges h) (x t : Symbol) :
    t ∈ g.first.get x ↔ t ∈ h.first.get x := by
  by_cases known : x ∈ g.firstNames
  · constructor
    · exact same.first_get_subset known
    · exact same.symm.first_get_subset (same.firstNames_eq ▸ known)
  · have knownNot : x ∉ h.firstNames := same.firstNames_eq ▸ known
    rw [SymbolSets.get_eq_nil (first_family.keys_eq ▸ known),
      SymbolSets.get_eq_nil (first_family.keys_eq ▸ knownNot)]

theorem mem_follow_get (same : g.Rearranges h) (x t : Symbol) :
    t ∈ g.follow.get x ↔ t ∈ h.follow.get x := by
  by_cases nonterminal : x ∈ g.nonterminals
  · rw [mem_follow_iff nonterminal, mem_follow_iff (same.nonterminals_eq ▸ nonterminal)]
    exact ⟨same.succeeds, same.symm.succeeds⟩
  · have other : x ∉ h.nonterminals := same.nonterminals_eq ▸ nonterminal
    rw [SymbolSets.get_eq_nil (follow_family.keys_eq ▸ nonterminal),
      SymbolSets.get_eq_nil (follow_family.keys_eq ▸ other)]

/-- FIRST of a name has the same answer, be it a set or a refusal. -/
theorem first?_eq (same : g.Rearranges h) (x : Symbol) :
    (g.first.first? x).map nameSet = (h.first.first? x).map nameSet := by
  by_cases known : x ∈ g.firstNames
  · rw [first?_first known, first?_first (same.firstNames_eq ▸ known)]
    exact congrArg Except.ok (nameSet_ext (same.mem_first_get x))
  · have knownNot : x ∉ h.firstNames := same.firstNames_eq ▸ known
    rw [SymbolSets.first?_eq_error (first_family.keys_eq ▸ known),
      SymbolSets.first?_eq_error (first_family.keys_eq ▸ knownNot)]

/-- FOLLOW of a name has the same answer, be it a set or a refusal. -/
theorem follow?_eq (same : g.Rearranges h) (x : Symbol) :
    (g.follow.follow? x).map nameSet = (h.follow.follow? x).map nameSet := by
  by_cases nonterminal : x ∈ g.nonterminals
  · rw [follow?_follow nonterminal, follow?_follow (same.nonterminals_eq ▸ nonterminal)]
    exact congrArg Except.ok (nameSet_ext (same.mem_follow_get x))
  · have other : x ∉ h.nonterminals := same.nonterminals_eq ▸ nonterminal
    rw [SymbolSets.follow?_eq_error (follow_family.keys_eq ▸ nonterminal),
      SymbolSets.follow?_eq_error (follow_family.keys_eq ▸ other)]

theorem mem_ofSequence (same : g.Rearranges h) (u : List Symbol) (t : Symbol) :
    t ∈ g.first.ofSequence u ↔ t ∈ h.first.ofSequence u := by
  induction u generalizing t with
  | nil => rfl
  | cons x rest inductionHypothesis =>
    by_cases mark : t = epsilon
    · rw [mark, SymbolSets.epsilon_mem_ofSequence_cons, SymbolSets.epsilon_mem_ofSequence_cons,
        same.mem_first_get, inductionHypothesis]
    · rw [SymbolSets.mem_ofSequence_cons mark, SymbolSets.mem_ofSequence_cons mark,
        same.mem_first_get, same.mem_first_get, inductionHypothesis]

end Sets

section Tables

/-- A production asks for the same cells in the same order. -/
theorem lookaheads_eq (same : g.Rearranges h) (member : p ∈ g.rules) :
    g.lookaheads g.first g.follow p = h.lookaheads h.first h.follow p := by
  have nonterminal := g.lhs_declared p member
  have beginnings : g.symbols.arrange (Finite.without (g.first.ofSequence p.rhs) [epsilon]) =
      g.symbols.arrange (Finite.without (h.first.ofSequence p.rhs) [epsilon]) := by
    apply SymbolOrder.arrange_ext
    · exact Finite.without_nodup (ofSequence_nodup g.first_get_nodup p.rhs) _
    · exact Finite.without_nodup (ofSequence_nodup h.first_get_nodup p.rhs) _
    · intro t
      rw [Finite.mem_without, Finite.mem_without, same.mem_ofSequence]
  have followers : g.symbols.arrange (g.follow.get p.lhs) =
      g.symbols.arrange (h.follow.get p.lhs) := by
    apply SymbolOrder.arrange_ext
    · exact (follow_family.get nonterminal).1
    · exact (follow_family.get (same.nonterminals_eq ▸ nonterminal)).1
    · exact same.mem_follow_get p.lhs
  simp only [lookaheads, ← same.symbols_eq, beginnings, followers, same.mem_ofSequence]

theorem mem_predictSet (same : g.Rearranges h) (member : p ∈ g.rules) :
    t ∈ g.predictSet p ↔ t ∈ h.predictSet p := by
  rw [← mem_lookaheads, same.lookaheads_eq member, mem_lookaheads]

theorem mem_productionsOf (same : g.Rearranges h) :
    p ∈ g.productionsOf a ↔ p ∈ h.productionsOf a := by
  rw [Grammar.mem_productionsOf, Grammar.mem_productionsOf, same.mem_rules]

/-- Conflicts in one table are conflicts in the other one. -/
theorem clean (same : g.Rearranges h) (free : g.table.conflicts = []) :
    h.table.conflicts = [] := by
  rw [conflicts_eq_nil_iff_disjoint] at free ⊢
  intro a nonterminal p ofP q ofQ different t inP inQ
  have ownP := same.mem_productionsOf.mpr ofP
  have ownQ := same.mem_productionsOf.mpr ofQ
  refine free a (same.nonterminals_eq ▸ nonterminal) p ownP q ownQ different t ?_ ?_
  · exact (same.mem_predictSet (Grammar.mem_productionsOf.mp ownP).1).mpr inP
  · exact (same.mem_predictSet (Grammar.mem_productionsOf.mp ownQ).1).mpr inQ

theorem isLL1_eq (same : g.Rearranges h) : g.table.isLL1 = h.table.isLL1 := by
  have both : g.table.conflicts = [] ↔ h.table.conflicts = [] := ⟨same.clean, same.symm.clean⟩
  simp only [Table.isLL1, both]

/-- Without conflicts every cell has the same content. -/
theorem get?_eq (same : g.Rearranges h) (free : g.table.conflicts = []) (a t : Symbol) :
    g.table.get? a t = h.table.get? a t := by
  refine Option.ext ?_
  intro p
  rw [table_get?_eq_some_iff free, table_get?_eq_some_iff (same.clean free), same.mem_rules,
    same.predicts_iff]

/-- Without conflicts the same lookaheads are expected. -/
theorem mem_expected (same : g.Rearranges h) (free : g.table.conflicts = []) (a t : Symbol) :
    t ∈ g.table.expected a ↔ t ∈ h.table.expected a := by
  rw [Table.mem_expected_iff, Table.mem_expected_iff, same.get?_eq free]

/-- When each nonterminal has its productions in the same order, the same requests are
made one after another, whether or not they conflict. -/
theorem table_eq (same : g.Rearranges h)
    (ordered : ∀ a, g.productionsOf a = h.productionsOf a) : g.table = h.table := by
  have all : g.allProductions = h.allProductions := by
    rw [allProductions, allProductions, same.nonterminals_eq, funext ordered]
  have requests : g.requests g.first g.follow = h.requests h.first h.follow := by
    rw [Grammar.requests, Grammar.requests, ← all]
    simp only [List.flatMap_def]
    congr 1
    refine List.map_congr_left ?_
    intro p member
    rw [same.lookaheads_eq (mem_allProductions.mp member)]
  rw [table, table, tableOf, tableOf, requests]

end Tables

end Rearranges

section Declared

variable {d e : Declaration} {g h : Grammar}

/-- Declarations of the same names, start symbol and productions give grammars that
rearrange one another. -/
theorem rearranges_of_accepted (one : ofDeclaration? d = .ok g) (other : ofDeclaration? e = .ok h)
    (terminals : ∀ x, x ∈ d.terminals ↔ x ∈ e.terminals)
    (nonterminals : ∀ x, x ∈ d.nonterminals ↔ x ∈ e.nonterminals) (start : d.start = e.start)
    (productions : ∀ p, p ∈ d.productions ↔ p ∈ e.productions) : g.Rearranges h := by
  obtain ⟨_, terminalsG, nonterminalsG, startG, rulesG⟩ := content_of_accepted one
  obtain ⟨_, terminalsH, nonterminalsH, startH, rulesH⟩ := content_of_accepted other
  constructor
  · rw [terminalsG, terminalsH, nameSet_ext terminals]
  · rw [nonterminalsG, nonterminalsH, nameSet_ext nonterminals]
  · rw [startG, startH, start]
  · intro p
    rw [rulesG, rulesH, Finite.mem_distinct, Finite.mem_distinct, productions]

/-- The productions of a nonterminal stand in the order of their first appearance. -/
theorem productionsOf_pairwise (accepted : ofDeclaration? d = .ok g) (a : Symbol) :
    (g.productionsOf a).Pairwise (fun p q => d.productions.idxOf p < d.productions.idxOf q) := by
  obtain ⟨_, _, _, _, rules⟩ := content_of_accepted accepted
  rw [productionsOf, rules]
  exact (Finite.distinct_pairwise d.productions).filter _

/-- Equal orders of first appearance give equal lists of productions. -/
theorem productionsOf_eq (one : ofDeclaration? d = .ok g) (other : ofDeclaration? e = .ok h)
    (same : g.Rearranges h)
    (ordered : ∀ p ∈ d.productions, ∀ q ∈ d.productions, p.lhs = q.lhs →
      (d.productions.idxOf p < d.productions.idxOf q ↔
        e.productions.idxOf p < e.productions.idxOf q)) (a : Symbol) :
    g.productionsOf a = h.productionsOf a := by
  obtain ⟨_, _, _, _, rules⟩ := content_of_accepted one
  have offered : ∀ p ∈ g.productionsOf a, p ∈ d.productions ∧ p.lhs = a := by
    intro p member
    obtain ⟨stored, left⟩ := mem_productionsOf.mp member
    exact ⟨Finite.mem_distinct.mp (rules ▸ stored), left⟩
  have permuted : (g.productionsOf a).Perm (h.productionsOf a) :=
    (List.perm_ext_iff_of_nodup (g.rules_nodup.filter _) (h.rules_nodup.filter _)).mpr
      (fun _ => same.mem_productionsOf)
  refine permuted.eq_of_pairwise ?_ (productionsOf_pairwise one a) ?_
  · intro p q _ _ below above
    omega
  · refine (productionsOf_pairwise other a).imp_of_mem ?_
    intro p q ofP ofQ below
    obtain ⟨inP, leftP⟩ := offered p (same.mem_productionsOf.mpr ofP)
    obtain ⟨inQ, leftQ⟩ := offered q (same.mem_productionsOf.mpr ofQ)
    exact (ordered p inP q inQ (leftP.trans leftQ.symm)).mpr below

end Declared

end Grammar

end Predictive
