import Predictive.Proofs.Rearrangement

/-!
# The listing of declared symbols

The sequence that fixes the order of a grammar's symbols names each of them once. So a
symbol ranks by its place in the sequence, no two symbols share a rank, and to list a set of
them is to go through the sequence and keep those of the set: the terminals by name, `$`, the
nonterminals by name and `ε`. How the sets were enumerated, when the order was fixed or when
they are listed, leaves no trace.
-/

namespace Predictive

/-- A listing by name shows no trace of the order in which the names were given. -/
theorem byName_eq_of_perm {names others : List Symbol} (permuted : names.Perm others) :
    byName names = byName others :=
  Finite.ordered_eq_of_perm nameLe_total nameLe_trans (fun _ _ => nameLe_antisymm) permuted

namespace IsNameSet

variable {names : List Symbol}

/-- A set of names is listed by name already. -/
theorem byName_eq (set : IsNameSet names) : byName names = names :=
  (Finite.ordered_perm nameLe names).eq_of_pairwise (fun _ _ _ _ => nameLe_antisymm)
    (byName_pairwise names) set.pairwise

/-- Each name of a set comes before those behind it. -/
theorem increasing (set : IsNameSet names) : names.Pairwise (· < ·) := by
  refine (List.nodup_iff_pairwise_ne.mp set.nodup).and set.pairwise |>.imp ?_
  rintro a b ⟨different, below⟩
  rw [nameLe, decide_eq_true_eq] at below
  exact String.not_le.mp (fun above => different (String.le_antisymm below above))

end IsNameSet

namespace SymbolOrder

variable {order : SymbolOrder} {a b : Symbol}

theorem lastIndex?_eq_none {names : List Symbol} (absent : a ∉ names) :
    lastIndex? a names = none := by
  induction names with
  | nil => rfl
  | cons x rest inductionHypothesis =>
    have different : x ≠ a := (List.ne_of_not_mem_cons absent).symm
    rw [lastIndex?, inductionHypothesis (List.not_mem_of_not_mem_cons absent)]
    exact if_neg different

/-- A name that occurs once has its last place where it occurs. -/
theorem lastIndex?_getElem {names : List Symbol} (unique : names.Nodup) {i : Nat}
    (inside : i < names.length) : lastIndex? names[i] names = some i := by
  induction names generalizing i with
  | nil => cases inside
  | cons x rest inductionHypothesis =>
    obtain ⟨absent, others⟩ := List.nodup_cons.mp unique
    cases i with
    | zero => simp [lastIndex?, lastIndex?_eq_none absent]
    | succ i => simp [lastIndex?, inductionHypothesis others (Nat.lt_of_succ_lt_succ inside)]

/-- The ranks of a sequence without repetitions are its places. -/
theorem rank_getElem (unique : order.names.Nodup) {i : Nat} (inside : i < order.names.length) :
    order.rank order.names[i] = i := by
  rw [rank, lastIndex?_getElem unique inside, Option.getD_some]

theorem names_pairwise (unique : order.names.Nodup) :
    order.names.Pairwise (fun a b => order.rank a < order.rank b) := by
  rw [List.pairwise_iff_getElem]
  intro i j inI inJ earlier
  rw [rank_getElem unique inI, rank_getElem unique inJ]
  exact earlier

theorem le_of_rank_lt (below : order.rank a < order.rank b) : order.le a b = true := by
  simp [le, below]

/-- To list a set of names of the sequence is to keep those names in the sequence. -/
theorem arrange_eq_filter (unique : order.names.Nodup) {set : List Symbol} (once : set.Nodup)
    (known : ∀ x ∈ set, x ∈ order.names) :
    order.arrange set = order.names.filter (· ∈ set) := by
  have permuted : (order.arrange set).Perm (order.names.filter (· ∈ set)) := by
    refine (List.perm_ext_iff_of_nodup (arrange_nodup once) (unique.filter _)).mpr ?_
    intro x
    rw [mem_arrange, List.mem_filter, decide_eq_true_eq]
    exact ⟨fun member => ⟨known x member, member⟩, fun both => both.2⟩
  refine permuted.eq_of_pairwise (fun _ _ _ _ => le_antisymm) (order.arrange_pairwise set) ?_
  exact ((names_pairwise unique).filter _).imp le_of_rank_lt

/-- Names of the sequence are listed by increasing rank. -/
theorem arrange_increasing (unique : order.names.Nodup) {set : List Symbol} (once : set.Nodup)
    (known : ∀ x ∈ set, x ∈ order.names) :
    (order.arrange set).Pairwise (fun a b => order.rank a < order.rank b) := by
  rw [arrange_eq_filter unique once known]
  exact (names_pairwise unique).filter _

end SymbolOrder

namespace Grammar

variable {g : Grammar} {set : List Symbol}

/-- The sequence of a grammar's symbols. -/
theorem symbols_names (g : Grammar) :
    g.symbols.names = g.terminals ++ endMarker :: (g.nonterminals ++ [epsilon]) := by
  change SymbolOrder.sequenceOf g.terminals g.nonterminals = _
  rw [SymbolOrder.sequenceOf, g.terminals_set.byName_eq, g.nonterminals_set.byName_eq]
  simp

/-- It names no symbol twice. -/
theorem symbols_nodup (g : Grammar) : g.symbols.names.Nodup := by
  have marks : endMarker ≠ epsilon := by decide
  simp only [symbols_names, List.nodup_append, List.nodup_cons, List.mem_append, List.mem_cons,
    List.not_mem_nil, or_false, not_or]
  refine ⟨g.terminals_set.nodup, ⟨⟨endMarker_not_nonterminal, marks⟩, g.nonterminals_set.nodup,
    ⟨not_false, List.nodup_nil⟩, ?_⟩, ?_⟩
  · rintro x nonterminal _ rfl rfl
    exact epsilon_not_nonterminal nonterminal
  · rintro t terminal _ (rfl | nonterminal | rfl) rfl
    · exact endMarker_not_terminal terminal
    · exact g.disjoint t terminal nonterminal
    · exact epsilon_not_terminal terminal

theorem mem_symbols_names {x : Symbol} : x ∈ g.symbols.names ↔
    x ∈ g.terminals ∨ x = endMarker ∨ x ∈ g.nonterminals ∨ x = epsilon := by
  simp [symbols_names]

/-- The order is the same for every enumeration of the terminals and the nonterminals. -/
theorem declared_eq_symbols {terminals nonterminals : List Symbol}
    (sameTerminals : terminals.Perm g.terminals)
    (sameNonterminals : nonterminals.Perm g.nonterminals) :
    SymbolOrder.declared terminals nonterminals = g.symbols := by
  have sequence : SymbolOrder.sequenceOf terminals nonterminals =
      SymbolOrder.sequenceOf g.terminals g.nonterminals := by
    rw [SymbolOrder.sequenceOf, byName_eq_of_perm sameTerminals, byName_eq_of_perm sameNonterminals]
    rfl
  rw [symbols, SymbolOrder.declared, SymbolOrder.declared, SymbolOrder.fix, SymbolOrder.fix,
    sequence]

/-- Nonterminals are listed by name. -/
theorem arrange_nonterminals (once : set.Nodup) (known : ∀ x ∈ set, x ∈ g.nonterminals) :
    g.symbols.arrange set = g.nonterminals.filter (· ∈ set) := by
  have named : ∀ x ∈ set, x ∈ g.symbols.names := fun x member =>
    mem_symbols_names.mpr (Or.inr (Or.inr (Or.inl (known x member))))
  have noTerminal : g.terminals.filter (· ∈ set) = [] := by
    rw [List.filter_eq_nil_iff]
    intro t terminal member
    exact g.disjoint t terminal (known t (of_decide_eq_true member))
  have noEnd : endMarker ∉ set := fun member => endMarker_not_nonterminal (known _ member)
  have noMark : epsilon ∉ set := fun member => epsilon_not_nonterminal (known _ member)
  rw [SymbolOrder.arrange_eq_filter g.symbols_nodup once named, symbols_names]
  simp [noTerminal, noEnd, noMark]

/-- Lookaheads are listed by name, the end marker last. -/
theorem arrange_lookaheads (once : set.Nodup) (known : ∀ x ∈ set, g.IsLookahead x) :
    g.symbols.arrange set =
      g.terminals.filter (· ∈ set) ++ if endMarker ∈ set then [endMarker] else [] := by
  have named : ∀ x ∈ set, x ∈ g.symbols.names := by
    intro x member
    rcases known x member with terminal | mark
    · exact mem_symbols_names.mpr (Or.inl terminal)
    · exact mem_symbols_names.mpr (Or.inr (Or.inl mark))
  have noNonterminal : g.nonterminals.filter (· ∈ set) = [] := by
    rw [List.filter_eq_nil_iff]
    intro a nonterminal member
    rcases known a (of_decide_eq_true member) with terminal | rfl
    · exact g.disjoint a terminal nonterminal
    · exact endMarker_not_nonterminal nonterminal
  have noMark : epsilon ∉ set := by
    intro member
    rcases known epsilon member with terminal | mark
    · exact epsilon_not_terminal terminal
    · exact absurd mark (by decide)
  rw [SymbolOrder.arrange_eq_filter g.symbols_nodup once named, symbols_names]
  by_cases ends : endMarker ∈ set <;> simp [noNonterminal, noMark, ends]

end Grammar

end Predictive
