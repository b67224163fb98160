import Predictive.Grammar.Table
import Predictive.Proofs.FollowExact

/-!
# What a predictive table holds

A cell goes to the first production that asks for it, and a table is free of
conflicts when every request finds its own production in its cell. Requests are
made by the productions in order, so a cell of a nonterminal holds the first of
its productions that predicts the lookahead, and a table without conflicts is one
in which no two productions of a nonterminal predict the same lookahead.

FIRST and FOLLOW are exact, so the set of lookaheads of a production is a matter
of derivations alone, and so is the content of a table without conflicts.
-/

namespace Predictive

namespace Table

variable {t : Table} {cell : Cell} {a lookahead : Symbol}

/-- The cell is the one of a nonterminal and a lookahead. -/
def IsAt (a lookahead : Symbol) (cell : Cell) : Prop :=
  cell.nonterminal = a ∧ cell.lookahead = lookahead

instance (a lookahead : Symbol) : DecidablePred (IsAt a lookahead) := fun cell =>
  inferInstanceAs (Decidable (cell.nonterminal = a ∧ cell.lookahead = lookahead))

/-- A request fills its cell unless the cell is filled already; no other cell
changes. -/
theorem get?_put : (t.put cell).get? a lookahead =
    (t.get? a lookahead).or (if IsAt a lookahead cell then some cell.production else none) := by
  unfold put
  split
  · rename_i empty
    simp only [get?, List.find?_append, List.find?_singleton]
    by_cases here : IsAt a lookahead cell
    · simp only [IsAt] at here
      simp [here, IsAt]
    · have elsewhere : ¬ (cell.nonterminal = a ∧ cell.lookahead = lookahead) := here
      simp [elsewhere, here]
  · rename_i existing filled
    have unchanged : (t.get? a lookahead).or
        (if IsAt a lookahead cell then some cell.production else none) = t.get? a lookahead := by
      split
      · rename_i here
        obtain ⟨rfl, rfl⟩ := here
        simp [filled]
      · exact Option.or_none
    rw [unchanged]
    split <;> rfl

/-- A lookahead is expected of a nonterminal exactly when there is a cell for both. -/
theorem mem_expected_iff : lookahead ∈ t.expected a ↔ (t.get? a lookahead).isSome = true := by
  rw [get?, Option.isSome_map, List.find?_isSome]
  constructor
  · intro expected
    obtain ⟨cell, own, same⟩ := List.mem_map.mp expected
    obtain ⟨member, left⟩ := List.mem_filter.mp own
    exact ⟨cell, member, by simpa [same] using left⟩
  · rintro ⟨cell, member, here⟩
    obtain ⟨left, same⟩ := of_decide_eq_true here
    exact List.mem_map.mpr ⟨cell, List.mem_filter.mpr ⟨member, decide_eq_true left⟩, same⟩

/-- A request adds no conflict exactly when it finds its own production in its
cell. -/
theorem conflicts_put : (t.put cell).conflicts = [] ↔ t.conflicts = [] ∧
    (t.put cell).get? cell.nonterminal cell.lookahead = some cell.production := by
  rw [get?_put]
  unfold put
  split
  · rename_i empty
    simp [empty, IsAt]
  · rename_i existing filled
    split
    · rename_i same
      simp [filled, same]
    · rename_i other
      simp [filled, other]

/-- After all requests a cell holds the production of the first one made for it. -/
theorem get?_foldl_put (requests : List Cell) : (requests.foldl put t).get? a lookahead =
    (t.get? a lookahead).or ((requests.find? (IsAt a lookahead ·)).map Cell.production) := by
  induction requests generalizing t with
  | nil => simp
  | cons cell rest inductionHypothesis =>
    rw [List.foldl_cons, inductionHypothesis, get?_put, Option.or_assoc, List.find?_cons]
    by_cases here : IsAt a lookahead cell <;> simp [here]

/-- There is no conflict exactly when every request finds its own production in
its cell at the end. -/
theorem conflicts_foldl_put (requests : List Cell) : (requests.foldl put t).conflicts = [] ↔
    t.conflicts = [] ∧ ∀ cell ∈ requests,
      (requests.foldl put t).get? cell.nonterminal cell.lookahead = some cell.production := by
  induction requests generalizing t with
  | nil => simp
  | cons cell rest inductionHypothesis =>
    -- A cell keeps its content, so the first request may look at the end as well.
    have head : (rest.foldl put (t.put cell)).get? cell.nonterminal cell.lookahead =
        (t.put cell).get? cell.nonterminal cell.lookahead := by
      rw [get?_foldl_put, get?_put]
      have here : IsAt cell.nonterminal cell.lookahead cell := ⟨rfl, rfl⟩
      cases t.get? cell.nonterminal cell.lookahead <;> simp [here]
    rw [List.foldl_cons, inductionHypothesis, conflicts_put, List.forall_mem_cons, head, and_assoc]

end Table

namespace Grammar

variable {g : Grammar} {a lookahead : Symbol} {p q : Production}

/-- The lookaheads of a production: FIRST of its right side without `ε`, and
FOLLOW of its left side if `ε` is in that FIRST. -/
def predictSet (g : Grammar) (p : Production) : List Symbol :=
  Finite.without (g.first.ofSequence p.rhs) [epsilon] ++
    if epsilon ∈ g.first.ofSequence p.rhs then g.follow.get p.lhs else []

theorem mem_lookaheads :
    lookahead ∈ g.lookaheads g.first g.follow p ↔ lookahead ∈ g.predictSet p := by
  unfold lookaheads predictSet
  split <;> simp [SymbolOrder.mem_arrange]

/-- The set of lookaheads in terms of derivations. -/
theorem mem_predictSet_iff (member : p ∈ g.rules) :
    lookahead ∈ g.predictSet p ↔ g.Predicts p lookahead := by
  have declared := g.lhs_declared p member
  have form := isForm_body member
  have follow : lookahead ∈ g.follow.get p.lhs ↔ g.Succeeds p.lhs lookahead :=
    mem_follow_iff declared
  have first : lookahead ∈ g.first.ofSequence p.body ∧ lookahead ≠ epsilon ↔
      g.CanBegin p.body lookahead := by
    constructor
    · exact fun begins => (mem_first_iff_canBegin form begins.2).mp begins.1
    · intro begins
      have other := terminal_ne_epsilon begins.1
      exact ⟨(mem_first_iff_canBegin form other).mpr begins, other⟩
  rw [predictSet, first_family.ofSequence_rhs, List.mem_append, Finite.mem_without,
    List.mem_singleton, first, Predicts, ← epsilon_mem_first_iff form]
  split
  · rename_i mark
    simp only [mark, true_and, follow, Succeeds]
  · rename_i noMark
    simp only [noMark, false_and, List.not_mem_nil]

/-- A lookahead is a terminal or the end marker. -/
theorem Predicts.isLookahead (predicts : g.Predicts p lookahead) : g.IsLookahead lookahead := by
  rcases predicts with ⟨terminal, _⟩ | ⟨_, ⟨terminal, _⟩ | ⟨mark, _⟩⟩
  · exact Or.inl terminal
  · exact Or.inl terminal
  · exact Or.inr mark

theorem epsilon_not_mem_predictSet (member : p ∈ g.rules) : epsilon ∉ g.predictSet p := by
  intro predicted
  rcases ((mem_predictSet_iff member).mp predicted).isLookahead with terminal | mark
  · exact epsilon_not_terminal terminal
  · exact absurd mark (by decide)

/-- A production asks for a cell when it is one of its left side and one of the
lookaheads is the right one. -/
theorem find?_requests_of (first follow : SymbolSets) (p : Production) :
    (((g.lookaheads first follow p).map (fun lookahead => (⟨p.lhs, lookahead, p⟩ : Cell))).find?
        (Table.IsAt a lookahead ·)).map Cell.production =
      if p.lhs = a ∧ lookahead ∈ g.lookaheads first follow p then some p else none := by
  rw [List.find?_map, Option.map_map]
  split
  · rename_i asks
    have found : ((g.lookaheads first follow p).find?
        ((Table.IsAt a lookahead ·) ∘ fun lookahead => (⟨p.lhs, lookahead, p⟩ : Cell))).isSome := by
      rw [List.find?_isSome]
      exact ⟨lookahead, asks.2, by simp [Table.IsAt, asks.1]⟩
    obtain ⟨seen, present⟩ := Option.isSome_iff_exists.mp found
    rw [present]
    rfl
  · rename_i other
    rw [List.find?_eq_none.mpr ?_]
    · rfl
    · intro seen member here
      obtain ⟨left, same⟩ : p.lhs = a ∧ seen = lookahead := of_decide_eq_true here
      exact other ⟨left, same ▸ member⟩

/-- The first request for a cell is made by the first production that asks for
it. -/
theorem find?_requests (first follow : SymbolSets) (productions : List Production) :
    ((productions.flatMap (fun p => (g.lookaheads first follow p).map
      (fun lookahead => (⟨p.lhs, lookahead, p⟩ : Cell)))).find?
        (Table.IsAt a lookahead ·)).map Cell.production =
      productions.find? (fun p => p.lhs = a ∧ lookahead ∈ g.lookaheads first follow p) := by
  induction productions with
  | nil => rfl
  | cons p rest inductionHypothesis =>
    rw [List.flatMap_cons, List.find?_append, Option.map_or, inductionHypothesis,
      find?_requests_of, List.find?_cons]
    by_cases asks : p.lhs = a ∧ lookahead ∈ g.lookaheads first follow p <;> simp [asks]

/-- Going through all productions, only those of the nonterminal count. -/
theorem find?_flatMap_productionsOf (names : List Symbol) (holds : Production → Bool) :
    (names.flatMap g.productionsOf).find? (fun p => p.lhs = a ∧ holds p) =
      if a ∈ names then (g.productionsOf a).find? holds else none := by
  induction names with
  | nil => rfl
  | cons b rest inductionHypothesis =>
    rw [List.flatMap_cons, List.find?_append, inductionHypothesis]
    by_cases here : b = a
    · subst here
      have own : (g.productionsOf b).find? (fun p => p.lhs = b ∧ holds p) =
          (g.productionsOf b).find? holds := by
        simp only [productionsOf, List.find?_filter]
        congr 1
        funext p
        by_cases left : p.lhs = b <;> simp [left]
      rw [own]
      by_cases again : b ∈ rest <;> simp [again]
    · have foreign : (g.productionsOf b).find? (fun p => p.lhs = a ∧ holds p) = none := by
        rw [List.find?_eq_none]
        intro p member asks
        simp only [decide_eq_true_eq] at asks
        exact here ((mem_productionsOf.mp member).2.symm.trans asks.1)
      have different : ¬ a = b := fun same => here same.symm
      rw [foreign, Option.none_or]
      simp [different]

/-- A cell holds the first production of its nonterminal that predicts the
lookahead. -/
theorem table_get? : g.table.get? a lookahead =
    (g.productionsOf a).find? (fun p => lookahead ∈ g.predictSet p) := by
  have empty : Table.get? {} a lookahead = none := rfl
  have asked : ∀ p : Production,
      decide (p.lhs = a ∧ lookahead ∈ g.lookaheads g.first g.follow p) =
        decide (p.lhs = a ∧ decide (lookahead ∈ g.predictSet p) = true) := by
    intro p
    simp [mem_lookaheads]
  rw [table, tableOf, Table.get?_foldl_put, empty, Option.none_or, requests, find?_requests,
    allProductions]
  simp only [asked, find?_flatMap_productionsOf]
  split
  · rfl
  · rename_i undeclared
    rw [List.find?_eq_none.mpr ?_]
    intro p member
    obtain ⟨stored, same⟩ := mem_productionsOf.mp member
    exact absurd (same ▸ g.lhs_declared p stored) undeclared

/-- A cell is filled exactly when some production of its nonterminal predicts the
lookahead. -/
theorem table_get?_isSome : (g.table.get? a lookahead).isSome = true ↔
    ∃ p ∈ g.productionsOf a, lookahead ∈ g.predictSet p := by
  simp [table_get?, List.find?_isSome]

/-- Without conflicts every production stands in all cells that it asks for. -/
theorem conflicts_eq_nil_iff : g.table.conflicts = [] ↔
    ∀ p ∈ g.rules, ∀ lookahead ∈ g.predictSet p, g.table.get? p.lhs lookahead = some p := by
  rw [table, tableOf, Table.conflicts_foldl_put]
  simp only [true_and]
  constructor
  · intro clean p member lookahead predicted
    refine clean ⟨p.lhs, lookahead, p⟩ (List.mem_flatMap.mpr ⟨p, mem_allProductions.mpr member, ?_⟩)
    exact List.mem_map.mpr ⟨lookahead, mem_lookaheads.mpr predicted, rfl⟩
  · intro clean cell request
    obtain ⟨p, member, asked⟩ := List.mem_flatMap.mp request
    obtain ⟨lookahead, predicted, rfl⟩ := List.mem_map.mp asked
    exact clean p (mem_allProductions.mp member) lookahead (mem_lookaheads.mp predicted)

/-- A table is free of conflicts exactly when different productions of one
nonterminal predict different lookaheads. -/
theorem conflicts_eq_nil_iff_disjoint : g.table.conflicts = [] ↔
    ∀ a ∈ g.nonterminals, ∀ p ∈ g.productionsOf a, ∀ q ∈ g.productionsOf a, p ≠ q →
      ∀ lookahead ∈ g.predictSet p, lookahead ∉ g.predictSet q := by
  rw [conflicts_eq_nil_iff]
  constructor
  · intro clean a _ p ofP q ofQ different lookahead inP inQ
    obtain ⟨memberP, rfl⟩ := mem_productionsOf.mp ofP
    obtain ⟨memberQ, same⟩ := mem_productionsOf.mp ofQ
    have cell := clean q memberQ lookahead inQ
    rw [same, clean p memberP lookahead inP] at cell
    exact different (Option.some.inj cell)
  · intro separate p member lookahead predicted
    have own : p ∈ g.productionsOf p.lhs := mem_productionsOf.mpr ⟨member, rfl⟩
    obtain ⟨q, found⟩ := Option.isSome_iff_exists.mp
      (table_get?_isSome.mpr ⟨p, own, predicted⟩)
    rw [found]
    rw [table_get?] at found
    have alsoOwn := List.mem_of_find?_eq_some found
    have alsoPredicted : lookahead ∈ g.predictSet q := by simpa using List.find?_some found
    by_cases same : p = q
    · rw [same]
    · exact absurd alsoPredicted
        (separate p.lhs (g.lhs_declared p member) p own q alsoOwn same lookahead predicted)

/-- No cell is filled under `ε`. -/
theorem lookahead_ne_epsilon {cell : Cell} (member : cell ∈ g.table.cells) :
    cell.lookahead ≠ epsilon := by
  intro mark
  have filled : (g.table.get? cell.nonterminal epsilon).isSome = true := by
    rw [Table.get?, Option.isSome_map, List.find?_isSome]
    exact ⟨cell, member, by simp [mark]⟩
  obtain ⟨p, own, predicted⟩ := table_get?_isSome.mp filled
  exact epsilon_not_mem_predictSet (mem_productionsOf.mp own).1 predicted

/-- The table of every grammar has a cell exactly where a production predicts the
lookahead, it holds the first such production, and never is `ε` a lookahead. It
is free of conflicts exactly when the productions of each nonterminal predict
different lookaheads; the strict construction then gives it back, and refuses with
its conflicts in every other case. -/
theorem table_decides_prediction (g : Grammar) :
    (∀ a lookahead, (g.table.get? a lookahead).isSome = true ↔
      ∃ p ∈ g.productionsOf a, lookahead ∈ g.predictSet p) ∧
    (∀ a lookahead, g.table.get? a lookahead =
      (g.productionsOf a).find? (fun p => lookahead ∈ g.predictSet p)) ∧
    (∀ cell ∈ g.table.cells, cell.lookahead ≠ epsilon) ∧
    (g.table.conflicts = [] ↔
      ∀ a ∈ g.nonterminals, ∀ p ∈ g.productionsOf a, ∀ q ∈ g.productionsOf a, p ≠ q →
        ∀ lookahead ∈ g.predictSet p, lookahead ∉ g.predictSet q) ∧
    g.table? = if g.table.conflicts = [] then .ok g.table else .error g.table.conflicts := by
  refine ⟨fun _ _ => table_get?_isSome, fun _ _ => table_get?, fun _ => lookahead_ne_epsilon,
    conflicts_eq_nil_iff_disjoint, ?_⟩
  simp [table?, Table.isLL1]

/-- In a table without conflicts a cell holds a production exactly when it is one
of its nonterminal and derivations call for it under the lookahead. -/
theorem table_get?_eq_some_iff (clean : g.table.conflicts = []) :
    g.table.get? a lookahead = some p ↔ p ∈ g.rules ∧ p.lhs = a ∧ g.Predicts p lookahead := by
  constructor
  · intro found
    rw [table_get?] at found
    obtain ⟨member, same⟩ := mem_productionsOf.mp (List.mem_of_find?_eq_some found)
    have predicted : lookahead ∈ g.predictSet p := by simpa using List.find?_some found
    exact ⟨member, same, (mem_predictSet_iff member).mp predicted⟩
  · rintro ⟨member, rfl, predicts⟩
    have predicted := (mem_predictSet_iff member).mpr predicts
    exact conflicts_eq_nil_iff.mp clean p member lookahead predicted

/-- Without conflicts a lookahead calls for one production of a nonterminal only. -/
theorem eq_of_predicts (clean : g.table.conflicts = []) (ofP : p ∈ g.rules) (ofQ : q ∈ g.rules)
    (same : p.lhs = q.lhs) (first : g.Predicts p lookahead) (second : g.Predicts q lookahead) :
    p = q := by
  have cell := (table_get?_eq_some_iff clean).mpr ⟨ofP, same, first⟩
  rw [(table_get?_eq_some_iff clean).mpr ⟨ofQ, rfl, second⟩] at cell
  exact (Option.some.inj cell).symm

end Grammar

end Predictive
