import Predictive.Proofs.Clashes
import Predictive.Proofs.Redeclaration

/-!
# The conflicts that a table records

Of the productions of a nonterminal that predict a lookahead, the first one gets the
cell, and each of the others overlaps with it there. A table records a conflict for
every request that finds another production in its cell. So what it records of a cell is
exactly its overlaps, and in their order, but not always once: a production asks for a
cell through the beginnings of its body and through FOLLOW of its left side. If the
lookahead is in both and the cell is taken, the table records the one overlap twice.

The record of a cell is first described by the requests for it, whatever they are. Then
the requests of a grammar are counted, production by production.
-/

namespace Predictive

/-- The conflict is about the cell of a nonterminal and a lookahead. -/
def Conflict.IsAt (a lookahead : Symbol) (c : Conflict) : Prop :=
  c.nonterminal = a ∧ c.lookahead = lookahead

instance (a lookahead : Symbol) : DecidablePred (Conflict.IsAt a lookahead) := fun c =>
  inferInstanceAs (Decidable (c.nonterminal = a ∧ c.lookahead = lookahead))

/-- Each name of a set occurs once in the order of symbols. -/
theorem SymbolOrder.count_arrange {order : SymbolOrder} {names : List Symbol}
    (unique : names.Nodup) (x : Symbol) :
    (order.arrange names).count x = if x ∈ names then 1 else 0 := by
  have once : (order.arrange names).Nodup := SymbolOrder.arrange_nodup unique
  simpa only [SymbolOrder.mem_arrange] using once.count (a := x)

namespace Table

variable {t : Table} {a lookahead : Symbol} {cell : Cell}

/-- The conflicts recorded for a cell, in order. -/
def conflictsAt (t : Table) (a lookahead : Symbol) : List Conflict :=
  t.conflicts.filter (Conflict.IsAt a lookahead ·)

/-- The productions that ask for a cell, one for each request. -/
def askers (a lookahead : Symbol) (requests : List Cell) : List Production :=
  (requests.filter (IsAt a lookahead ·)).map Cell.production

/-- The conflicts between the production in a cell, if there is one, and those that ask
for it. -/
def refusals (a lookahead : Symbol) : Option Production → List Production → List Conflict
  | none, _ => []
  | some existing, asking => (asking.filter (· ≠ existing)).map (⟨a, lookahead, existing, ·⟩)

theorem askers_cons (cell : Cell) (rest : List Cell) : askers a lookahead (cell :: rest) =
    (if IsAt a lookahead cell then [cell.production] else []) ++ askers a lookahead rest := by
  by_cases here : IsAt a lookahead cell <;> simp [askers, here]

theorem askers_append (front back : List Cell) : askers a lookahead (front ++ back) =
    askers a lookahead front ++ askers a lookahead back := by
  simp [askers]

theorem refusals_append (existing : Production) (first second : List Production) :
    refusals a lookahead (some existing) (first ++ second) =
      refusals a lookahead (some existing) first ++ refusals a lookahead (some existing) second := by
  simp [refusals]

/-- Where nothing is asked for, nothing is refused. -/
theorem refusals_nil (held : Option Production) : refusals a lookahead held [] = [] := by
  cases held <;> rfl

/-- A request is recorded for its cell if it finds another production there. -/
theorem conflictsAt_put : (t.put cell).conflictsAt a lookahead = t.conflictsAt a lookahead ++
    refusals a lookahead (t.get? a lookahead)
      (if IsAt a lookahead cell then [cell.production] else []) := by
  split
  · rename_i here
    obtain ⟨rfl, rfl⟩ := here
    unfold put
    split
    · rename_i empty
      simp [conflictsAt, empty, refusals]
    · rename_i existing filled
      rw [filled]
      split
      · rename_i same
        simp [refusals, same]
      · rename_i other
        have differs : cell.production ≠ existing := fun same => other same.symm
        simp [conflictsAt, refusals, differs, Conflict.IsAt]
  · rename_i elsewhere
    rw [refusals_nil, List.append_nil]
    unfold put
    split
    · rfl
    · rename_i existing _
      have other : ¬ Conflict.IsAt a lookahead
          ⟨cell.nonterminal, cell.lookahead, existing, cell.production⟩ := elsewhere
      split
      · rfl
      · simp [conflictsAt, other]

/-- After all requests, what is recorded for a cell are the requests for it by productions
other than the one that holds it. -/
theorem conflictsAt_foldl_put (requests : List Cell) :
    (requests.foldl put t).conflictsAt a lookahead = t.conflictsAt a lookahead ++
      refusals a lookahead ((t.get? a lookahead).or (askers a lookahead requests).head?)
        (askers a lookahead requests) := by
  induction requests generalizing t with
  | nil => simp [askers, refusals_nil]
  | cons cell rest inductionHypothesis =>
    rw [List.foldl_cons, inductionHypothesis, conflictsAt_put, get?_put, askers_cons cell rest,
      List.append_assoc, List.append_cancel_left_eq]
    by_cases here : IsAt a lookahead cell
    · simp only [here, if_true]
      cases held : t.get? a lookahead with
      | none => simp [refusals]
      | some existing => simp only [Option.some_or, refusals_append]
    · simp only [here, if_false, refusals_nil, List.nil_append, Option.or_none]

end Table

namespace Grammar

variable {g : Grammar} {a lookahead : Symbol} {p : Production}

/-- The productions of a nonterminal that predict a lookahead, in order of declaration. -/
def predictors (g : Grammar) (a lookahead : Symbol) : List Production :=
  (g.productionsOf a).filter (lookahead ∈ g.predictSet ·)

/-- The overlaps at a cell: the first production that predicts the lookahead with each of
the others. -/
def overlapsAt (g : Grammar) (a lookahead : Symbol) : List Conflict :=
  match g.predictors a lookahead with
  | [] => []
  | first :: others => others.map (⟨a, lookahead, first, ·⟩)

/-- The overlaps at all cells. -/
def overlaps (g : Grammar) : List Conflict :=
  g.nonterminals.flatMap (fun a => (g.terminals ++ [endMarker]).flatMap (g.overlapsAt a))

/-- A production asks twice for the cell of a lookahead: its body can begin with the
lookahead, and can vanish in front of it. -/
def AsksTwice (g : Grammar) (p : Production) (lookahead : Symbol) : Prop :=
  lookahead ∈ Finite.without (g.first.ofSequence p.rhs) [epsilon] ∧
    epsilon ∈ g.first.ofSequence p.rhs ∧ lookahead ∈ g.follow.get p.lhs

instance (g : Grammar) (p : Production) (lookahead : Symbol) :
    Decidable (g.AsksTwice p lookahead) :=
  inferInstanceAs (Decidable (_ ∧ _ ∧ _))

/-- How often a production that predicts a lookahead asks for its cell. -/
def timesAsked (g : Grammar) (p : Production) (lookahead : Symbol) : Nat :=
  if g.AsksTwice p lookahead then 2 else 1

/-- A production asks for the cells of the lookaheads that it predicts, and for no others. -/
theorem count_lookaheads (member : p ∈ g.rules) :
    (g.lookaheads g.first g.follow p).count lookahead =
      if lookahead ∈ g.predictSet p then g.timesAsked p lookahead else 0 := by
  have beginnings := Finite.without_nodup (ofSequence_nodup g.first_get_nodup p.rhs) [epsilon]
  have followers := (follow_family.get (g.lhs_declared p member)).1
  by_cases vanishes : epsilon ∈ g.first.ofSequence p.rhs
  · simp only [lookaheads, vanishes, if_true, List.count_append,
      SymbolOrder.count_arrange beginnings, SymbolOrder.count_arrange followers, predictSet,
      timesAsked, AsksTwice, true_and, List.mem_append]
    by_cases begins : lookahead ∈ Finite.without (g.first.ofSequence p.rhs) [epsilon] <;>
      by_cases follows : lookahead ∈ g.follow.get p.lhs <;> simp [begins, follows]
  · simp only [lookaheads, vanishes, if_false, List.append_nil,
      SymbolOrder.count_arrange beginnings, predictSet, timesAsked, AsksTwice, false_and, and_false]

/-- The requests of one production for a cell. -/
theorem askers_of (first follow : SymbolSets) (p : Production) :
    Table.askers a lookahead
        ((g.lookaheads first follow p).map (fun lookahead => (⟨p.lhs, lookahead, p⟩ : Cell))) =
      if p.lhs = a then List.replicate ((g.lookaheads first follow p).count lookahead) p else [] := by
  induction g.lookaheads first follow p with
  | nil => simp [Table.askers]
  | cons other rest inductionHypothesis =>
    rw [List.map_cons, Table.askers_cons, inductionHypothesis]
    by_cases left : p.lhs = a
    · by_cases same : other = lookahead
      · simp [Table.IsAt, left, same, List.replicate_succ]
      · simp [Table.IsAt, left, same]
    · simp [Table.IsAt, left]

/-- The requests for a cell come from the productions of its nonterminal that predict its
lookahead, in order. -/
theorem askers_requests : Table.askers a lookahead (g.requests g.first g.follow) =
    (g.predictors a lookahead).flatMap (fun p => List.replicate (g.timesAsked p lookahead) p) := by
  have blocks : ∀ productions : List Production, (∀ p ∈ productions, p ∈ g.rules) →
      Table.askers a lookahead (productions.flatMap (fun p =>
          (g.lookaheads g.first g.follow p).map (fun lookahead => ⟨p.lhs, lookahead, p⟩))) =
        (((productions.filter (fun p => p.lhs = a)).filter (lookahead ∈ g.predictSet ·)).flatMap
          (fun p => List.replicate (g.timesAsked p lookahead) p)) := by
    intro productions stored
    induction productions with
    | nil => rfl
    | cons p rest inductionHypothesis =>
      obtain ⟨member, others⟩ := List.forall_mem_cons.mp stored
      rw [List.flatMap_cons, Table.askers_append, askers_of, count_lookaheads member,
        inductionHypothesis others]
      by_cases left : p.lhs = a
      · by_cases predicts : lookahead ∈ g.predictSet p <;> simp [left, predicts]
      · simp [left]
  have own : g.allProductions.filter (fun p => p.lhs = a) = g.productionsOf a := by
    by_cases declared : a ∈ g.nonterminals
    · exact g.filter_flatMap_productionsOf g.nonterminals_set.nodup declared
    · have none : ∀ p ∈ g.rules, ¬ p.lhs = a := fun p member same =>
        declared (same ▸ g.lhs_declared p member)
      have first : g.allProductions.filter (fun p => p.lhs = a) = [] := by
        simpa [List.filter_eq_nil_iff, mem_allProductions] using none
      have second : g.productionsOf a = [] := by
        simpa [productionsOf, List.filter_eq_nil_iff] using none
      rw [first, second]
  rw [requests, blocks g.allProductions (fun _ => mem_allProductions.mp), own, predictors]

theorem predictors_nodup (g : Grammar) (a lookahead : Symbol) : (g.predictors a lookahead).Nodup :=
  (g.rules_nodup.filter _).filter _

theorem overlapsAt_nodup (g : Grammar) (a lookahead : Symbol) : (g.overlapsAt a lookahead).Nodup := by
  have unique := g.predictors_nodup a lookahead
  unfold overlapsAt
  split
  · exact List.nodup_nil
  · rename_i first others listed
    rw [listed, List.nodup_cons] at unique
    refine List.pairwise_map.mpr (unique.2.imp ?_)
    intro p q different same
    exact different (Conflict.mk.inj same).2.2.2

/-- An overlap at a cell is one of two predictors there. -/
theorem of_mem_overlapsAt {c : Conflict} (member : c ∈ g.overlapsAt a lookahead) :
    Conflict.IsAt a lookahead c ∧ c.existing ∈ g.predictors a lookahead := by
  unfold overlapsAt at member
  split at member
  · cases member
  · rename_i first others listed
    obtain ⟨p, _, rfl⟩ := List.mem_map.mp member
    exact ⟨⟨rfl, rfl⟩, listed ▸ List.mem_cons_self⟩

/-- Every overlap is one of its own cell. -/
theorem mem_overlaps {c : Conflict} :
    c ∈ g.overlaps ↔ c ∈ g.overlapsAt c.nonterminal c.lookahead := by
  simp only [overlaps, List.mem_flatMap]
  constructor
  · rintro ⟨a, _, lookahead, _, member⟩
    obtain ⟨⟨rfl, rfl⟩, _⟩ := of_mem_overlapsAt member
    exact member
  · intro member
    obtain ⟨own, predicts⟩ := List.mem_filter.mp (of_mem_overlapsAt member).2
    obtain ⟨stored, left⟩ := mem_productionsOf.mp own
    have predicts := (mem_predictSet_iff stored).mp (of_decide_eq_true predicts)
    have declared : c.nonterminal ∈ g.nonterminals := left ▸ g.lhs_declared _ stored
    refine ⟨c.nonterminal, declared, c.lookahead, ?_, member⟩
    rcases predicts.isLookahead with terminal | mark
    · exact List.mem_append_left _ terminal
    · simp [mark]

theorem overlaps_nodup (g : Grammar) : g.overlaps.Nodup := by
  have lookaheads : (g.terminals ++ [endMarker]).Nodup := by
    refine List.nodup_append.mpr ⟨g.terminals_set.nodup, by simp, ?_⟩
    rintro t terminal _ single rfl
    exact endMarker_not_terminal (List.mem_singleton.mp single ▸ terminal)
  rw [overlaps, List.nodup_iff_pairwise_ne, List.pairwise_flatMap]
  constructor
  · intro a _
    rw [List.pairwise_flatMap]
    refine ⟨fun lookahead _ => g.overlapsAt_nodup a lookahead, lookaheads.imp ?_⟩
    rintro first second different c inFirst _ inSecond rfl
    exact different ((of_mem_overlapsAt inFirst).1.2.symm.trans (of_mem_overlapsAt inSecond).1.2)
  · refine g.nonterminals_set.nodup.imp ?_
    rintro first second different c inFirst _ inSecond rfl
    obtain ⟨_, _, inFirst⟩ := List.mem_flatMap.mp inFirst
    obtain ⟨_, _, inSecond⟩ := List.mem_flatMap.mp inSecond
    exact different ((of_mem_overlapsAt inFirst).1.1.symm.trans (of_mem_overlapsAt inSecond).1.1)

/-- An overlap as often as its second production asks for the cell. -/
def repeated (g : Grammar) (c : Conflict) : List Conflict :=
  List.replicate (g.timesAsked c.incoming c.lookahead) c

/-- What a table records of a cell are the overlaps there, each as often as it is asked
for. -/
theorem table_conflictsAt (g : Grammar) (a lookahead : Symbol) :
    g.table.conflictsAt a lookahead = (g.overlapsAt a lookahead).flatMap g.repeated := by
  have unique := g.predictors_nodup a lookahead
  have fresh : Table.conflictsAt {} a lookahead = [] := rfl
  have empty : Table.get? {} a lookahead = none := rfl
  rw [table, tableOf, Table.conflictsAt_foldl_put, fresh, empty, Option.none_or, List.nil_append,
    askers_requests, overlapsAt]
  cases listed : g.predictors a lookahead with
  | nil => rfl
  | cons first others =>
    rw [listed, List.nodup_cons] at unique
    have head : (List.flatMap (fun p => List.replicate (g.timesAsked p lookahead) p)
        (first :: others)).head? = some first := by
      rw [List.flatMap_cons, timesAsked]
      split <;> rfl
    -- The requests of the first production are not refused, and all others are.
    have granted : Table.refusals a lookahead (some first)
        (List.replicate (g.timesAsked first lookahead) first) = [] := by
      simp [Table.refusals]
    have refused : (others.flatMap (fun p => List.replicate (g.timesAsked p lookahead) p)).filter
        (· ≠ first) = others.flatMap (fun p => List.replicate (g.timesAsked p lookahead) p) := by
      rw [List.filter_eq_self]
      intro q inside
      obtain ⟨p, member, inside⟩ := List.mem_flatMap.mp inside
      obtain ⟨_, rfl⟩ := List.mem_replicate.mp inside
      exact decide_eq_true (fun same => unique.1 (same ▸ member))
    rw [head, List.flatMap_cons, Table.refusals_append, granted, List.nil_append, Table.refusals,
      refused, List.map_flatMap, List.flatMap_map]
    simp only [List.map_replicate, repeated]

/-- Each of several distinct overlaps is counted as often as it is asked for. -/
theorem count_repeated {c : Conflict} {cs : List Conflict} (unique : cs.Nodup) :
    (cs.flatMap g.repeated).count c =
      if c ∈ cs then g.timesAsked c.incoming c.lookahead else 0 := by
  induction cs with
  | nil => rfl
  | cons d rest inductionHypothesis =>
    obtain ⟨absent, others⟩ := List.nodup_cons.mp unique
    rw [List.flatMap_cons, List.count_append, inductionHypothesis others, repeated,
      List.count_replicate]
    by_cases same : d = c
    · subst same
      simp [absent]
    · have differs : c ≠ d := fun equal => same equal.symm
      simp [same, differs]

theorem length_repeated (cs : List Conflict) : (cs.flatMap g.repeated).length =
    cs.length + (cs.filter (fun c => g.AsksTwice c.incoming c.lookahead)).length := by
  induction cs with
  | nil => rfl
  | cons c rest inductionHypothesis =>
    rw [List.flatMap_cons, List.length_append, inductionHypothesis, repeated, timesAsked]
    by_cases twice : g.AsksTwice c.incoming c.lookahead <;> simp [twice] <;> omega

/-- A table records the overlaps of its grammar, each as often as it is asked for. -/
theorem conflicts_perm (g : Grammar) : g.table.conflicts.Perm (g.overlaps.flatMap g.repeated) := by
  rw [List.perm_iff_count]
  intro c
  have own : (Conflict.IsAt c.nonterminal c.lookahead c : Bool) = true := by simp [Conflict.IsAt]
  have counted : (g.table.conflictsAt c.nonterminal c.lookahead).count c =
      g.table.conflicts.count c := List.count_filter own
  rw [← counted, table_conflictsAt, count_repeated (g.overlapsAt_nodup _ _),
    count_repeated g.overlaps_nodup]
  simp only [mem_overlaps]

/-- A table records the overlaps of its grammar and nothing else. At each cell it records
them in order, and an overlap twice if its second production asks for the cell twice; so
there are as many conflicts as overlaps, and one more for each of these. Every cell has
just its overlaps exactly when no production asks twice for a cell that another one has. -/
theorem conflicts_are_overlaps_as_often_as_asked (g : Grammar) :
    (∀ c, c ∈ g.table.conflicts ↔ c ∈ g.overlapsAt c.nonterminal c.lookahead) ∧
    (∀ a lookahead, g.table.conflictsAt a lookahead = (g.overlapsAt a lookahead).flatMap
      (fun c => List.replicate (if g.AsksTwice c.incoming c.lookahead then 2 else 1) c)) ∧
    g.table.conflicts.length = g.overlaps.length +
      (g.overlaps.filter (fun c => g.AsksTwice c.incoming c.lookahead)).length ∧
    ((∀ a lookahead, (g.table.conflictsAt a lookahead).Perm (g.overlapsAt a lookahead)) ↔
      ∀ c ∈ g.overlaps, ¬ g.AsksTwice c.incoming c.lookahead) := by
  refine ⟨?_, g.table_conflictsAt, ?_, ?_, ?_⟩
  · intro c
    rw [g.conflicts_perm.mem_iff, ← mem_overlaps, List.mem_flatMap]
    constructor
    · rintro ⟨d, member, inside⟩
      exact (List.mem_replicate.mp inside).2 ▸ member
    · intro member
      refine ⟨c, member, List.mem_replicate.mpr ⟨?_, rfl⟩⟩
      unfold timesAsked
      split <;> simp
  · rw [g.conflicts_perm.length_eq, length_repeated]
  · intro same c member twice
    have inCell := mem_overlaps.mp member
    have counted := (same c.nonterminal c.lookahead).count_eq c
    rw [table_conflictsAt, count_repeated (g.overlapsAt_nodup _ _), if_pos inCell, timesAsked,
      if_pos twice, (g.overlapsAt_nodup _ _).count, if_pos inCell] at counted
    cases counted
  · intro once a lookahead
    have each : ∀ c ∈ g.overlapsAt a lookahead, g.repeated c = [c] := by
      intro c member
      obtain ⟨⟨rfl, rfl⟩, _⟩ := of_mem_overlapsAt member
      rw [repeated, timesAsked, if_neg (once c (mem_overlaps.mpr member)), List.replicate_one]
    rw [table_conflictsAt, List.flatMap_def, List.map_congr_left each, ← List.flatMap_def,
      List.flatMap_singleton']

/-- Piles of `x`: one `x`, two piles, or nothing. -/
def piles : Grammar where
  terminals := ["x"]
  nonterminals := ["S"]
  start := "S"
  rules := [⟨"S", ["x"]⟩, ⟨"S", ["S", "S"]⟩, ⟨"S", [epsilon]⟩]
  terminals_set := ⟨by decide, by decide⟩
  nonterminals_set := ⟨by decide, by decide⟩
  terminals_ne_nil := by decide
  disjoint := by decide
  terminal_not_reserved := by decide
  nonterminal_not_reserved := by decide
  start_declared := by decide
  rules_nodup := by decide
  lhs_declared := by decide
  rhs_ne_nil := by decide
  rhs_declared := by decide
  has_rule := by decide

/-- All productions of piles predict `x`. The second one does so in two ways, since two
piles can begin with `x` and can vanish in front of it; so one of the two overlaps at `x`
is recorded twice, and four conflicts are reported for three overlaps. -/
theorem piles_record_an_overlap_twice :
    piles.predictors "S" "x" = [⟨"S", ["x"]⟩, ⟨"S", ["S", "S"]⟩, ⟨"S", [epsilon]⟩] ∧
    piles.table.conflictsAt "S" "x" =
      [⟨"S", "x", ⟨"S", ["x"]⟩, ⟨"S", ["S", "S"]⟩⟩, ⟨"S", "x", ⟨"S", ["x"]⟩, ⟨"S", ["S", "S"]⟩⟩,
        ⟨"S", "x", ⟨"S", ["x"]⟩, ⟨"S", [epsilon]⟩⟩] ∧
    ¬ (piles.table.conflictsAt "S" "x").Perm (piles.overlapsAt "S" "x") ∧
    piles.table.conflicts.length = 4 ∧ piles.overlaps.length = 3 := by
  decide +kernel

end Grammar

end Predictive
