import Mathlib.Data.List.Basic
import Mathlib.Data.List.Nodup
import Predictive.Proofs.Expectations
import Predictive.Proofs.SymbolRanks

/-!
# Three views of a table

The cells of a table are looked up one by one, filtered by nonterminal into the lookaheads
that are expected of it, and listed in rows. No two cells share a nonterminal and a
lookahead, so the three say the same: the rows list every cell once, with what the lookup
finds there, and a nonterminal has a row exactly when something is expected of it, namely
the lookaheads of the row.

Rows and the lookaheads of a row follow the order of symbols. A parser lists what it expects
in place of a nonterminal in that order too, and when it gives up at the end of the input, the
end is not among it. So the message shows the row.
-/

namespace Predictive

namespace Table

variable {t : Table} {order : SymbolOrder} {a lookahead : Symbol} {p : Production} {cell : Cell}

/-- What the rows of a table list, cell by cell. -/
def entries (t : Table) (order : SymbolOrder) : List Cell :=
  (t.rows order).flatMap (fun row => row.2.map (fun entry => ⟨row.1, entry.1, entry.2⟩))

/-- The row of a nonterminal among all rows; without one there is nothing in it. -/
def shownRow (t : Table) (order : SymbolOrder) (a : Symbol) : List (Symbol × Production) :=
  ((t.rows order).lookup a).getD []

/-- Cells differ in their nonterminal or in their lookahead. -/
theorem OneEach.eq_of_isAt (each : t.OneEach) {first second : Cell} (inFirst : first ∈ t.cells)
    (inSecond : second ∈ t.cells) (here : IsAt second.nonterminal second.lookahead first) :
    first = second := by
  have keys : (t.cells.map (fun cell => (cell.nonterminal, cell.lookahead))).Nodup := by
    rw [List.nodup_iff_pairwise_ne, List.pairwise_map]
    refine List.Pairwise.imp ?_ each
    rintro earlier later apart same
    exact apart (Prod.mk.inj same)
  exact List.inj_on_of_nodup_map keys inFirst inSecond (Prod.ext here.1 here.2)

/-- The lookup finds exactly the cells of the table. -/
theorem OneEach.get?_eq_some_iff (each : t.OneEach) :
    t.get? a lookahead = some p ↔ ⟨a, lookahead, p⟩ ∈ t.cells := by
  rw [get?, Option.map_eq_some_iff]
  constructor
  · rintro ⟨cell, found, rfl⟩
    have here : IsAt a lookahead cell := by simpa [IsAt] using List.find?_some found
    obtain ⟨rfl, rfl⟩ := here
    exact List.mem_of_find?_eq_some found
  · intro member
    have filled : (t.cells.find?
        (fun cell => cell.nonterminal = a ∧ cell.lookahead = lookahead)).isSome := by
      rw [List.find?_isSome]
      exact ⟨_, member, by simp⟩
    obtain ⟨cell, found⟩ := Option.isSome_iff_exists.mp filled
    have here : IsAt a lookahead cell := by simpa [IsAt] using List.find?_some found
    have same := each.eq_of_isAt (List.mem_of_find?_eq_some found) member here
    exact ⟨cell, found, by rw [same]⟩

theorem OneEach.cells_nodup (each : t.OneEach) : t.cells.Nodup := by
  rw [List.nodup_iff_pairwise_ne]
  refine List.Pairwise.imp ?_ each
  rintro earlier later apart rfl
  exact apart ⟨rfl, rfl⟩

/-- A row goes through the expected lookaheads in the order of symbols. -/
theorem row_lookaheads (t : Table) (order : SymbolOrder) (a : Symbol) :
    (t.row order a).map Prod.fst = order.arrange (t.expected a) := by
  have filled : ∀ x ∈ order.arrange (t.expected a),
      ((t.get? a x).map (x, ·)).map Prod.fst = some x := by
    intro x listed
    have expected := mem_expected_iff.mp (SymbolOrder.mem_arrange.mp listed)
    obtain ⟨p, found⟩ := Option.isSome_iff_exists.mp expected
    rw [found]
    rfl
  rw [row, List.map_filterMap, List.filterMap_congr filled, List.filterMap_some]

theorem mem_row : (lookahead, p) ∈ t.row order a ↔ t.get? a lookahead = some p := by
  simp only [row, List.mem_filterMap, SymbolOrder.mem_arrange, mem_expected_iff,
    Option.map_eq_some_iff, Prod.mk.injEq]
  constructor
  · rintro ⟨_, _, _, found, rfl, rfl⟩
    exact found
  · intro found
    exact ⟨lookahead, by rw [found]; rfl, p, found, rfl, rfl⟩

/-- The nonterminals that have a cell. -/
def leftSides (t : Table) : List Symbol := Finite.distinct (t.cells.map Cell.nonterminal)

theorem leftSides_nodup (t : Table) : t.leftSides.Nodup := Finite.distinct_nodup _

/-- The names of the rows. -/
theorem rows_names (t : Table) (order : SymbolOrder) :
    (t.rows order).map Prod.fst = order.arrange t.leftSides := by
  simp [rows, leftSides, Function.comp_def]

theorem mem_leftSides : a ∈ t.leftSides ↔ t.expected a ≠ [] := by
  rw [leftSides, Finite.mem_distinct, expected, Ne, List.map_eq_nil_iff, List.filter_eq_nil_iff]
  simp

/-- A nonterminal of which nothing is expected has no row. -/
theorem mem_rows_names : a ∈ (t.rows order).map Prod.fst ↔ t.expected a ≠ [] := by
  rw [rows_names, SymbolOrder.mem_arrange, mem_leftSides]

theorem mem_rows {row : Symbol × List (Symbol × Production)} (member : row ∈ t.rows order) :
    row.2 = t.row order row.1 := by
  obtain ⟨a, _, rfl⟩ := List.mem_map.mp member
  rfl

/-- The row of a nonterminal is found among all rows, and it is empty if there is none. -/
theorem shownRow_eq (t : Table) (order : SymbolOrder) (a : Symbol) :
    t.shownRow order a = t.row order a := by
  by_cases listed : a ∈ order.arrange t.leftSides
  · have found : (t.rows order).lookup a = some (t.row order a) :=
      List.lookup_graph (t.row order) listed
    rw [shownRow, found, Option.getD_some]
  · have nothing : t.expected a = [] := by
      rw [SymbolOrder.mem_arrange, mem_leftSides] at listed
      exact not_not.mp listed
    have missing : (t.rows order).lookup a = none := by
      rw [List.lookup_eq_none_iff]
      intro row member
      refine bne_iff_ne.mpr ?_
      rintro rfl
      exact mem_rows_names.mp (List.mem_map_of_mem member) nothing
    rw [shownRow, missing, Option.getD_none, row, nothing]
    rfl

theorem mem_entries : cell ∈ t.entries order ↔
    t.get? cell.nonterminal cell.lookahead = some cell.production := by
  simp only [entries, List.mem_flatMap, List.mem_map]
  constructor
  · rintro ⟨row, member, entry, inside, rfl⟩
    rw [mem_rows member] at inside
    exact mem_row.mp inside
  · intro found
    have expected : t.expected cell.nonterminal ≠ [] :=
      List.ne_nil_of_mem (mem_expected_iff.mpr (by rw [found]; rfl))
    have named : cell.nonterminal ∈ (t.rows order).map Prod.fst := mem_rows_names.mpr expected
    obtain ⟨row, member, same⟩ := List.mem_map.mp named
    refine ⟨row, member, (cell.lookahead, cell.production), ?_, ?_⟩
    · rw [mem_rows member, same]
      exact mem_row.mpr found
    · rw [same]

/-- No entry is listed twice: the names of rows differ, and so do the lookaheads in a row. -/
theorem OneEach.entries_nodup (each : t.OneEach) (order : SymbolOrder) :
    (t.entries order).Nodup := by
  have names : ((t.rows order).map Prod.fst).Nodup := by
    rw [rows_names]
    exact SymbolOrder.arrange_nodup t.leftSides_nodup
  rw [entries, List.nodup_iff_pairwise_ne, List.pairwise_flatMap]
  constructor
  · intro row member
    have lookaheads : (row.2.map Prod.fst).Nodup := by
      rw [mem_rows member, row_lookaheads]
      exact SymbolOrder.arrange_nodup (each.expected_nodup row.1)
    rw [List.pairwise_map]
    refine (List.pairwise_map.mp lookaheads).imp ?_
    intro first second different same
    exact different (Cell.mk.inj same).2.1
  · refine (List.pairwise_map.mp names).imp ?_
    rintro first second different _ inFirst _ inSecond rfl
    obtain ⟨_, _, left⟩ := List.mem_map.mp inFirst
    obtain ⟨_, _, right⟩ := List.mem_map.mp inSecond
    exact different ((Cell.mk.inj left).1.trans (Cell.mk.inj right).1.symm)

/-- The rows list the cells of a table: each once and with what the lookup finds there, the
rows and the lookaheads of each row by increasing rank. -/
structure ListsCells (t : Table) (order : SymbolOrder) : Prop where
  perm : (t.entries order).Perm t.cells
  count_eq : ∀ cell, (t.entries order).count cell =
    if t.get? cell.nonterminal cell.lookahead = some cell.production then 1 else 0
  rows_increase : ((t.rows order).map Prod.fst).Pairwise (fun a b => order.rank a < order.rank b)
  lookaheads_increase : ∀ row ∈ t.rows order,
    (row.2.map Prod.fst).Pairwise (fun a b => order.rank a < order.rank b)

/-- What is expected of a nonterminal are the lookaheads under which it has a cell, and the
lookaheads of its row. -/
structure ExpectsRow (t : Table) (order : SymbolOrder) (a : Symbol) : Prop where
  filled_iff : ∀ x, x ∈ t.expected a ↔ (t.get? a x).isSome = true
  shown_iff : ∀ x, x ∈ t.expected a ↔ x ∈ (t.shownRow order a).map Prod.fst
  empty_iff : t.expected a = [] ↔ a ∉ (t.rows order).map Prod.fst

theorem expectsRow (t : Table) (order : SymbolOrder) (a : Symbol) : t.ExpectsRow order a where
  filled_iff := fun _ => mem_expected_iff
  shown_iff := by
    intro x
    rw [shownRow_eq, row_lookaheads, SymbolOrder.mem_arrange]
  empty_iff := by rw [mem_rows_names, not_not]

end Table

namespace Grammar

variable {g : Grammar} {a lookahead : Symbol}

/-- Cells belong to nonterminals. -/
theorem leftSides_table (g : Grammar) : ∀ a ∈ g.table.leftSides, a ∈ g.nonterminals := by
  intro a filled
  obtain ⟨lookahead, expected⟩ := List.exists_mem_of_ne_nil _ (Table.mem_leftSides.mp filled)
  obtain ⟨p, own, _⟩ := table_get?_isSome.mp (Table.mem_expected_iff.mp expected)
  obtain ⟨stored, rfl⟩ := mem_productionsOf.mp own
  exact g.lhs_declared p stored

/-- What is expected is a terminal or the end marker. -/
theorem expected_table (g : Grammar) (a : Symbol) : ∀ x ∈ g.table.expected a, g.IsLookahead x := by
  intro x expected
  obtain ⟨p, own, predicted⟩ := table_get?_isSome.mp (Table.mem_expected_iff.mp expected)
  exact ((mem_predictSet_iff (mem_productionsOf.mp own).1).mp predicted).isLookahead

theorem table_listsCells (g : Grammar) : g.table.ListsCells g.symbols where
  perm := by
    refine (List.perm_ext_iff_of_nodup (g.table_oneEach.entries_nodup g.symbols)
      g.table_oneEach.cells_nodup).mpr ?_
    intro cell
    rw [Table.mem_entries, g.table_oneEach.get?_eq_some_iff]
  count_eq := by
    intro cell
    rw [(g.table_oneEach.entries_nodup g.symbols).count]
    simp only [Table.mem_entries]
  rows_increase := by
    rw [Table.rows_names]
    refine SymbolOrder.arrange_increasing g.symbols_nodup g.table.leftSides_nodup ?_
    intro a filled
    exact mem_symbols_names.mpr (Or.inr (Or.inr (Or.inl (g.leftSides_table a filled))))
  lookaheads_increase := by
    intro row member
    rw [Table.mem_rows member, Table.row_lookaheads]
    refine SymbolOrder.arrange_increasing g.symbols_nodup (g.table_oneEach.expected_nodup row.1) ?_
    intro x expected
    rcases g.expected_table row.1 x expected with terminal | mark
    · exact mem_symbols_names.mpr (Or.inl terminal)
    · exact mem_symbols_names.mpr (Or.inr (Or.inl mark))

/-- The rows come by name. -/
theorem rows_by_name (g : Grammar) : (g.table.rows g.symbols).map Prod.fst =
    g.nonterminals.filter (fun a => g.table.expected a ≠ []) := by
  rw [Table.rows_names, arrange_nonterminals g.table.leftSides_nodup g.leftSides_table]
  simp only [Table.mem_leftSides]

/-- The lookaheads of a row come by name, the end marker last. -/
theorem shownRow_by_name (g : Grammar) (a : Symbol) :
    (g.table.shownRow g.symbols a).map Prod.fst =
      g.terminals.filter (fun x => (g.table.get? a x).isSome) ++
        if (g.table.get? a endMarker).isSome then [endMarker] else [] := by
  rw [Table.shownRow_eq, Table.row_lookaheads,
    arrange_lookaheads (g.table_oneEach.expected_nodup a) (g.expected_table a)]
  simp only [Table.mem_expected_iff, Bool.decide_eq_true]

end Grammar

namespace Parser

section Misses

variable {σ ε : Type} [TokenSource σ ε] {p : Parser} {e : ParseError} {outcome : Outcome σ ε}
  {a : Symbol}

/-- The parser gives up like this, with a stack on top of which no nonterminal has a cell for
what was found. -/
def Refuses (p : Parser) (e : ParseError) : Prop :=
  ∃ stack, e = p.rejection e.found stack ∧
    ∀ x ∈ stack.head?, x ∉ p.grammar.terminals → p.cell? x (p.lookahead e.found) = none

theorem refuses_of_reject {r : Run σ}
    (stuck : ∀ x ∈ r.stack.head?, x ∉ p.grammar.terminals → p.cell? x (p.lookahead r.look) = none)
    (rejected : (p.reject r : Outcome σ ε).ending = .rejected e) : p.Refuses e := by
  unfold reject at rejected
  split at rejected
  · obtain rfl := Ending.rejected.inj rejected
    refine ⟨r.stack, ?_, ?_⟩
    · rw [rejection_found]
    · rw [rejection_found]
      exact stuck
  · cases rejected

/-- Taking a token does not reject. -/
theorem ending_shift {r : Run σ} {rest : List Symbol} (stopped : shift r rest = .inr outcome) :
    outcome.ending ≠ .rejected e := by
  unfold shift at stopped
  split at stopped
  · obtain rfl := Sum.inr.inj stopped
    exact nofun
  · split at stopped
    · obtain rfl := Sum.inr.inj stopped
      exact nofun
    · cases stopped

/-- A round that rejects has met a terminal or the bottom of the stack, or a nonterminal
without a cell. -/
theorem refuses_of_round {r : Run σ} (stopped : p.round r = .inr outcome)
    (rejected : outcome.ending = .rejected e) : p.Refuses e := by
  unfold round at stopped
  generalize p.settle r = settled at stopped
  simp only at stopped
  split at stopped
  · rename_i bottom
    split at stopped
    · obtain rfl := Sum.inr.inj stopped
      cases rejected
    · obtain rfl := Sum.inr.inj stopped
      exact refuses_of_reject (by simp [bottom]) rejected
  · rename_i x rest top
    split at stopped
    · rename_i terminal
      have terminal : x ∈ p.grammar.terminals := of_decide_eq_true terminal
      split at stopped
      · exact absurd rejected (ending_shift stopped)
      · obtain rfl := Sum.inr.inj stopped
        exact refuses_of_reject (by simp [top, terminal]) rejected
    · split at stopped
      · obtain rfl := Sum.inr.inj stopped
        cases rejected
      · rename_i empty
        have empty : p.cell? x (p.lookahead settled.look) = none := by simpa using empty
        obtain rfl := Sum.inr.inj stopped
        exact refuses_of_reject (by simp [top, empty]) rejected

/-- So a whole run rejects like this, on any source. -/
theorem refuses_of_drive {fuel : Nat} {r : Run σ}
    (rejected : (p.drive fuel r : Outcome σ ε).ending = .rejected e) : p.Refuses e := by
  induction fuel generalizing r with
  | zero => cases rejected
  | succ fuel inductionHypothesis =>
    unfold drive at rejected
    split at rejected
    · exact inductionHypothesis rejected
    · rename_i stopped
      exact refuses_of_round stopped rejected

theorem refuses_of_run {source : σ}
    (rejected : (p.run source : Outcome σ ε).ending = .rejected e) : p.Refuses e := by
  unfold run at rejected
  split at rejected
  · cases rejected
  · exact refuses_of_drive rejected

/-- A rejection that names a nonterminal wants what is expected of it, in the order of symbols,
and the nonterminal has no cell for what was found. -/
theorem Refuses.miss (refuses : p.Refuses e) (named : e.nonterminal = some a) :
    p.cell? a (p.lookahead e.found) = none ∧
    e.reason = (if e.found.isNone then Reason.inputEnded else Reason.noRule)
      { names := p.table.expected a
        nonterminal := some a
        order := some (p.grammar.symbols.arrange (p.table.expected a)) } := by
  obtain ⟨stack, same, stuck⟩ := refuses
  rw [same] at named
  obtain ⟨rest, rfl, _⟩ := rejection_nonterminal named
  have nonterminal : ¬ p.grammar.isTerminal a := by
    intro terminal
    rw [rejection, if_pos terminal] at named
    cases named
  have empty := stuck a rfl (fun terminal => nonterminal (decide_eq_true terminal))
  refine ⟨empty, ?_⟩
  have reason := congrArg ParseError.reason same
  rwa [rejection, if_neg nonterminal] at reason

/-- The names that are listed are those of the row, and the message shows all of them: the end
of the input is left out of it only where the input has ended, and there it is not expected. -/
theorem Refuses.shows_row (refuses : p.Refuses e) (named : e.nonterminal = some a) :
    e.listed = (p.table.shownRow p.grammar.symbols a).map Prod.fst ∧
    ∃ opening, e.headline = opening ++ ", expected one of " ++
      setShown ((p.table.shownRow p.grammar.symbols a).map Prod.fst) := by
  obtain ⟨empty, reason⟩ := refuses.miss named
  rw [Table.shownRow_eq, Table.row_lookaheads]
  cases found : e.found with
  | some t =>
    rw [found] at reason
    refine ⟨by rw [ParseError.listed, reason]; rfl, ?_⟩
    refine ⟨"Parse error" ++ placeShown e.found ++ ": no rule of " ++ a ++ " starts with " ++
      tokenShown e.found, ?_⟩
    rw [ParseError.headline, reason]
    rfl
  | none =>
    rw [found] at reason empty
    have absent : endMarker ∉ p.table.expected a := by
      intro expected
      have filled := Table.mem_expected_iff.mp expected
      have empty : p.table.get? a endMarker = none := empty
      simp [empty] at filled
    have all : (p.grammar.symbols.arrange (p.table.expected a)).filter (· ≠ endMarker) =
        p.grammar.symbols.arrange (p.table.expected a) := by
      rw [List.filter_eq_self]
      intro x listed
      refine decide_eq_true ?_
      rintro rfl
      exact absent (SymbolOrder.mem_arrange.mp listed)
    refine ⟨by rw [ParseError.listed, reason]; rfl, ?_⟩
    refine ⟨"Parse error: unexpected end of input while expanding " ++ a, ?_⟩
    rw [ParseError.headline, reason]
    change _ ++ setShown
      ((p.grammar.symbols.arrange (p.table.expected a)).filter (· ≠ endMarker)) = _
    rw [all]
    rfl

end Misses

/-- The three views of a table agree, whether or not it has conflicts. Its rows list every cell
once, with what the lookup finds there, by increasing rank; what is expected of a name are the
lookaheads of its row. Nonterminals come by name, and the terminals of a row come by name in
front of the end marker. Every parser of the grammar that gives up at a nonterminal, on whatever
source, lists and shows the row of the nonterminal. And the order of a listing depends on
neither the enumeration of the declared symbols nor that of the names listed. -/
theorem views_of_a_table_agree (g : Grammar) :
    g.table.ListsCells g.symbols ∧
    (∀ a, g.table.ExpectsRow g.symbols a) ∧
    ((g.table.rows g.symbols).map Prod.fst =
        g.nonterminals.filter (fun a => g.table.expected a ≠ []) ∧
      g.nonterminals.Pairwise (· < ·)) ∧
    ((∀ a, (g.table.shownRow g.symbols a).map Prod.fst =
        g.terminals.filter (fun x => (g.table.get? a x).isSome) ++
          if (g.table.get? a endMarker).isSome then [endMarker] else []) ∧
      g.terminals.Pairwise (· < ·)) ∧
    (∀ p : Parser, p.grammar = g → ∀ (σ ε : Type) [TokenSource σ ε] (source : σ) (e : ParseError)
      (a : Symbol), (p.run source : Outcome σ ε).ending = .rejected e → e.nonterminal = some a →
        e.listed = (g.table.shownRow g.symbols a).map Prod.fst ∧
        ∃ opening, e.headline = opening ++ ", expected one of " ++
          setShown ((g.table.shownRow g.symbols a).map Prod.fst)) ∧
    ∀ terminals nonterminals set other : List Symbol, terminals.Perm g.terminals →
      nonterminals.Perm g.nonterminals → set.Perm other →
        (SymbolOrder.declared terminals nonterminals).arrange set = g.symbols.arrange other := by
  refine ⟨g.table_listsCells, g.table.expectsRow g.symbols,
    ⟨g.rows_by_name, g.nonterminals_set.increasing⟩,
    ⟨g.shownRow_by_name, g.terminals_set.increasing⟩, ?_, ?_⟩
  · rintro p rfl σ ε _ source e a rejected named
    rw [← p.table_eq]
    exact (refuses_of_run rejected).shows_row named
  · intro terminals nonterminals set other sameTerminals sameNonterminals permuted
    rw [Grammar.declared_eq_symbols sameTerminals sameNonterminals]
    exact SymbolOrder.arrange_eq_of_perm permuted

/-- On `x x` the parser of sums gives up at `T` and shows its row: a plus, and the end. -/
theorem sums_show_row_of_rest :
    ["x", "+"].Perm sums.terminals ∧ ["T", "S"].Perm sums.nonterminals ∧
    (SymbolOrder.declared ["x", "+"] ["T", "S"]).arrange ["$", "+"] =
      sums.symbols.arrange ["+", "$"] ∧
    ∃ e, (sumsParser.runItems (["x", "x"].map Item.name)).ending = .rejected e ∧
      e.nonterminal = some "T" ∧ e.listed = ["+", "$"] ∧
      ∃ opening, e.headline = opening ++ ", expected one of " ++ setShown ["+", "$"] := by
  have terminals : ["x", "+"].Perm sums.terminals := by decide
  have nonterminals : ["T", "S"].Perm sums.nonterminals := by decide
  have row : (sums.table.shownRow sums.symbols "T").map Prod.fst = ["+", "$"] := by
    decide +kernel
  have ending : ∃ e, (sumsParser.runItems (["x", "x"].map Item.name)).ending = .rejected e ∧
      e.nonterminal = some "T" := ⟨_, rfl, rfl⟩
  obtain ⟨e, rejected, named⟩ := ending
  obtain ⟨_, _, _, _, shows, enumerated⟩ := views_of_a_table_agree sums
  obtain ⟨listed, shown⟩ := shows sumsParser rfl ItemStream StreamFault _ e "T" rejected named
  rw [row] at listed shown
  exact ⟨terminals, nonterminals, enumerated _ _ _ _ terminals nonterminals (by decide), e,
    rejected, named, listed, shown⟩

end Parser

end Predictive
