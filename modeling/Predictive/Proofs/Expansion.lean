import Predictive.Parser.Basic
import Predictive.Proofs.Prediction

/-!
# Expansions under one lookahead

While the lookahead stays, the parser replaces nonterminals on top of its stack.
A symbol with a cell either vanishes under the lookahead, together with
everything that it is replaced by, or its replacements bring the lookahead to the
top. Both follow the derivation that called for the cell, because a table without
conflicts has no other production to offer.

A symbol cannot do both, so the depths to which replacements nest have no gaps:
there are no more of them than nonterminals. This bounds the expansions of any
stack, reachable or not, and no sequence of expansions goes on forever.
-/

namespace Predictive.Parser

variable {p : Parser} {a x : Symbol} {look : Option Symbol} {q : Production}

theorem clean (p : Parser) : p.grammar.table.conflicts = [] := p.table_eq ▸ p.conflicts_eq

/-- A grammar whose table has no conflicts is the grammar of a parser. -/
theorem exists_grammar_eq {g : Grammar} (clean : g.table.conflicts = []) :
    ∃ p : Parser, p.grammar = g :=
  ⟨⟨g, g.first, g.follow, g.table, rfl, rfl, rfl, clean⟩, rfl⟩

/-- A cell holds a production exactly when derivations call for it under the
lookahead. -/
theorem cell?_eq_some_iff : p.cell? x look = some q ↔
    ∃ a, look = some a ∧ q ∈ p.grammar.rules ∧ q.lhs = x ∧ p.grammar.Predicts q a := by
  cases look with
  | none => simp [cell?]
  | some a =>
    rw [cell?, Option.bind_some, p.table_eq, Grammar.table_get?_eq_some_iff p.clean]
    simp

theorem cell?_of_predicts (member : q ∈ p.grammar.rules) (predicts : p.grammar.Predicts q a) :
    p.cell? q.lhs (some a) = some q :=
  cell?_eq_some_iff.mpr ⟨a, rfl, member, rfl, predicts⟩

/-- A production whose body begins with the lookahead is in its cell. -/
theorem cell?_of_begins (terminal : a ∈ p.grammar.terminals) (member : q ∈ p.grammar.rules)
    (begins : p.grammar.Begins a q.body) : p.cell? q.lhs (some a) = some q :=
  cell?_of_predicts member (Or.inl (Grammar.canBegin_iff.mpr ⟨terminal, begins⟩))

/-- Only nonterminals have cells. -/
theorem nonterminal_of_cell? (cell : p.cell? x look = some q) : x ∈ p.grammar.nonterminals := by
  obtain ⟨_, _, member, rfl, _⟩ := cell?_eq_some_iff.mp cell
  exact p.grammar.lhs_declared q member

theorem cell?_of_isLookahead (lookahead : p.grammar.IsLookahead x) : p.cell? x look = none := by
  cases cell : p.cell? x look with
  | none => rfl
  | some q =>
    exfalso
    have nonterminal := nonterminal_of_cell? cell
    rcases lookahead with terminal | rfl
    · exact p.grammar.disjoint x terminal nonterminal
    · exact Grammar.endMarker_not_nonterminal nonterminal

/-- The top of a stack is replaced exactly when it has a cell. -/
theorem expandTop?_cons (rest : List Symbol) : p.expandTop? look (x :: rest) =
    (p.cell? x look).map (fun q => (q, q.body ++ rest)) := by
  simp only [expandTop?]
  split
  · rename_i terminal
    have lookahead : p.grammar.IsLookahead x := Or.inl (of_decide_eq_true terminal)
    rw [cell?_of_isLookahead lookahead]
    rfl
  · rfl

theorem expandTop?_of_cell? (cell : p.cell? x look = some q) (rest : List Symbol) :
    p.expandTop? look (x :: rest) = some (q, q.body ++ rest) := by
  rw [expandTop?_cons, cell]
  rfl

theorem expandTop?_eq_none_iff {rest : List Symbol} :
    p.expandTop? look (x :: rest) = none ↔ p.cell? x look = none := by
  rw [expandTop?_cons, Option.map_eq_none_iff]

/-- Expansions one behind the other, with the productions that they apply. -/
inductive Expands (p : Parser) (look : Option Symbol) :
    List Symbol → List Production → List Symbol → Prop where
  | refl (stack : List Symbol) : Expands p look stack [] stack
  | step {stack raised after : List Symbol} {q : Production} {later : List Production}
      (top : p.expandTop? look stack = some (q, raised))
      (rest : Expands p look raised later after) : Expands p look stack (q :: later) after

namespace Expands

theorem trans {stack raised after : List Symbol} {first second : List Production}
    (before : p.Expands look stack first raised) (behind : p.Expands look raised second after) :
    p.Expands look stack (first ++ second) after := by
  induction before with
  | refl _ => exact behind
  | step top _ inductionHypothesis => exact .step top (inductionHypothesis behind)

/-- Expansions are determined, so no others go further than those that end at a
settled stack. -/
theorem length_le {stack settled after : List Symbol} {all some : List Production}
    (full : p.Expands look stack all settled) (stops : p.expandTop? look settled = none)
    (part : p.Expands look stack some after) : some.length ≤ all.length := by
  induction full generalizing some with
  | refl _ =>
    cases part with
    | refl _ => exact Nat.le_refl 0
    | step top _ => simp [stops] at top
  | step top _ inductionHypothesis =>
    cases part with
    | refl _ => exact Nat.zero_le _
    | step other rest =>
      obtain ⟨rfl, rfl⟩ := Prod.mk.inj (Option.some.inj (top.symm.trans other))
      exact Nat.succ_le_succ (inductionHypothesis stops rest)

/-- With enough fuel the parser carries out all expansions. -/
theorem expand_eq {stack settled : List Symbol} {applied : List Production}
    (full : p.Expands look stack applied settled) (stops : p.expandTop? look settled = none)
    {fuel : Nat} (enough : applied.length ≤ fuel) :
    p.expand look fuel stack = (settled, applied) := by
  induction full generalizing fuel with
  | refl stack =>
    cases fuel with
    | zero => rfl
    | succ fuel => simp [expand, stops]
  | step top _ inductionHypothesis =>
    cases fuel with
    | zero => simp at enough
    | succ fuel => simp [expand, top, inductionHypothesis stops (Nat.le_of_succ_le_succ enough)]

end Expands

/-- The symbol is replaced by symbols that all do the same, down to a depth, until
nothing is left. -/
inductive Clears (p : Parser) (a : Symbol) : Nat → Symbol → Prop where
  | into {depth : Nat} {x : Symbol} {q : Production} (cell : p.cell? x (some a) = some q)
      (body : ∀ y ∈ q.body, Clears p a depth y) : Clears p a (depth + 1) x

/-- The symbol is the lookahead, or is replaced, down to a depth, by symbols that
vanish and one behind them that does the same. -/
inductive Reaches (p : Parser) (a : Symbol) : Nat → Symbol → Prop where
  | here (depth : Nat) : Reaches p a depth a
  | into {depth : Nat} {x y : Symbol} {q : Production} {front back : List Symbol}
      (cell : p.cell? x (some a) = some q) (body : q.body = front ++ y :: back)
      (gone : ∀ z ∈ front, Clears p a depth z) (tail : Reaches p a depth y) :
      Reaches p a (depth + 1) x

theorem Clears.succ {depth : Nat} (clears : p.Clears a depth x) : p.Clears a (depth + 1) x := by
  induction clears with
  | into cell _ inductionHypothesis => exact .into cell inductionHypothesis

theorem Clears.mono {depth deeper : Nat} (le : depth ≤ deeper) (clears : p.Clears a depth x) :
    p.Clears a deeper x := by
  induction le with
  | refl => exact clears
  | step _ inductionHypothesis => exact inductionHypothesis.succ

theorem Reaches.succ {depth : Nat} (reaches : p.Reaches a depth x) : p.Reaches a (depth + 1) x := by
  induction reaches with
  | here depth => exact .here (depth + 1)
  | into cell body gone _ inductionHypothesis =>
    exact .into cell body (fun z member => (gone z member).succ) inductionHypothesis

theorem Reaches.mono {depth deeper : Nat} (le : depth ≤ deeper) (reaches : p.Reaches a depth x) :
    p.Reaches a deeper x := by
  induction le with
  | refl => exact reaches
  | step _ inductionHypothesis => exact inductionHypothesis.succ

/-- What vanishes under a lookahead does not bring it to the top. -/
theorem Clears.not_reaches (lookahead : p.grammar.IsLookahead a) {depth other : Nat}
    (clears : p.Clears a depth x) : ¬ p.Reaches a other x := by
  induction clears generalizing other with
  | into cell _ inductionHypothesis =>
    intro reaches
    cases reaches with
    | here => simp [cell?_of_isLookahead lookahead] at cell
    | into otherCell split _ tail =>
      obtain rfl := Option.some.inj (cell.symm.trans otherCell)
      exact inductionHypothesis _ (by simp [split]) tail

/-- A depth for each symbol of a string gives one for all of them. -/
theorem exists_depth {xs : List Symbol} (each : ∀ x ∈ xs, ∃ depth, p.Clears a depth x) :
    ∃ depth, ∀ x ∈ xs, p.Clears a depth x := by
  induction xs with
  | nil => exact ⟨0, by simp⟩
  | cons x rest inductionHypothesis =>
    obtain ⟨⟨first, head⟩, others⟩ := List.forall_mem_cons.mp each
    obtain ⟨second, tail⟩ := inductionHypothesis others
    refine ⟨max first second, List.forall_mem_cons.mpr ⟨head.mono (Nat.le_max_left _ _), ?_⟩⟩
    exact fun y member => (tail y member).mono (Nat.le_max_right _ _)

/-- Symbols that vanish and can have the lookahead behind them vanish under it. -/
theorem clears_of_vanishes {u : List Symbol} (gone : p.grammar.Vanishes u)
    (behind : ∀ x ∈ u, p.grammar.Succeeds x a) : ∀ x ∈ u, ∃ depth, p.Clears a depth x := by
  induction gone with
  | nil => simp
  | @cons q rest member body _ bodyClears tailClears =>
    obtain ⟨head, tail⟩ := List.forall_mem_cons.mp behind
    refine List.forall_mem_cons.mpr ⟨?_, tailClears tail⟩
    have predicts : p.grammar.Predicts q a := Or.inr ⟨Grammar.vanishes_iff.mp body, head⟩
    have inBody : ∀ y ∈ q.body, p.grammar.Succeeds y a := by
      intro y present
      obtain ⟨before, after, split⟩ := List.append_of_mem present
      have others := body
      rw [split, Grammar.vanishes_append, Grammar.vanishes_cons] at others
      exact Grammar.succeeds_of_body member split (Grammar.vanishes_iff.mp others.2.2) head
    obtain ⟨depth, all⟩ := exists_depth (bodyClears inBody)
    exact ⟨depth + 1, .into (cell?_of_predicts member predicts) all⟩

theorem clears_of_vanishes_singleton (gone : p.grammar.Vanishes [x])
    (behind : p.grammar.Succeeds x a) : ∃ depth, p.Clears a depth x := by
  refine clears_of_vanishes gone ?_ x List.mem_cons_self
  intro y member
  exact List.mem_singleton.mp member ▸ behind

/-- So does a symbol of a body that vanishes in front of what begins with the
lookahead. -/
theorem clears_of_begins_behind (terminal : a ∈ p.grammar.terminals)
    (member : q ∈ p.grammar.rules) {before rest : List Symbol} (body : q.body = before ++ x :: rest)
    (gone : p.grammar.Vanishes [x]) (behind : p.grammar.Begins a rest) :
    ∃ depth, p.Clears a depth x := by
  have canBegin : p.grammar.CanBegin rest a := Grammar.canBegin_iff.mpr ⟨terminal, behind⟩
  exact clears_of_vanishes_singleton gone (Or.inl (Grammar.canFollow_of_body member body canBegin))

/-- A symbol of the string brings the lookahead to the top, down to a depth, and
the symbols in front of it vanish under the lookahead. -/
def Leads (p : Parser) (a : Symbol) (depth : Nat) (u : List Symbol) : Prop :=
  ∃ front y back, u = front ++ y :: back ∧ (∀ z ∈ front, p.Clears a depth z) ∧
    p.Reaches a depth y

/-- It is the first symbol, or that one vanishes and it is among the others. -/
theorem leads_cons {depth : Nat} {rest : List Symbol} : p.Leads a depth (x :: rest) ↔
    p.Reaches a depth x ∨ p.Clears a depth x ∧ p.Leads a depth rest := by
  constructor
  · rintro ⟨front, y, back, split, gone, reaches⟩
    cases front with
    | nil =>
      obtain ⟨rfl, _⟩ := List.cons.inj split
      exact Or.inl reaches
    | cons z front =>
      obtain ⟨rfl, behind⟩ := List.cons.inj split
      obtain ⟨clears, others⟩ := List.forall_mem_cons.mp gone
      exact Or.inr ⟨clears, front, y, back, behind, others, reaches⟩
  · rintro (reaches | ⟨clears, front, y, back, rfl, gone, reaches⟩)
    · exact ⟨[], x, rest, rfl, List.forall_mem_nil _, reaches⟩
    · exact ⟨x :: front, y, back, rfl, List.forall_mem_cons.mpr ⟨clears, gone⟩, reaches⟩

theorem Leads.mono {depth deeper : Nat} {u : List Symbol} (le : depth ≤ deeper)
    (leads : p.Leads a depth u) : p.Leads a deeper u := by
  obtain ⟨front, y, back, split, gone, reaches⟩ := leads
  exact ⟨front, y, back, split, fun z member => (gone z member).mono le, reaches.mono le⟩

/-- A nonterminal brings the lookahead to the top through the production in its
cell. -/
theorem reaches_iff_leads (cell : p.cell? x (some a) = some q) {depth : Nat} :
    p.Reaches a depth x ↔ ∃ inner, depth = inner + 1 ∧ p.Leads a inner q.body := by
  constructor
  · intro reaches
    cases reaches with
    | here =>
      obtain ⟨_, same, _, _, predicts⟩ := cell?_eq_some_iff.mp cell
      obtain rfl := Option.some.inj same
      rw [cell?_of_isLookahead predicts.isLookahead] at cell
      cases cell
    | @into inner _ y _ front back otherCell split gone tail =>
      obtain rfl := Option.some.inj (cell.symm.trans otherCell)
      exact ⟨inner, rfl, front, y, back, split, gone, tail⟩
  · rintro ⟨inner, rfl, front, y, back, split, gone, tail⟩
    exact .into cell split gone tail

/-- A string at the end of a body that begins with the lookahead brings it to the
top. -/
theorem leads_of_begins {u : List Symbol} (terminal : a ∈ p.grammar.terminals)
    (begins : p.grammar.Begins a u) {q : Production} (member : q ∈ p.grammar.rules)
    {before : List Symbol} (body : q.body = before ++ u) : ∃ depth, p.Leads a depth u := by
  induction begins generalizing q before with
  | here rest => exact ⟨0, leads_cons.mpr (Or.inl (.here 0))⟩
  | into innerMember innerBegins inductionHypothesis =>
    obtain ⟨depth, leads⟩ := inductionHypothesis innerMember (List.nil_append _).symm
    have cell := cell?_of_begins terminal innerMember innerBegins
    exact ⟨depth + 1, leads_cons.mpr (Or.inl ((reaches_iff_leads cell).mpr ⟨depth, rfl, leads⟩))⟩
  | @past x rest vanishes restBegins inductionHypothesis =>
    have behind : q.body = (before ++ [x]) ++ rest := by simpa using body
    obtain ⟨depth, leads⟩ := inductionHypothesis member behind
    obtain ⟨other, clears⟩ := clears_of_begins_behind terminal member body vanishes restBegins
    exact ⟨max other depth, leads_cons.mpr (Or.inr
      ⟨clears.mono (Nat.le_max_left _ _), leads.mono (Nat.le_max_right _ _)⟩)⟩

/-- A symbol that begins with the lookahead brings it to the top. -/
theorem reaches_of_begins (terminal : a ∈ p.grammar.terminals)
    (begins : p.grammar.Begins a [x]) : ∃ depth, p.Reaches a depth x := by
  rcases Grammar.begins_singleton.mp begins with rfl | ⟨q, member, rfl, inBody⟩
  · exact ⟨0, .here 0⟩
  · obtain ⟨depth, leads⟩ := leads_of_begins terminal inBody member (List.nil_append _).symm
    have cell := cell?_of_begins terminal member inBody
    exact ⟨depth + 1, (reaches_iff_leads cell).mpr ⟨depth, rfl, leads⟩⟩

/-- So it does not vanish under it. -/
theorem Clears.not_begins (terminal : a ∈ p.grammar.terminals) {depth : Nat}
    (clears : p.Clears a depth x) : ¬ p.grammar.Begins a [x] := by
  intro begins
  obtain ⟨_, reaches⟩ := reaches_of_begins terminal begins
  exact clears.not_reaches (Or.inl terminal) reaches

/-- A symbol with a cell does one or the other. -/
theorem clears_or_reaches_of_cell? (cell : p.cell? x (some a) = some q) :
    ∃ depth, p.Clears a depth x ∨ p.Reaches a depth x := by
  obtain ⟨_, same, member, rfl, predicts⟩ := cell?_eq_some_iff.mp cell
  obtain rfl := Option.some.inj same
  rcases predicts with canBegin | ⟨empty, follows⟩
  · obtain ⟨terminal, begins⟩ := Grammar.canBegin_iff.mp canBegin
    obtain ⟨depth, reaches⟩ := reaches_of_begins terminal (.into member begins)
    exact ⟨depth, Or.inr reaches⟩
  · have vanishes : p.grammar.Vanishes [q.lhs] := .cons member (Grammar.vanishes_iff.mpr empty) .nil
    obtain ⟨depth, clears⟩ := clears_of_vanishes_singleton vanishes follows
    exact ⟨depth, Or.inl clears⟩

/-- The nonterminals that do one or the other down to a depth. -/
def Done (p : Parser) (a : Symbol) (depth : Nat) (x : Symbol) : Prop :=
  x ∈ p.grammar.nonterminals ∧ (p.Clears a depth x ∨ p.Reaches a depth x)

/-- A depth that adds no nonterminal is the last one: what vanishes at the next
depth is replaced by what vanishes at this one, and likewise for the other kind. -/
theorem done_of_stopped (lookahead : p.grammar.IsLookahead a) {depth : Nat}
    (stopped : ∀ x, p.Done a (depth + 1) x → p.Done a depth x) :
    ∀ x, p.Done a (depth + 2) x → p.Done a (depth + 1) x := by
  have clears : ∀ y, p.Clears a (depth + 1) y → p.Clears a depth y := by
    intro y deep
    have nonterminal : y ∈ p.grammar.nonterminals := by
      cases deep with
      | into cell _ => exact nonterminal_of_cell? cell
    exact (stopped y ⟨nonterminal, Or.inl deep⟩).2.resolve_right (deep.not_reaches lookahead)
  have reaches : ∀ y, p.Reaches a (depth + 1) y → p.Reaches a depth y := by
    intro y deep
    by_cases nonterminal : y ∈ p.grammar.nonterminals
    · exact (stopped y ⟨nonterminal, Or.inr deep⟩).2.resolve_left
        (fun shallow => shallow.not_reaches lookahead deep)
    · cases deep with
      | here => exact .here depth
      | into cell _ _ _ => exact absurd (nonterminal_of_cell? cell) nonterminal
  rintro x ⟨nonterminal, deep⟩
  refine ⟨nonterminal, ?_⟩
  rcases deep with clear | reach
  · left
    cases clear with
    | into cell body => exact .into cell (fun y member => clears y (body y member))
  · right
    cases reach with
    | here => exact .here _
    | into cell body gone tail =>
      exact .into cell body (fun z member => clears z (gone z member)) (reaches _ tail)

/-- Replacements of a symbol with a cell do not nest deeper than there are
nonterminals. -/
theorem done_of_cell? (cell : p.cell? x (some a) = some q) :
    p.Done a p.grammar.nonterminals.length x := by
  obtain ⟨_, same, _, _, predicts⟩ := cell?_eq_some_iff.mp cell
  obtain rfl := Option.some.inj same
  obtain ⟨depth, either⟩ := clears_or_reaches_of_cell? cell
  have grows : ∀ depth x, p.Done a depth x → p.Done a (depth + 1) x :=
    fun _ _ done => ⟨done.1, done.2.imp Clears.succ Reaches.succ⟩
  exact Finite.stage_length (fun _ _ done => done.1) grows
    (fun _ => done_of_stopped predicts.isLookahead) ⟨nonterminal_of_cell? cell, either⟩

/-- The longest body bounds the bodies. -/
theorem length_body_le {g : Grammar} (member : q ∈ g.rules) : q.body.length ≤ longestBody g := by
  have bound : ∀ (rules : List Production) (start : Nat),
      start ≤ rules.foldl (fun longest production => max longest production.rhs.length) start ∧
      ∀ q ∈ rules, q.rhs.length ≤
        rules.foldl (fun longest production => max longest production.rhs.length) start := by
    intro rules
    induction rules with
    | nil => simp
    | cons first rest inductionHypothesis =>
      intro start
      obtain ⟨below, others⟩ := inductionHypothesis (max start first.rhs.length)
      refine ⟨Nat.le_trans (Nat.le_max_left _ _) below, List.forall_mem_cons.mpr ⟨?_, others⟩⟩
      exact Nat.le_trans (Nat.le_max_right _ _) below
  have shorter : q.body.length ≤ q.rhs.length := by
    unfold Production.body
    split <;> simp
  exact Nat.le_trans shorter ((bound g.rules 0).2 q member)

/-- A bound on the replacements that nest down to a depth below one symbol. -/
def nestingBound (g : Grammar) : Nat → Nat
  | 0 => 1
  | depth + 1 => (longestBody g + 1) * nestingBound g depth

theorem nestingBound_pos (g : Grammar) (depth : Nat) : 1 ≤ nestingBound g depth := by
  induction depth with
  | zero => exact Nat.le_refl 1
  | succ depth inductionHypothesis => exact Nat.mul_pos (Nat.succ_pos _) inductionHypothesis

/-- A symbol and the symbols of a shorter body take no more than the bound of the
next depth. -/
theorem nestingBound_succ {g : Grammar} {count : Nat} (depth : Nat)
    (short : count ≤ longestBody g) :
    1 + count * nestingBound g depth ≤ nestingBound g (depth + 1) := by
  have positive := nestingBound_pos g depth
  have longer : count * nestingBound g depth ≤ longestBody g * nestingBound g depth :=
    Nat.mul_le_mul_right _ short
  have next : nestingBound g (depth + 1) =
      longestBody g * nestingBound g depth + nestingBound g depth := by
    rw [nestingBound, Nat.succ_mul]
  omega

theorem nestingBound_le_pow (g : Grammar) (depth : Nat) :
    nestingBound g depth ≤ Nat.pow (longestBody g + 2) (depth + 1) := by
  induction depth with
  | zero => exact Nat.pow_pos (Nat.succ_pos _)
  | succ depth inductionHypothesis =>
    rw [nestingBound, Nat.mul_comm]
    exact Nat.mul_le_mul inductionHypothesis (Nat.le_succ _)

/-- The symbol is expanded away, whatever lies below it, in a bounded number of
expansions. -/
def Erased (p : Parser) (look : Option Symbol) (bound : Nat) (u : List Symbol) : Prop :=
  ∃ applied : List Production, applied.length ≤ bound ∧
    ∀ rest, p.Expands look (u ++ rest) applied rest

theorem erased_of_each {bound : Nat} {u : List Symbol} (each : ∀ x ∈ u, p.Erased look bound [x]) :
    p.Erased look (u.length * bound) u := by
  induction u with
  | nil => exact ⟨[], by simp, fun rest => .refl rest⟩
  | cons x tail inductionHypothesis =>
    obtain ⟨⟨first, short, head⟩, others⟩ := List.forall_mem_cons.mp each
    obtain ⟨second, shorter, behind⟩ := inductionHypothesis others
    refine ⟨first ++ second, ?_, fun rest => (head (tail ++ rest)).trans (behind rest)⟩
    rw [List.length_append, List.length_cons, Nat.succ_mul]
    omega

theorem Clears.erased {depth : Nat} (clears : p.Clears a depth x) :
    p.Erased (some a) (nestingBound p.grammar depth) [x] := by
  induction clears with
  | @into depth x q cell _ inductionHypothesis =>
    obtain ⟨_, _, member, _, _⟩ := cell?_eq_some_iff.mp cell
    obtain ⟨applied, short, expands⟩ := erased_of_each inductionHypothesis
    refine ⟨q :: applied, ?_, fun rest => .step (expandTop?_of_cell? cell rest) (expands rest)⟩
    have room := nestingBound_succ depth (length_body_le member)
    rw [List.length_cons]
    omega

theorem Reaches.expands {depth : Nat} (reaches : p.Reaches a depth x) :
    ∃ (applied : List Production) (back : List Symbol),
      applied.length ≤ nestingBound p.grammar depth ∧
        ∀ rest, p.Expands (some a) (x :: rest) applied (a :: (back ++ rest)) := by
  induction reaches with
  | here depth => exact ⟨[], [], Nat.zero_le _, fun rest => .refl _⟩
  | @into depth x y q front back cell body gone _ inductionHypothesis =>
    obtain ⟨_, _, member, _, _⟩ := cell?_eq_some_iff.mp cell
    obtain ⟨first, short, clear⟩ := erased_of_each (fun z present => (gone z present).erased)
    obtain ⟨second, inner, shorter, behind⟩ := inductionHypothesis
    refine ⟨q :: (first ++ second), inner ++ back, ?_, ?_⟩
    · have length := length_body_le member
      rw [body, List.length_append, List.length_cons] at length
      have room := nestingBound_succ depth
        (show front.length + 1 ≤ longestBody p.grammar by omega)
      rw [Nat.succ_mul] at room
      rw [List.length_cons, List.length_append]
      omega
    · intro rest
      have whole := (clear (y :: (back ++ rest))).trans (behind (back ++ rest))
      exact .step (expandTop?_of_cell? cell rest) (by simpa [body] using whole)

/-- The expansions of every stack come to an end within a bound. -/
theorem exists_settled (p : Parser) (look : Option Symbol) (stack : List Symbol) :
    ∃ applied settled, p.Expands look stack applied settled ∧ p.expandTop? look settled = none ∧
      applied.length ≤ stack.length * nestingBound p.grammar p.grammar.nonterminals.length := by
  induction stack with
  | nil => exact ⟨[], [], .refl [], rfl, by simp⟩
  | cons x rest inductionHypothesis =>
    cases cell : p.cell? x look with
    | none => exact ⟨[], x :: rest, .refl _, expandTop?_eq_none_iff.mpr cell, Nat.zero_le _⟩
    | some q =>
      obtain ⟨a, rfl, _, _, predicts⟩ := cell?_eq_some_iff.mp cell
      rw [List.length_cons, Nat.succ_mul]
      rcases (done_of_cell? cell).2 with clears | reaches
      · obtain ⟨first, short, clear⟩ := clears.erased
        obtain ⟨second, settled, expands, stops, shorter⟩ := inductionHypothesis
        refine ⟨first ++ second, settled, (clear rest).trans expands, stops, ?_⟩
        rw [List.length_append]
        omega
      · obtain ⟨applied, back, short, expands⟩ := reaches.expands
        have stops : p.cell? a (some a) = none := cell?_of_isLookahead predicts.isLookahead
        exact ⟨applied, a :: (back ++ rest), expands rest, expandTop?_eq_none_iff.mpr stops,
          by omega⟩

/-- The fuel of the parser covers every sequence of expansions of a stack under
one lookahead. -/
theorem length_le_expansionBound {stack after : List Symbol} {applied : List Production}
    (expands : p.Expands look stack applied after) :
    applied.length ≤ expansionBound p.grammar stack := by
  obtain ⟨all, settled, full, stops, short⟩ := p.exists_settled look stack
  calc applied.length
      ≤ all.length := full.length_le stops expands
    _ ≤ stack.length * nestingBound p.grammar p.grammar.nonterminals.length := short
    _ ≤ expansionBound p.grammar stack :=
        Nat.mul_le_mul (Nat.le_succ _) (nestingBound_le_pow _ _)

/-- The parser expands a stack until it is settled. -/
theorem expand_settles (p : Parser) (look : Option Symbol) (stack : List Symbol) :
    ∃ settled applied, p.expand look (expansionBound p.grammar stack) stack = (settled, applied) ∧
      p.Expands look stack applied settled ∧ p.expandTop? look settled = none := by
  obtain ⟨applied, settled, full, stops, _⟩ := p.exists_settled look stack
  exact ⟨settled, applied, full.expand_eq stops (length_le_expansionBound full), full, stops⟩

end Predictive.Parser
