import Predictive.Proofs.ParserLoop

/-!
# Clashes of FIRST and FOLLOW

A production whose body can begin with a lookahead and can also vanish in front of
it asks twice for the same cell, and the second request records nothing. Such a
clash still never goes unreported. A symbol that vanishes in front of a lookahead
is replaced by symbols that all do so, and one that begins with it is replaced by
symbols that bring it to the top. No production can be followed both ways to the
end, so the two ways part at some nonterminal, and there two productions ask for
one cell.

In a table without conflicts no symbol does both. FIRST and FOLLOW of a nonterminal
that derives the empty string are then disjoint, the requests are for different
cells, and each of them finds its cell empty.
-/

namespace Predictive

namespace Parser

variable {p : Parser} {a x : Symbol}

/-- A symbol that vanishes and begins with a terminal does not have it behind it. -/
theorem not_succeeds_of_begins (gone : p.grammar.Vanishes [x]) (terminal : a ∈ p.grammar.terminals)
    (begins : p.grammar.Begins a [x]) : ¬ p.grammar.Succeeds x a := by
  intro behind
  obtain ⟨_, clears⟩ := clears_of_vanishes_singleton gone behind
  exact clears.not_begins terminal begins

end Parser

namespace Grammar

variable {g : Grammar} {x t : Symbol} {p : Production}

/-- Without conflicts nothing in FIRST of a nonterminal that derives the empty
string is in its FOLLOW. -/
theorem not_mem_follow_of_mem_first (clean : g.table.conflicts = [])
    (nonterminal : x ∈ g.nonterminals) (mark : epsilon ∈ g.first.get x)
    (inFirst : t ∈ g.first.get x) : t ∉ g.follow.get x := by
  intro inFollow
  have first := isFirstOf_nonterminal nonterminal
  have follow := isFollowOf_get nonterminal
  rcases first.nothing_else t inFirst with terminal | rfl
  · obtain ⟨p, rfl⟩ := Parser.exists_grammar_eq clean
    obtain ⟨_, begins⟩ := canBegin_iff.mp ((first.terminal_iff t terminal).mp inFirst)
    have gone := vanishes_iff.mpr (first.epsilon_iff.mp mark)
    exact Parser.not_succeeds_of_begins gone terminal begins
      ((mem_follow_iff nonterminal).mp inFollow)
  · exact follow.epsilon_not_mem inFollow

theorem first_get_nodup (g : Grammar) (x : Symbol) : (g.first.get x).Nodup := by
  by_cases known : x ∈ g.firstNames
  · exact (first_family.get known).1
  · rw [SymbolSets.get_eq_nil (first_family.keys_eq ▸ known)]
    exact List.nodup_nil

theorem ofSequence_nodup {first : SymbolSets} (each : ∀ x, (first.get x).Nodup)
    (u : List Symbol) : (first.ofSequence u).Nodup := by
  cases u with
  | nil => simp [SymbolSets.ofSequence]
  | cons x rest =>
    rw [SymbolSets.ofSequence]
    split
    · exact Finite.adjoinAll_nodup (Finite.without_nodup (each x) _)
    · exact Finite.without_nodup (each x) _

/-- Without conflicts a production asks for each of its cells once. -/
theorem lookaheads_nodup (clean : g.table.conflicts = []) (member : p ∈ g.rules) :
    (g.lookaheads g.first g.follow p).Nodup := by
  have nonterminal := g.lhs_declared p member
  have beginnings := Finite.without_nodup (ofSequence_nodup g.first_get_nodup p.rhs) [epsilon]
  unfold lookaheads
  split
  · rename_i mark
    have followers := (follow_family.get nonterminal).1
    refine List.nodup_append.mpr
      ⟨SymbolOrder.arrange_nodup beginnings, SymbolOrder.arrange_nodup followers, ?_⟩
    rintro t inFirst _ inFollow rfl
    rw [SymbolOrder.mem_arrange, first_family.ofSequence_rhs] at inFirst
    rw [SymbolOrder.mem_arrange] at inFollow
    rw [first_family.ofSequence_rhs] at mark
    exact not_mem_follow_of_mem_first clean nonterminal (ofSequence_body_subset member _ mark)
      (ofSequence_body_subset member t (Finite.mem_without.mp inFirst).1) inFollow
  · rw [List.append_nil]
    exact SymbolOrder.arrange_nodup beginnings

/-- Without conflicts no cell is asked for twice: the requests of one production
differ in their lookaheads, and no two productions of a nonterminal predict the
same one. -/
theorem requests_pairwise (clean : g.table.conflicts = []) :
    (g.requests g.first g.follow).Pairwise
      (fun earlier later => ¬ Table.IsAt later.nonterminal later.lookahead earlier) := by
  rw [requests, List.pairwise_flatMap]
  constructor
  · intro p member
    rw [List.pairwise_map]
    refine (lookaheads_nodup clean (mem_allProductions.mp member)).imp ?_
    exact fun different here => different here.2
  · refine g.allProductions_nodup.imp_of_mem ?_
    intro p q ofP ofQ different earlier fromP later fromQ here
    obtain ⟨first, asked, rfl⟩ := List.mem_map.mp fromP
    obtain ⟨second, askedToo, rfl⟩ := List.mem_map.mp fromQ
    obtain ⟨left, same⟩ : p.lhs = q.lhs ∧ first = second := here
    subst same
    have memberP := mem_allProductions.mp ofP
    have memberQ := mem_allProductions.mp ofQ
    exact different (eq_of_predicts clean memberP memberQ left
      ((mem_predictSet_iff memberP).mp (mem_lookaheads.mp asked))
      ((mem_predictSet_iff memberQ).mp (mem_lookaheads.mp askedToo)))

/-- In a grammar whose table has no conflicts, FIRST and FOLLOW of every nonterminal
that derives the empty string are disjoint. Every request finds its cell empty while
the table is built, so none is passed over because its production is there already. -/
theorem first_and_follow_do_not_clash (clean : g.table.conflicts = []) :
    (∀ a ∈ g.nonterminals, g.first.nullable? a = .ok true →
      ∃ first follow, g.first.first? a = .ok first ∧ g.follow.follow? a = .ok follow ∧
        ∀ t ∈ first, t ∉ follow) ∧
    ∀ before cell behind, g.requests g.first g.follow = before ++ cell :: behind →
      (before.foldl Table.put {}).get? cell.nonterminal cell.lookahead = none := by
  constructor
  · intro a nonterminal nullable
    have known := nonterminal_mem_firstNames nonterminal
    rw [nullable?_first known] at nullable
    have mark : epsilon ∈ g.first.get a := of_decide_eq_true (Except.ok.inj nullable)
    exact ⟨_, _, first?_first known, follow?_follow nonterminal,
      fun _ => not_mem_follow_of_mem_first clean nonterminal mark⟩
  · intro before cell behind split
    have separate := requests_pairwise clean
    rw [split, List.pairwise_append] at separate
    have empty : Table.get? {} cell.nonterminal cell.lookahead = none := rfl
    rw [Table.get?_foldl_put, empty, Option.none_or, Option.map_eq_none_iff, List.find?_eq_none]
    intro earlier member here
    exact separate.2.2 earlier member cell List.mem_cons_self (of_decide_eq_true here)

/-- The end of a sum vanishes or begins with `+`, and only the end of the input can
follow it. The last request, for its empty body, finds its cell empty. -/
theorem sums_do_not_clash : Parser.sums.table.conflicts = [] ∧ "T" ∈ Parser.sums.nonterminals ∧
    Parser.sums.first.nullable? "T" = .ok true ∧
    (∃ first follow, Parser.sums.first.first? "T" = .ok first ∧
      Parser.sums.follow.follow? "T" = .ok follow ∧ "+" ∈ first ∧ "+" ∉ follow) ∧
    ∃ before, Parser.sums.requests Parser.sums.first Parser.sums.follow =
        before ++ [⟨"T", endMarker, ⟨"T", [epsilon]⟩⟩] ∧
      (before.foldl Table.put {}).get? "T" endMarker = none := by
  have clean := Parser.sumsParser.conflicts_eq
  have declared : "T" ∈ Parser.sums.nonterminals := by decide
  have nullable : Parser.sums.first.nullable? "T" = .ok true := rfl
  have answer : Parser.sums.first.first? "T" = .ok ["+", epsilon] := rfl
  have split : Parser.sums.requests Parser.sums.first Parser.sums.follow =
      [⟨"S", "x", ⟨"S", ["x", "T"]⟩⟩, ⟨"T", "+", ⟨"T", ["+", "x", "T"]⟩⟩] ++
        [⟨"T", endMarker, ⟨"T", [epsilon]⟩⟩] := rfl
  obtain ⟨disjoint, empty⟩ := first_and_follow_do_not_clash (g := Parser.sums) clean
  obtain ⟨first, follow, found, foundFollow, apart⟩ := disjoint "T" declared nullable
  obtain rfl : ["+", epsilon] = first := Except.ok.inj (answer.symm.trans found)
  have begins : "+" ∈ ["+", epsilon] := by decide
  exact ⟨clean, declared, nullable, ⟨_, follow, answer, foundFollow, begins, apart "+" begins⟩,
    _, split, empty _ _ [] split⟩

end Grammar

end Predictive
