import Mathlib.Data.List.Count
import Predictive.Proofs.Validation

/-!
# How often a declaration breaks a rule

Every place at which a declaration breaks a rule is one problem. `timesBroken` counts these
places rule by rule, on the rules as they are written and without any check: whether one
place is at fault never depends on another one. The problems that are reported are compared
with it by count.

Two kinds of problem can be hidden. The body of a production is not looked at if its left
side is not declared, and of a reserved name among the nonterminals it is not said that it
has no productions. In both cases the problem that hides the other one is itself reported.
-/

namespace Predictive

namespace Finite

universe u v w
variable {α : Type u} {β : Type v} {γ : Type w} [BEq α] [BEq β]

/-- What only one element gives is counted as often as that element occurs. -/
theorem count_flatMap_of_own [LawfulBEq α] [LawfulBEq β] {f : α → List β} {a : α} {b : β}
    (own : ∀ x, x ≠ a → b ∉ f x) (xs : List α) :
    (xs.flatMap f).count b = xs.count a * (f a).count b := by
  induction xs with
  | nil => simp
  | cons x rest inductionHypothesis =>
    rw [List.flatMap_cons, List.count_append, inductionHypothesis]
    by_cases same : x = a
    · rw [same, List.count_cons_self, Nat.add_mul, Nat.one_mul, Nat.add_comm]
    · rw [List.count_cons_of_ne same, List.count_eq_zero.mpr (own x same), Nat.zero_add]

/-- What two families of lists count alike element by element, they count alike over a
whole list. -/
theorem count_flatMap_congr {f : γ → List α} {g : γ → List β} {a : α} {b : β}
    (alike : ∀ x, (f x).count a = (g x).count b) (xs : List γ) :
    (xs.flatMap f).count a = (xs.flatMap g).count b := by
  simp only [List.count_flatMap, Function.comp_def, alike]

end Finite

/-- The bodies that are listed for a left side, texts among them. -/
def Bodies.listed : Bodies → List Body
  | list bodies => bodies
  | text _ => []

namespace RuleSource

/-- What a mapping gives for its left sides. -/
def entries : RuleSource → List (Symbol × Bodies)
  | mapping entries => entries
  | listing _ => []

/-- What a list holds. -/
def items : RuleSource → List RuleItem
  | mapping _ => []
  | listing items => items

/-- The bodies that a mapping lists, each with its left side. -/
def bodies (rules : RuleSource) : List (Symbol × Body) :=
  rules.entries.flatMap (fun entry => entry.2.listed.map (entry.1, ·))

end RuleSource

/-- The problem that hides another one, if it is there. -/
def Problem.hider? : Problem → Option Problem
  | epsilonNotAlone p => some (leftNotDeclared p)
  | symbolNotDeclared p _ => some (leftNotDeclared p)
  | noProductions a => if a ∈ reserved then some (reservedNonterminal a) else none
  | _ => none

/-- The production that a problem is about. -/
def Problem.production? : Problem → Option Production
  | leftNotDeclared p => some p
  | epsilonNotAlone p => some p
  | symbolNotDeclared p _ => some p
  | _ => none

namespace Declaration

variable {d : Declaration} {p : Production} {problem : Problem}

/-- How often a production is offered, in either form and in either spelling of the empty
body. -/
def timesOffered (d : Declaration) (p : Production) : Nat :=
  (d.rules.written.map (fun rule => Production.of rule.1 rule.2)).count p

/-- At how many places a declaration has a problem. -/
def timesBroken (d : Declaration) : Problem → Nat
  | .noTerminals => if d.terminals = [] then 1 else 0
  | .noNonterminals => if d.nonterminals = [] then 1 else 0
  | .declaredTwice x => if x ∈ d.terminals ∧ x ∈ d.nonterminals then 1 else 0
  | .reservedTerminal x => if x ∈ reserved ∧ x ∈ d.terminals then 1 else 0
  | .reservedNonterminal x => if x ∈ reserved ∧ x ∈ d.nonterminals then 1 else 0
  | .startNotDeclared x => if x = d.start ∧ x ∉ d.nonterminals then 1 else 0
  | .bodiesAreText lhs text => d.rules.entries.count (lhs, .text text)
  | .bodyIsText lhs text => d.rules.bodies.count (lhs, .text text)
  | .notAProduction value => d.rules.items.count (.stray value)
  | .leftNotDeclared p => if p.lhs ∈ d.nonterminals then 0 else d.timesOffered p
  | .epsilonNotAlone p =>
    if p.rhs = [epsilon] then 0 else d.timesOffered p * p.rhs.count epsilon
  | .symbolNotDeclared p x =>
    if x = epsilon ∨ x ∈ d.terminals ∨ x ∈ d.nonterminals then 0
    else d.timesOffered p * p.rhs.count x
  | .noProductions a => if a ∈ d.nonterminals ∧ ∀ rule ∈ d.rules.written, rule.1 ≠ a then 1 else 0
  | .noRules => 0
  | .ruleNamedLikeToken _ => 0

/-- A problem is hidden when the one that hides it is there. -/
def Hides (d : Declaration) (problem : Problem) : Prop :=
  ∃ other ∈ problem.hider?, 0 < d.timesBroken other

instance (d : Declaration) : DecidablePred d.Hides := fun problem =>
  inferInstanceAs (Decidable (∃ other ∈ problem.hider?, 0 < d.timesBroken other))

theorem timesOffered_eq (d : Declaration) (p : Production) :
    d.timesOffered p = d.productions.count p := by
  rw [timesOffered, productions_eq_written]

/-- A problem that is reported under a condition is counted once under it. -/
theorem count_if (c : Prop) [Decidable c] (reported : Problem) :
    (if c then [reported] else []).count problem = if c ∧ reported = problem then 1 else 0 := by
  by_cases holds : c <;> simp [holds, List.count_cons, List.count_nil, beq_iff_eq]

theorem count_unless (c : Prop) [Decidable c] (reported : Problem) :
    (if c then [] else [reported]).count problem = if ¬ c ∧ reported = problem then 1 else 0 := by
  by_cases holds : c <;> simp [holds, List.count_cons, List.count_nil, beq_iff_eq]

/-- The names of both sets are reported as such. -/
theorem count_shared (d : Declaration) (problem : Problem) :
    (d.sharedNames.map Problem.declaredTwice).count problem =
      match problem with
      | .declaredTwice x => if x ∈ d.terminals ∧ x ∈ d.nonterminals then 1 else 0
      | _ => 0 := by
  cases problem
  case declaredTwice x =>
    have unique : d.sharedNames.Nodup := (nameSet_nodup _).filter _
    rw [List.count_map_of_injective _ _ (fun _ _ same => Problem.declaredTwice.inj same),
      unique.count]
    simp [sharedNames, mem_nameSet]
  all_goals simp [List.count_eq_zero]

/-- Each reserved name is reported for each of the two sets that has it. -/
theorem count_reserved (d : Declaration) (problem : Problem) :
    (reserved.flatMap d.reservedProblems).count problem =
      match problem with
      | .reservedTerminal x => if x ∈ reserved ∧ x ∈ d.terminals then 1 else 0
      | .reservedNonterminal x => if x ∈ reserved ∧ x ∈ d.nonterminals then 1 else 0
      | _ => 0 := by
  have once : ∀ x, reserved.count x = if x ∈ reserved then 1 else 0 :=
    fun x => List.Nodup.count (by decide)
  cases problem
  case reservedTerminal x =>
    rw [Finite.count_flatMap_of_own (a := x), once]
    · by_cases special : x ∈ reserved <;>
        simp [special, reservedProblems, List.count_append, count_if]
    · intro y other
      simp [reservedProblems, other.symm]
  case reservedNonterminal x =>
    rw [Finite.count_flatMap_of_own (a := x), once]
    · by_cases special : x ∈ reserved <;>
        simp [special, reservedProblems, List.count_append, count_if]
    · intro y other
      simp [reservedProblems, other.symm]
  all_goals simp [List.count_eq_zero, reservedProblems]

/-- Of an entry of a mapping it is reported that a text stands for its bodies, or that texts
stand among them. -/
theorem mem_entryProblems {entry : Symbol × Bodies} :
    problem ∈ (offeredBodies entry).filterMap offerProblem? ↔
      (∃ text, entry.2 = .text text ∧ problem = .bodiesAreText entry.1 text) ∨
      ∃ text, .text text ∈ entry.2.listed ∧ problem = .bodyIsText entry.1 text := by
  obtain ⟨left, bodies⟩ := entry
  cases bodies with
  | text value => simp [offeredBodies, offerProblem?, Bodies.listed, eq_comm]
  | list bodies =>
    simp only [offeredBodies, Bodies.listed, List.mem_filterMap, List.mem_map]
    constructor
    · rintro ⟨_, ⟨body, member, rfl⟩, found⟩
      cases body with
      | symbols names => cases found
      | text value => exact Or.inr ⟨value, member, (Option.some.inj found).symm⟩
    · rintro (⟨_, impossible, _⟩ | ⟨value, member, rfl⟩)
      · cases impossible
      · exact ⟨_, ⟨_, member, rfl⟩, rfl⟩

/-- Each text among the bodies of an entry is reported. -/
theorem count_bodyIsText (entry : Symbol × Bodies) (lhs : Symbol) (text : String) :
    ((offeredBodies entry).filterMap offerProblem?).count (.bodyIsText lhs text) =
      (entry.2.listed.map (entry.1, ·)).count (lhs, .text text) := by
  obtain ⟨left, bodies⟩ := entry
  cases bodies with
  | text value => simp [offeredBodies, offerProblem?, Bodies.listed]
  | list bodies =>
    simp only [offeredBodies, Bodies.listed, List.filterMap_map]
    simp only [List.count, List.countP_filterMap, List.countP_map]
    apply List.countP_congr
    intro body _
    cases body <;> simp [offeredBody, offerProblem?]

/-- The mistakes in the form of the rules are reported one by one. -/
theorem count_formProblems (d : Declaration) (problem : Problem) :
    d.formProblems.count problem =
      match problem with
      | .bodiesAreText lhs text => d.rules.entries.count (lhs, .text text)
      | .bodyIsText lhs text => d.rules.bodies.count (lhs, .text text)
      | .notAProduction value => d.rules.items.count (.stray value)
      | _ => 0 := by
  unfold formProblems offered RuleSource.bodies
  cases d.rules with
  | mapping entries =>
    simp only [RuleSource.entries, RuleSource.items, List.filterMap_flatMap]
    cases problem
    case bodiesAreText lhs text =>
      rw [Finite.count_flatMap_of_own (a := (lhs, .text text))]
      · simp [offeredBodies, offerProblem?]
      · intro entry other member
        obtain ⟨_, same, named⟩ | ⟨_, _, named⟩ := mem_entryProblems.mp member
        · obtain ⟨rfl, rfl⟩ := Problem.bodiesAreText.inj named
          exact other (Prod.ext rfl same)
        · cases named
    case bodyIsText lhs text =>
      exact Finite.count_flatMap_congr (fun entry => count_bodyIsText entry lhs text) entries
    all_goals
      apply List.count_eq_zero.mpr
      simp only [List.mem_flatMap, mem_entryProblems, reduceCtorEq, and_false, exists_false,
        or_self, not_false_eq_true]
  | listing items =>
    simp only [RuleSource.entries, RuleSource.items, List.filterMap_map]
    cases problem
    case notAProduction value =>
      simp only [List.count, List.countP_filterMap]
      apply List.countP_congr
      intro item _
      cases item <;> simp [offeredItem, offerProblem?]
    all_goals
      apply List.count_eq_zero.mpr
      intro member
      obtain ⟨item, _, found⟩ := List.mem_filterMap.mp member
      cases item <;> cases found

/-- A nonterminal without productions is reported once, unless its name is reserved. -/
theorem count_barren (d : Declaration) (problem : Problem) :
    (d.barrenNames.map Problem.noProductions).count problem =
      match problem with
      | .noProductions a =>
        if a ∉ reserved ∧ a ∈ d.nonterminals ∧ ∀ rule ∈ d.rules.written, rule.1 ≠ a then 1 else 0
      | _ => 0 := by
  cases problem
  case noProductions a =>
    have unique : d.barrenNames.Nodup := (nameSet_nodup _).filter _
    have member : a ∈ d.barrenNames ↔
        a ∉ reserved ∧ a ∈ d.nonterminals ∧ ∀ rule ∈ d.rules.written, rule.1 ≠ a := by
      simp only [barrenNames, List.mem_filter, mem_nameSet, decide_eq_true_eq,
        productions_eq_written, List.map_map, List.mem_map, Function.comp_apply, Production.of,
        not_exists, not_and]
      exact and_left_comm
    rw [List.count_map_of_injective _ _ (fun _ _ same => Problem.noProductions.inj same),
      unique.count]
    simp only [member]
  all_goals simp [List.count_eq_zero]

/-- A problem that a production has is about it. -/
theorem production?_of_mem (member : problem ∈ d.productionProblems p) :
    problem.production? = some p := by
  unfold productionProblems at member
  split at member
  · obtain ⟨x, _, member⟩ := List.mem_flatMap.mp member
    unfold symbolProblems at member
    split at member
    · split at member
      · cases member
      · exact List.mem_singleton.mp member ▸ rfl
    · split at member
      · cases member
      · exact List.mem_singleton.mp member ▸ rfl
  · exact List.mem_singleton.mp member ▸ rfl

/-- The problems of a production are reported as often as it is offered. -/
theorem count_productionProblems (d : Declaration) (problem : Problem) :
    (d.productions.flatMap d.productionProblems).count problem =
      match problem.production? with
      | some p => d.timesOffered p * (d.productionProblems p).count problem
      | none => 0 := by
  split
  · rename_i p about
    rw [timesOffered_eq]
    refine Finite.count_flatMap_of_own ?_ d.productions
    intro q other member
    exact other (Option.some.inj ((production?_of_mem member).symm.trans about))
  · rename_i about
    apply List.count_eq_zero.mpr
    intro member
    obtain ⟨q, _, member⟩ := List.mem_flatMap.mp member
    simp [production?_of_mem member] at about

/-- An undeclared left side is reported. -/
theorem count_leftNotDeclared (d : Declaration) (p : Production) :
    (d.productionProblems p).count (.leftNotDeclared p) =
      if p.lhs ∈ d.nonterminals then 0 else 1 := by
  unfold productionProblems
  split
  · apply List.count_eq_zero.mpr
    intro member
    obtain ⟨x, _, member⟩ := List.mem_flatMap.mp member
    unfold symbolProblems at member
    split at member <;> split at member <;> simp at member
  · simp

/-- Each `ε` in a body is reported, unless it stands alone or the left side is not
declared. -/
theorem count_epsilonNotAlone (d : Declaration) (p : Production) :
    (d.productionProblems p).count (.epsilonNotAlone p) =
      if p.lhs ∈ d.nonterminals ∧ p.rhs ≠ [epsilon] then p.rhs.count epsilon else 0 := by
  unfold productionProblems
  by_cases left : p.lhs ∈ d.nonterminals
  · rw [if_pos left, Finite.count_flatMap_of_own (a := epsilon)]
    · by_cases alone : p.rhs = [epsilon]
      · simp [symbolProblems, alone]
      · by_cases single : p.rhs.length = 1
        · obtain ⟨x, only⟩ := List.length_eq_one_iff.mp single
          have other : x ≠ epsilon := fun same => alone (same ▸ only)
          simp [only, other]
        · simp [symbolProblems, left, alone, single]
    · intro x other member
      unfold symbolProblems at member
      rw [if_neg other] at member
      split at member <;> simp at member
  · simp [left]

/-- Each undeclared symbol in a body is reported wherever it stands, unless the left side is
not declared. -/
theorem count_symbolNotDeclared (d : Declaration) (p : Production) (x : Symbol) :
    (d.productionProblems p).count (.symbolNotDeclared p x) =
      if p.lhs ∈ d.nonterminals ∧ ¬ (x = epsilon ∨ x ∈ d.terminals ∨ x ∈ d.nonterminals) then
        p.rhs.count x
      else 0 := by
  unfold productionProblems
  by_cases left : p.lhs ∈ d.nonterminals
  · rw [if_pos left, Finite.count_flatMap_of_own (a := x)]
    · by_cases mark : x = epsilon
      · by_cases single : p.rhs.length = 1 <;> simp [symbolProblems, mark, single]
      · by_cases known : x ∈ d.terminals ∨ x ∈ d.nonterminals <;>
          simp [symbolProblems, left, mark, known]
    · intro y other member
      unfold symbolProblems at member
      split at member
      · split at member <;> simp at member
      · split at member
        · cases member
        · simp [other.symm] at member
  · simp [left]

/-- A problem of a body is hidden when its production is offered under a left side that is
not declared. -/
theorem hides_body_iff (hider : problem.hider? = some (.leftNotDeclared p)) :
    d.Hides problem ↔ p.lhs ∉ d.nonterminals ∧ d.timesOffered p ≠ 0 := by
  by_cases left : p.lhs ∈ d.nonterminals <;>
    simp [Hides, hider, timesBroken, left, Nat.pos_iff_ne_zero]

/-- A reserved name is not reported as a nonterminal without productions. -/
theorem hides_noProductions_iff {a : Symbol} :
    d.Hides (.noProductions a) ↔ a ∈ reserved ∧ a ∈ d.nonterminals := by
  by_cases special : a ∈ reserved <;> by_cases declared : a ∈ d.nonterminals <;>
    simp [Hides, Problem.hider?, timesBroken, special, declared]

/-- A problem is reported at all the places where it is met, or, if another problem hides
it, nowhere. -/
theorem count_problems (d : Declaration) (problem : Problem) :
    d.problems.count problem = if d.Hides problem then 0 else d.timesBroken problem := by
  simp only [problems, List.count_append, count_if, count_unless, count_shared, count_reserved,
    count_formProblems, count_productionProblems, count_barren]
  cases problem with
  | leftNotDeclared p =>
    by_cases left : p.lhs ∈ d.nonterminals <;>
      simp [Hides, Problem.hider?, Problem.production?, timesBroken, count_leftNotDeclared, left]
  | epsilonNotAlone p =>
    have hides : d.Hides (.epsilonNotAlone p) ↔ _ := hides_body_iff rfl
    by_cases left : p.lhs ∈ d.nonterminals <;> by_cases offered : d.timesOffered p = 0 <;>
      by_cases alone : p.rhs = [epsilon] <;>
      simp [hides, Problem.production?, timesBroken, count_epsilonNotAlone, left, offered, alone]
  | symbolNotDeclared p x =>
    have hides : d.Hides (.symbolNotDeclared p x) ↔ _ := hides_body_iff rfl
    by_cases left : p.lhs ∈ d.nonterminals <;> by_cases offered : d.timesOffered p = 0 <;>
      by_cases known : x = epsilon ∨ x ∈ d.terminals ∨ x ∈ d.nonterminals <;>
      simp [hides, Problem.production?, timesBroken, count_symbolNotDeclared, left, offered,
        known]
  | noProductions a =>
    have met : (if a ∉ reserved ∧ a ∈ d.nonterminals ∧ ∀ rule ∈ d.rules.written, rule.1 ≠ a then
        1 else 0) = if a ∈ reserved ∧ a ∈ d.nonterminals then 0 else
          d.timesBroken (.noProductions a) := by
      by_cases special : a ∈ reserved <;> by_cases declared : a ∈ d.nonterminals <;>
        simp only [timesBroken, special, declared, not_true_eq_false, not_false_eq_true, true_and,
          false_and, and_false, if_true, if_false]
    simp [hides_noProductions_iff, Problem.production?, met]
  | startNotDeclared x =>
    by_cases same : d.start = x
    · simp [Hides, Problem.hider?, Problem.production?, timesBroken, same]
    · have other : x ≠ d.start := fun equal => same equal.symm
      simp [Hides, Problem.hider?, Problem.production?, timesBroken, same, other]
  | _ => simp [Hides, Problem.hider?, Problem.production?, timesBroken]

theorem mem_problems_iff :
    problem ∈ d.problems ↔ ¬ d.Hides problem ∧ 0 < d.timesBroken problem := by
  rw [← List.count_pos_iff, count_problems]
  split <;> simp [*]

/-- A problem that hides another one is not hidden itself. -/
theorem not_hides_hider {other : Problem} (hider : other ∈ problem.hider?) : ¬ d.Hides other := by
  have free : other.hider? = none := by
    cases problem with
    | noProductions a =>
      simp only [Problem.hider?, Option.mem_def] at hider
      split at hider
      · exact Option.some.inj hider ▸ rfl
      · cases hider
    | epsilonNotAlone p => exact Option.some.inj hider ▸ rfl
    | symbolNotDeclared p x => exact Option.some.inj hider ▸ rfl
    | _ => cases hider
  simp [Hides, free]

/-- What hides a problem is reported in its place. -/
theorem Hides.reported (hidden : d.Hides problem) :
    ∃ other ∈ problem.hider?, other ∈ d.problems := by
  obtain ⟨other, hider, broken⟩ := hidden
  exact ⟨other, hider, mem_problems_iff.mpr ⟨not_hides_hider hider, broken⟩⟩

/-- A declaration without problems breaks no rule anywhere, hidden places included. -/
theorem problems_eq_nil_iff_timesBroken :
    d.problems = [] ↔ ∀ problem, d.timesBroken problem = 0 := by
  constructor
  · intro clean problem
    by_contra broken
    by_cases hidden : d.Hides problem
    · obtain ⟨other, _, member⟩ := hidden.reported
      simp [clean] at member
    · have member := mem_problems_iff.mpr ⟨hidden, Nat.pos_of_ne_zero broken⟩
      simp [clean] at member
  · intro none
    rw [List.eq_nil_iff_forall_not_mem]
    intro problem member
    exact absurd (none problem) (Nat.pos_iff_ne_zero.mp (mem_problems_iff.mp member).2)

end Declaration

namespace Grammar

variable {d : Declaration}

/-- A declaration with problems is refused with all of them. -/
theorem ofDeclaration?_of_problems (met : d.problems ≠ []) :
    ofDeclaration? d = .error d.problems := by
  unfold ofDeclaration?
  split
  · rename_i clean
    exact absurd clean met
  · rename_i first others listed
    rw [listed]

/-- A declaration that breaks no rule at any place is accepted. Any other one is refused, and
every problem is reported once for each place where it is met, unless another problem hides
it, which is then reported in its place. -/
theorem reports_every_problem_that_is_not_hidden (d : Declaration) :
    (∀ problem, d.timesBroken problem = 0) ∧ (∃ g, ofDeclaration? d = .ok g) ∨
    (∃ problem, 0 < d.timesBroken problem) ∧ ∃ reported, ofDeclaration? d = .error reported ∧
      (∀ problem, reported.count problem =
        if d.Hides problem then 0 else d.timesBroken problem) ∧
      ∀ problem, d.Hides problem → ∃ other ∈ problem.hider?, other ∈ reported := by
  by_cases clean : d.problems = []
  · obtain ⟨g, accepted, _⟩ := exists_ofDeclaration? clean
    exact Or.inl ⟨Declaration.problems_eq_nil_iff_timesBroken.mp clean, g, accepted⟩
  · obtain ⟨problem, member⟩ := List.exists_mem_of_ne_nil _ clean
    refine Or.inr ⟨⟨problem, (Declaration.mem_problems_iff.mp member).2⟩, ?_⟩
    exact ⟨_, ofDeclaration?_of_problems clean, d.count_problems, fun _ hidden => hidden.reported⟩

/-- A mapping with a body for `X`, which is no nonterminal. -/
def strayLeft : Declaration where
  terminals := ["a"]
  nonterminals := ["S"]
  rules := .mapping [("S", .list [.symbols ["a"]]), ("X", .list [.symbols ["b"]])]
  start := "S"

/-- The body for `X` uses the undeclared symbol `b`, which is not reported. -/
theorem stray_left_side_hides_its_body :
    ofDeclaration? strayLeft = .error [.leftNotDeclared ⟨"X", ["b"]⟩] ∧
    strayLeft.timesBroken (.symbolNotDeclared ⟨"X", ["b"]⟩ "b") = 1 ∧
    ¬ ∀ reported, ofDeclaration? strayLeft = .error reported →
      ∀ problem, 0 < strayLeft.timesBroken problem → problem ∈ reported := by
  have refused : ofDeclaration? strayLeft = .error [.leftNotDeclared ⟨"X", ["b"]⟩] := rfl
  have broken : strayLeft.timesBroken (.symbolNotDeclared ⟨"X", ["b"]⟩ "b") = 1 := by decide
  refine ⟨refused, broken, ?_⟩
  intro complete
  have listed := complete _ refused (.symbolNotDeclared ⟨"X", ["b"]⟩ "b") (by simp [broken])
  simp at listed

end Grammar

end Predictive
