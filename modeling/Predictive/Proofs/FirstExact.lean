import Predictive.Grammar.First
import Predictive.Proofs.Beginnings
import Predictive.Proofs.GrowingSets

/-!
# FIRST is exact

Every pass of FIRST keeps the sets sound: what is in the set of a nonterminal is
a terminal that it begins with, or `ε` when it vanishes. The sets stay within
the terminals and `ε`, so the passes reach a fixed point on every grammar. At a
fixed point each production has nothing more to offer to its left side, and
induction over the productions that make a string vanish or begin with a
terminal finds each such symbol in the set.

A question about names that have a set is therefore answered, and the answer says
what the string that the names stand for derives. A sequence may mention `ε`, which
stands for the empty string wherever it is written.
-/

namespace Predictive

namespace SymbolSets

variable {first : SymbolSets} {x t : Symbol} {rest : List Symbol}

theorem epsilon_mem_ofSequence_nil : epsilon ∈ first.ofSequence [] := List.mem_singleton.mpr rfl

/-- The mark `ε` is in FIRST of a string when it is in the set of every symbol. -/
theorem epsilon_mem_ofSequence_cons : epsilon ∈ first.ofSequence (x :: rest) ↔
    epsilon ∈ first.get x ∧ epsilon ∈ first.ofSequence rest := by
  rw [ofSequence]
  split
  · rename_i mark
    simp [Finite.mem_adjoinAll, Finite.mem_without, mark]
  · rename_i noMark
    simp [Finite.mem_without, noMark]

/-- Any other symbol comes from the first symbol, or from behind it. -/
theorem mem_ofSequence_cons (other : t ≠ epsilon) : t ∈ first.ofSequence (x :: rest) ↔
    t ∈ first.get x ∨ epsilon ∈ first.get x ∧ t ∈ first.ofSequence rest := by
  rw [ofSequence]
  split
  · rename_i mark
    simp [Finite.mem_adjoinAll, Finite.mem_without, mark, other]
  · rename_i noMark
    simp [Finite.mem_without, noMark, other]

end SymbolSets

namespace Grammar

variable {g : Grammar} {u : List Symbol} {t x : Symbol}

/-- A string of declared symbols. -/
def IsForm (g : Grammar) (u : List Symbol) : Prop :=
  ∀ x ∈ u, x ∈ g.terminals ∨ x ∈ g.nonterminals

theorem isForm_cons : g.IsForm (x :: u) ↔ (x ∈ g.terminals ∨ x ∈ g.nonterminals) ∧ g.IsForm u :=
  List.forall_mem_cons

theorem isForm_append {v : List Symbol} : g.IsForm (u ++ v) ↔ g.IsForm u ∧ g.IsForm v :=
  List.forall_mem_append

/-- The body of a production is over declared symbols. -/
theorem isForm_body {p : Production} (member : p ∈ g.rules) : g.IsForm p.body := by
  unfold Production.body
  split
  · exact List.forall_mem_nil _
  · rename_i filled
    refine (g.rhs_declared p member).resolve_left ?_
    intro lone
    exact filled (by simp [Production.isEpsilon, lone])

/-- So is what stands behind a symbol of the body. -/
theorem isForm_rest {p : Production} (member : p ∈ g.rules) {before rest : List Symbol}
    (body : p.body = before ++ x :: rest) : g.IsForm rest := by
  have whole := isForm_body member
  rw [body] at whole
  exact (isForm_cons.mp (isForm_append.mp whole).2).2

theorem epsilon_not_terminal : epsilon ∉ g.terminals := fun declared =>
  g.terminal_not_reserved epsilon declared Declaration.epsilon_mem_reserved

theorem epsilon_not_nonterminal : epsilon ∉ g.nonterminals := fun declared =>
  g.nonterminal_not_reserved epsilon declared Declaration.epsilon_mem_reserved

theorem terminal_ne_epsilon (terminal : t ∈ g.terminals) : t ≠ epsilon := fun same =>
  epsilon_not_terminal (same ▸ terminal)

/-- The names that have a FIRST set, in the order of the seed. -/
def firstNames (g : Grammar) : List Symbol := g.terminals ++ epsilon :: g.nonterminals

theorem nonterminal_mem_firstNames (nonterminal : x ∈ g.nonterminals) : x ∈ g.firstNames :=
  List.mem_append_right _ (List.mem_cons_of_mem _ nonterminal)

/-- The symbol is one that a string begins with, or the mark of one that vanishes. -/
def Announces (g : Grammar) (u : List Symbol) (t : Symbol) : Prop :=
  t = epsilon ∧ g.Vanishes u ∨ t ∈ g.terminals ∧ g.Begins t u

/-- What every pass keeps for a name and its set. Only the sets of nonterminals
ever grow. -/
def FirstSound (g : Grammar) (x : Symbol) (set : List Symbol) : Prop :=
  set.Nodup ∧ if x ∈ g.nonterminals then ∀ t ∈ set, g.Announces [x] t else set = [x]

/-- A family of FIRST sets on the way to the fixed point. -/
abbrev FirstFamily (g : Grammar) (first : SymbolSets) : Prop :=
  first.Holds g.firstNames g.FirstSound

section Sound

variable {first : SymbolSets}

theorem FirstFamily.get_nonterminal (family : g.FirstFamily first) (member : x ∈ g.nonterminals) :
    ∀ t ∈ first.get x, g.Announces [x] t := by
  have sound := (family.get (nonterminal_mem_firstNames member)).2
  simpa only [member, if_true] using sound

theorem FirstFamily.get_terminal (family : g.FirstFamily first) (member : x ∈ g.terminals) :
    first.get x = [x] := by
  have sound := (family.get (List.mem_append_left _ member)).2
  simpa only [g.disjoint x member, if_false] using sound

theorem FirstFamily.get_epsilon (family : g.FirstFamily first) :
    first.get epsilon = [epsilon] := by
  have sound := (family.get (List.mem_append_right _ List.mem_cons_self)).2
  simpa only [epsilon_not_nonterminal, if_false] using sound

/-- Every symbol of FIRST of a string is announced by the string. -/
theorem FirstFamily.ofSequence (family : g.FirstFamily first) (form : g.IsForm u) :
    ∀ t ∈ first.ofSequence u, g.Announces u t := by
  induction u with
  | nil =>
    intro t member
    exact Or.inl ⟨List.mem_singleton.mp member, .nil⟩
  | cons x rest inductionHypothesis =>
    obtain ⟨declared, restForm⟩ := isForm_cons.mp form
    have head : ∀ t ∈ first.get x, g.Announces [x] t := by
      rcases declared with terminal | nonterminal
      · intro t member
        rw [family.get_terminal terminal, List.mem_singleton] at member
        exact Or.inr ⟨member ▸ terminal, member ▸ .here []⟩
      · exact family.get_nonterminal nonterminal
    have vanishes : epsilon ∈ first.get x → g.Vanishes [x] := fun mark =>
      (head epsilon mark).elim And.right (fun terminal => absurd terminal.1 epsilon_not_terminal)
    intro t member
    by_cases mark : t = epsilon
    · subst mark
      obtain ⟨inHead, inRest⟩ := SymbolSets.epsilon_mem_ofSequence_cons.mp member
      rcases inductionHypothesis restForm epsilon inRest with ⟨_, gone⟩ | ⟨terminal, _⟩
      · exact Or.inl ⟨rfl, vanishes_cons.mpr ⟨vanishes inHead, gone⟩⟩
      · exact absurd terminal epsilon_not_terminal
    · right
      rcases (SymbolSets.mem_ofSequence_cons mark).mp member with inHead | ⟨inHead, inRest⟩
      · obtain ⟨terminal, begins⟩ := (head t inHead).resolve_left (fun same => mark same.1)
        exact ⟨terminal, begins_cons.mpr (Or.inl begins)⟩
      · obtain ⟨terminal, begins⟩ :=
          (inductionHypothesis restForm t inRest).resolve_left (fun same => mark same.1)
        exact ⟨terminal, .past (vanishes inHead) begins⟩

/-- The lone `ε` and the empty body have the same FIRST. -/
theorem FirstFamily.ofSequence_rhs (family : g.FirstFamily first) (p : Production) :
    first.ofSequence p.rhs = first.ofSequence p.body := by
  unfold Production.body
  split
  · rename_i lone
    have rhs : p.rhs = [epsilon] := by simpa only [Production.isEpsilon, beq_iff_eq] using lone
    rw [rhs]
    simp only [SymbolSets.ofSequence, family.get_epsilon]
    decide
  · rfl

/-- A production offers its left side only what the left side announces. -/
theorem FirstFamily.step (family : g.FirstFamily first) {p : Production} (member : p ∈ g.rules) :
    g.FirstFamily (firstStep first p) := by
  refine family.extend ?_
  rintro set ⟨unique, sound⟩
  have declared := g.lhs_declared p member
  simp only [declared, if_true] at sound
  refine ⟨Finite.adjoinAll_nodup unique, ?_⟩
  simp only [declared, if_true, family.ofSequence_rhs, Finite.mem_adjoinAll]
  rintro t (old | offered)
  · exact sound t old
  · rcases family.ofSequence (isForm_body member) t offered with ⟨mark, gone⟩ | ⟨terminal, begins⟩
    · exact Or.inl ⟨mark, .cons member gone .nil⟩
    · exact Or.inr ⟨terminal, .into member begins⟩

theorem FirstFamily.pass (family : g.FirstFamily first) : g.FirstFamily (g.firstPass first) :=
  List.foldlRecOn _ _ family (fun _ held _ member => held.step (mem_allProductions.mp member))

end Sound

/-- The seed is such a family: nothing is in the sets of nonterminals. -/
theorem firstSeed_family : g.FirstFamily g.firstSeed := by
  constructor
  · simp [SymbolSets.keys, firstSeed, firstNames, Function.comp_def]
  · intro entry member
    simp only [firstSeed, List.mem_append, List.mem_map, List.mem_cons] at member
    rcases member with ⟨x, terminal, rfl⟩ | rfl | ⟨x, nonterminal, rfl⟩
    · simp [FirstSound, g.disjoint x terminal]
    · simp [FirstSound, epsilon_not_nonterminal]
    · simp [FirstSound, nonterminal]

theorem first_family : g.FirstFamily g.first :=
  Finite.saturate_invariant (fun _ family => family.pass) g.passBound firstSeed_family

/-- A bound on the set of each name. -/
def firstCap (g : Grammar) (x : Symbol) : Nat :=
  if x ∈ g.nonterminals then g.terminals.length + 1 else 1

theorem FirstSound.length_le {set : List Symbol} (sound : g.FirstSound x set) :
    set.length ≤ g.firstCap x := by
  obtain ⟨unique, content⟩ := sound
  unfold firstCap
  split at content
  · rename_i nonterminal
    have inside : set ⊆ epsilon :: g.terminals := by
      intro t member
      rcases content t member with ⟨rfl, _⟩ | ⟨terminal, _⟩
      · exact List.mem_cons_self
      · exact List.mem_cons_of_mem _ terminal
    simpa [nonterminal] using unique.length_le_of_subset inside
  · rename_i other
    simp [other, content]

/-- The bounds leave the nonterminals room for as many elements as there are
passes but one. -/
theorem firstCap_total :
    Finite.total g.firstCap g.firstNames + 1 = g.firstSeed.size + g.passBound := by
  have terminals : Finite.total g.firstCap g.terminals = g.terminals.length * 1 :=
    Finite.total_eq_mul (fun x member => by simp [firstCap, g.disjoint x member])
  have nonterminals : Finite.total g.firstCap g.nonterminals =
      g.nonterminals.length * (g.terminals.length + 1) :=
    Finite.total_eq_mul (fun x member => by simp [firstCap, member])
  have mark : g.firstCap epsilon = 1 := by simp [firstCap, epsilon_not_nonterminal]
  have full : Finite.total (fun _ => 1) g.terminals = g.terminals.length * 1 :=
    Finite.total_eq_mul (fun _ _ => rfl)
  have empty : Finite.total (fun _ => 0) g.nonterminals = g.nonterminals.length * 0 :=
    Finite.total_eq_mul (fun _ _ => rfl)
  have seed : g.firstSeed.size = g.terminals.length * 1 + (1 + g.nonterminals.length * 0) := by
    simp only [firstSeed, SymbolSets.size, Finite.total_append, Finite.total, Finite.total_map,
      List.length_singleton, List.length_nil, full, empty]
  rw [firstNames, Finite.total_append, Finite.total, terminals, nonterminals, mark, seed, passBound]
  omega

theorem firstStep_inflates (p : Production) : Finite.Inflates SymbolSets.size (firstStep · p) :=
  fun first => SymbolSets.extend_inflates p.lhs (first.ofSequence p.rhs) first

theorem firstPass_inflates : Finite.Inflates SymbolSets.size g.firstPass :=
  Finite.Inflates.foldl firstStep_inflates g.allProductions

/-- One more pass over the FIRST sets changes nothing. -/
theorem firstPass_first : g.firstPass g.first = g.first :=
  firstSeed_family.saturate_fixed (fun _ => FirstFamily.pass) firstPass_inflates
    (fun _ _ sound => sound.length_le) (by have room := g.firstCap_total; omega)

/-- At the fixed point the set of a left side holds what its bodies offer. -/
theorem ofSequence_body_subset {p : Production} (member : p ∈ g.rules) :
    ∀ t ∈ g.first.ofSequence p.body, t ∈ g.first.get p.lhs := by
  have fixed := Finite.Inflates.fixed_of_foldl firstStep_inflates g.firstPass_first p
    (mem_allProductions.mpr member)
  rw [← first_family.ofSequence_rhs]
  refine SymbolSets.subset_get_of_extend ?_ fixed
  rw [first_family.keys_eq]
  exact nonterminal_mem_firstNames (g.lhs_declared p member)

/-- A vanishing string has `ε` in its FIRST. -/
theorem epsilon_mem_of_vanishes (gone : g.Vanishes u) : epsilon ∈ g.first.ofSequence u := by
  induction gone with
  | nil => exact SymbolSets.epsilon_mem_ofSequence_nil
  | cons member _ _ body tail =>
    exact SymbolSets.epsilon_mem_ofSequence_cons.mpr
      ⟨ofSequence_body_subset member _ body, tail⟩

/-- A terminal that a string begins with is in its FIRST. -/
theorem mem_of_begins (terminal : t ∈ g.terminals) (begins : g.Begins t u) :
    t ∈ g.first.ofSequence u := by
  have other := terminal_ne_epsilon terminal
  induction begins with
  | here rest =>
    refine (SymbolSets.mem_ofSequence_cons other).mpr (Or.inl ?_)
    rw [first_family.get_terminal terminal]
    exact List.mem_cons_self
  | into member _ body =>
    exact (SymbolSets.mem_ofSequence_cons other).mpr (Or.inl (ofSequence_body_subset member t body))
  | past gone _ tail =>
    refine (SymbolSets.mem_ofSequence_cons other).mpr (Or.inr ⟨?_, tail⟩)
    exact (SymbolSets.epsilon_mem_ofSequence_cons.mp (epsilon_mem_of_vanishes gone)).1

/-- FIRST of a string of declared symbols holds exactly the terminals that it
begins with, and `ε` exactly when it vanishes. -/
theorem mem_first_iff (form : g.IsForm u) : t ∈ g.first.ofSequence u ↔ g.Announces u t := by
  constructor
  · exact first_family.ofSequence form t
  · rintro (⟨rfl, gone⟩ | ⟨terminal, begins⟩)
    · exact epsilon_mem_of_vanishes gone
    · exact mem_of_begins terminal begins

theorem epsilon_mem_first_iff (form : g.IsForm u) :
    epsilon ∈ g.first.ofSequence u ↔ g.DerivesEmpty u := by
  rw [mem_first_iff form, ← vanishes_iff]
  constructor
  · rintro (⟨_, gone⟩ | ⟨terminal, _⟩)
    · exact gone
    · exact absurd terminal epsilon_not_terminal
  · exact fun gone => Or.inl ⟨rfl, gone⟩

theorem mem_first_iff_canBegin (form : g.IsForm u) (other : t ≠ epsilon) :
    t ∈ g.first.ofSequence u ↔ g.CanBegin u t := by
  rw [mem_first_iff form, canBegin_iff]
  constructor
  · exact fun announced => announced.resolve_left (fun same => other same.1)
  · exact Or.inr

/-- The string that a sequence of names stands for: `ε` is written for the empty
string. -/
def plain (names : List Symbol) : List Symbol := Finite.without names [epsilon]

theorem plain_epsilon_cons (rest : List Symbol) : plain (epsilon :: rest) = plain rest := by
  simp [plain, Finite.without]

theorem plain_cons (other : x ≠ epsilon) (rest : List Symbol) :
    plain (x :: rest) = x :: plain rest := by
  simp [plain, Finite.without, other]

/-- Names that have a FIRST set stand for a string of declared symbols. -/
theorem isForm_plain (known : ∀ x ∈ u, x ∈ g.firstNames) : g.IsForm (plain u) := by
  intro x member
  obtain ⟨present, other⟩ := Finite.mem_without.mp member
  have mark : x ≠ epsilon := fun same => other (List.mem_singleton.mpr same)
  simpa [firstNames, mark] using known x present

/-- FIRST of a sequence is FIRST of the string that it stands for. -/
theorem mem_ofSequence_plain : t ∈ g.first.ofSequence (plain u) ↔ t ∈ g.first.ofSequence u := by
  induction u generalizing t with
  | nil => rfl
  | cons x rest inductionHypothesis =>
    by_cases mark : x = epsilon
    · subst mark
      rw [plain_epsilon_cons, inductionHypothesis, SymbolSets.ofSequence, first_family.get_epsilon]
      simp [Finite.mem_adjoinAll, Finite.mem_without]
    · rw [plain_cons mark, SymbolSets.ofSequence, SymbolSets.ofSequence]
      split
      · simp only [Finite.mem_adjoinAll, inductionHypothesis]
      · rfl

/-- FIRST of a lone name is its set. -/
theorem mem_ofSequence_singleton {first : SymbolSets} :
    t ∈ first.ofSequence [x] ↔ t ∈ first.get x := by
  by_cases mark : t = epsilon
  · subst mark
    rw [SymbolSets.epsilon_mem_ofSequence_cons]
    exact and_iff_left SymbolSets.epsilon_mem_ofSequence_nil
  · rw [SymbolSets.mem_ofSequence_cons mark]
    simp [SymbolSets.ofSequence, mark]

/-- A set is FIRST of a string: a terminal is in it exactly when the string derives
one that begins with it, `ε` exactly when the string derives the empty one, and
nothing else is in it. -/
structure IsFirstOf (g : Grammar) (u set : List Symbol) : Prop where
  terminal_iff : ∀ t ∈ g.terminals, t ∈ set ↔ g.CanBegin u t
  epsilon_iff : epsilon ∈ set ↔ g.DerivesEmpty u
  nothing_else : ∀ t ∈ set, t ∈ g.terminals ∨ t = epsilon

theorem isFirstOf_ofSequence (form : g.IsForm u) : g.IsFirstOf u (g.first.ofSequence u) where
  terminal_iff := fun _ terminal => mem_first_iff_canBegin form (terminal_ne_epsilon terminal)
  epsilon_iff := epsilon_mem_first_iff form
  nothing_else := by
    intro t member
    rcases (mem_first_iff form).mp member with ⟨mark, _⟩ | ⟨terminal, _⟩
    · exact Or.inr mark
    · exact Or.inl terminal

theorem IsFirstOf.congr {set other : List Symbol} (same : ∀ t, t ∈ other ↔ t ∈ set)
    (exact : g.IsFirstOf u set) : g.IsFirstOf u other where
  terminal_iff := fun t terminal => (same t).trans (exact.terminal_iff t terminal)
  epsilon_iff := (same epsilon).trans exact.epsilon_iff
  nothing_else := fun t member => exact.nothing_else t ((same t).mp member)

/-- The set of a name is FIRST of the string that it stands for. -/
theorem isFirstOf_get (known : x ∈ g.firstNames) : g.IsFirstOf (plain [x]) (g.first.get x) := by
  have form : g.IsForm (plain [x]) := by
    refine isForm_plain ?_
    intro y member
    exact List.mem_singleton.mp member ▸ known
  refine (isFirstOf_ofSequence form).congr ?_
  intro t
  rw [mem_ofSequence_plain, mem_ofSequence_singleton]

/-- The set of a nonterminal is FIRST of the nonterminal. -/
theorem isFirstOf_nonterminal (nonterminal : x ∈ g.nonterminals) :
    g.IsFirstOf [x] (g.first.get x) := by
  have other : x ≠ epsilon := fun same => epsilon_not_nonterminal (same ▸ nonterminal)
  have exact := isFirstOf_get (nonterminal_mem_firstNames nonterminal)
  rwa [plain_cons other [], plain] at exact

theorem first?_first (known : x ∈ g.firstNames) : g.first.first? x = .ok (g.first.get x) :=
  SymbolSets.first?_eq_ok (first_family.keys_eq.symm ▸ known)

theorem nullable?_first (known : x ∈ g.firstNames) :
    g.first.nullable? x = .ok (decide (epsilon ∈ g.first.get x)) :=
  SymbolSets.nullable?_eq_ok (first_family.keys_eq.symm ▸ known)

/-- Every sequence of names that have a FIRST set has an answer, and the answer is
FIRST of the string that the sequence stands for. The same holds of each such name
alone, and the question whether it derives the empty string is answered rightly. -/
theorem first_answers_are_exact (g : Grammar) :
    (∀ names, (∀ x ∈ names, x ∈ g.firstNames) →
      ∃ set, g.first.sequence? names = .ok set ∧ g.IsFirstOf (plain names) set) ∧
    ∀ x ∈ g.firstNames,
      (∃ set, g.first.first? x = .ok set ∧ g.IsFirstOf (plain [x]) set) ∧
      ∃ vanishes, g.first.nullable? x = .ok vanishes ∧
        (vanishes = true ↔ g.DerivesEmpty (plain [x])) := by
  constructor
  · intro names known
    have exact := isFirstOf_ofSequence (isForm_plain known)
    have answer := g.first.sequence?_eq_ok (first_family.keys_eq.symm ▸ known)
    exact ⟨_, answer, exact.congr (fun _ => mem_ofSequence_plain.symm)⟩
  · intro x known
    have exact := isFirstOf_get known
    refine ⟨⟨_, first?_first known, exact⟩, _, nullable?_first known, ?_⟩
    rw [decide_eq_true_eq]
    exact exact.epsilon_iff

/-- A tangle of recursions: `A` is replaced by itself or vanishes, `S` comes back
behind the vanishing `A`, and `U` never comes to an end and is never reached. -/
def tangle : Grammar where
  terminals := ["x", "y"]
  nonterminals := ["A", "S", "U"]
  start := "S"
  rules := [⟨"S", ["A", "S", "x"]⟩, ⟨"S", ["y"]⟩, ⟨"A", ["A"]⟩, ⟨"A", [epsilon]⟩, ⟨"U", ["U", "x"]⟩]
  terminals_set := ⟨by decide, by decide⟩
  nonterminals_set := ⟨by decide, by decide⟩
  terminals_ne_nil := by decide
  disjoint := by decide
  terminal_not_reserved := by decide
  nonterminal_not_reserved := by decide
  start_declared := by decide
  rules_nodup := by decide
  lhs_declared := by decide
  rhs_ne_nil := by decide
  rhs_declared := by decide
  has_rule := by decide

/-- In the tangle `A S` begins with `y` and with nothing else, `A` vanishes, and
`U` begins with nothing. -/
theorem tangle_first : (∀ x ∈ ["A", "S"], x ∈ tangle.firstNames) ∧ "A" ∈ tangle.firstNames ∧
    tangle.first.sequence? ["A", "S"] = .ok ["y"] ∧ tangle.CanBegin ["A", "S"] "y" ∧
    ¬ tangle.CanBegin ["A", "S"] "x" ∧ tangle.DerivesEmpty ["A"] := by
  obtain ⟨sequences, names⟩ := first_answers_are_exact tangle
  have known : ∀ x ∈ ["A", "S"], x ∈ tangle.firstNames := by decide
  have answer : tangle.first.sequence? ["A", "S"] = .ok ["y"] := rfl
  obtain ⟨set, found, exact⟩ := sequences ["A", "S"] known
  obtain rfl : ["y"] = set := Except.ok.inj (answer.symm.trans found)
  obtain ⟨_, vanishes, reply, vanishes_iff⟩ := names "A" (known "A" (by decide))
  have yes : tangle.first.nullable? "A" = .ok true := rfl
  obtain rfl : true = vanishes := Except.ok.inj (yes.symm.trans reply)
  exact ⟨known, known "A" (by decide), answer, (exact.terminal_iff "y" (by decide)).mp (by decide),
    fun begins => absurd ((exact.terminal_iff "x" (by decide)).mpr begins) (by decide),
    vanishes_iff.mp rfl⟩

end Grammar

end Predictive
