import Predictive.Grammar.Follow
import Predictive.Proofs.FirstExact

/-!
# FOLLOW is exact

Every pass of FOLLOW keeps the sets sound: what is in the set of a nonterminal
can stand right behind it in a derived string, or is `$` and the nonterminal can
stand last. As with FIRST, the sets stay within a finite alphabet and the passes
reach a fixed point.

For the converse, call a string settled when each of its nonterminals has in its
set whatever the rest of the string begins with. At the fixed point a derivation
step keeps strings settled. The string of a single nonterminal is settled, and so
is the start symbol with `$` behind it; whatever can follow a nonterminal does so
in a string derived from one of these. So the answer for every nonterminal is exact,
whether or not the start symbol reaches it.
-/

namespace Predictive.Grammar

variable {g : Grammar} {u v : List Symbol} {t x : Symbol}

/-- The symbol can stand behind a nonterminal, or is the mark of one that can
stand last. -/
def Succeeds (g : Grammar) (x t : Symbol) : Prop :=
  g.CanFollow x t ∨ t = endMarker ∧ g.CanEnd x

/-- What every pass keeps for a nonterminal and its set. -/
def FollowSound (g : Grammar) (x : Symbol) (set : List Symbol) : Prop :=
  set.Nodup ∧ ∀ t ∈ set, g.Succeeds x t

/-- A family of FOLLOW sets on the way to the fixed point. -/
abbrev FollowFamily (g : Grammar) (follow : SymbolSets) : Prop :=
  follow.Holds g.nonterminals g.FollowSound

theorem mem_followOffer {first follow : SymbolSets} {lhs : Symbol} {rest : List Symbol} :
    t ∈ followOffer first follow lhs rest ↔ t ∈ first.ofSequence rest ∧ t ≠ epsilon ∨
      epsilon ∈ first.ofSequence rest ∧ t ∈ follow.get lhs := by
  unfold followOffer
  split <;> simp [Finite.mem_without, *]

/-- What begins the rest of a body can follow a symbol of the body. -/
theorem canFollow_of_body {p : Production} (member : p ∈ g.rules) {before rest : List Symbol}
    (body : p.body = before ++ x :: rest) (begins : g.CanBegin rest t) : g.CanFollow x t := by
  obtain ⟨terminal, after, steps⟩ := begins
  refine ⟨terminal, p.lhs, g.lhs_declared p member, before, after, ?_⟩
  have inBody := steps.surround (before ++ [x]) []
  simp only [List.append_nil, List.append_assoc, List.singleton_append] at inBody
  exact (Derives.of_mem member).trans (body ▸ inBody)

/-- Behind a rest that derives the empty string stands what stands behind the
left side. -/
theorem succeeds_of_body {p : Production} (member : p ∈ g.rules) {before rest : List Symbol}
    (body : p.body = before ++ x :: rest) (gone : g.DerivesEmpty rest)
    (outer : g.Succeeds p.lhs t) : g.Succeeds x t := by
  have shrinks : g.Derives [p.lhs] (before ++ [x]) := by
    have inBody := Derives.surround gone (before ++ [x]) []
    simp only [List.append_nil, List.append_assoc, List.singleton_append] at inBody
    exact (Derives.of_mem member).trans (body ▸ inBody)
  rcases outer with ⟨terminal, c, declared, front, back, steps⟩ | ⟨mark, front, steps⟩
  · refine Or.inl ⟨terminal, c, declared, front ++ before, back, steps.trans ?_⟩
    simpa using shrinks.surround front (t :: back)
  · refine Or.inr ⟨mark, front ++ before, steps.trans ?_⟩
    simpa using shrinks.surround front []

/-- An occurrence in a body offers its symbol only what can stand behind it. -/
theorem FollowFamily.offer {follow : SymbolSets} (family : g.FollowFamily follow) {p : Production}
    (member : p ∈ g.rules) {before rest : List Symbol} (body : p.body = before ++ x :: rest) :
    ∀ t ∈ followOffer g.first follow p.lhs rest, g.Succeeds x t := by
  have form := isForm_rest member body
  intro t offered
  rcases mem_followOffer.mp offered with ⟨inFirst, other⟩ | ⟨mark, inFollow⟩
  · exact Or.inl (canFollow_of_body member body ((mem_first_iff_canBegin form other).mp inFirst))
  · exact succeeds_of_body member body ((epsilon_mem_first_iff form).mp mark)
      ((family.get (g.lhs_declared p member)).2 t inFollow)

/-- The occurrences in the rest of a body keep the family sound. -/
theorem FollowFamily.body {p : Production} (member : p ∈ g.rules) {before rest : List Symbol}
    (body : p.body = before ++ rest) {follow : SymbolSets} (family : g.FollowFamily follow) :
    g.FollowFamily (followBody g.first p.lhs rest follow) := by
  induction rest generalizing before follow with
  | nil => exact family
  | cons x rest inductionHypothesis =>
    have behind : p.body = (before ++ [x]) ++ rest := by simpa using body
    refine inductionHypothesis behind (family.extend ?_)
    rintro set ⟨unique, sound⟩
    refine ⟨Finite.adjoinAll_nodup unique, ?_⟩
    intro t present
    rcases Finite.mem_adjoinAll.mp present with old | offered
    · exact sound t old
    · exact family.offer member body t offered

theorem FollowFamily.pass {follow : SymbolSets} (family : g.FollowFamily follow) :
    g.FollowFamily (g.followPass g.first follow) :=
  List.foldlRecOn _ _ family
    (fun _ held p member => held.body (mem_allProductions.mp member) (List.nil_append p.body).symm)

/-- The seed is such a family: `$` can follow the start symbol. -/
theorem followSeed_family : g.FollowFamily g.followSeed := by
  have empty : g.FollowFamily (g.nonterminals.map (fun a => (a, []))) := by
    constructor
    · simp [SymbolSets.keys, Function.comp_def]
    · intro entry member
      obtain ⟨x, _, rfl⟩ := List.mem_map.mp member
      exact ⟨List.nodup_nil, by simp⟩
  refine empty.extend ?_
  rintro set ⟨unique, sound⟩
  refine ⟨Finite.adjoinAll_nodup unique, ?_⟩
  intro t present
  rcases Finite.mem_adjoinAll.mp present with old | offered
  · exact sound t old
  · exact Or.inr ⟨List.mem_singleton.mp offered, [], .refl _⟩

theorem follow_family : g.FollowFamily g.follow :=
  Finite.saturate_invariant (fun _ family => FollowFamily.pass family) g.passBound followSeed_family

theorem FollowSound.length_le {set : List Symbol} (sound : g.FollowSound x set) :
    set.length ≤ g.terminals.length + 1 := by
  have inside : set ⊆ endMarker :: g.terminals := by
    intro t member
    rcases sound.2 t member with ⟨terminal, _⟩ | ⟨rfl, _⟩
    · exact List.mem_cons_of_mem _ terminal
    · exact List.mem_cons_self
  simpa using sound.1.length_le_of_subset inside

/-- An offer is made from the family that it extends. -/
theorem followOffer_inflates (first : SymbolSets) (lhs x : Symbol) (rest : List Symbol) :
    Finite.Inflates SymbolSets.size
      (fun follow => follow.extend x (followOffer first follow lhs rest)) :=
  fun follow => SymbolSets.extend_inflates x (followOffer first follow lhs rest) follow

theorem followBody_inflates (first : SymbolSets) (lhs : Symbol) (body : List Symbol) :
    Finite.Inflates SymbolSets.size (followBody first lhs body) := by
  induction body with
  | nil => exact fun _ => Or.inl rfl
  | cons x rest inductionHypothesis =>
    exact (followOffer_inflates first lhs x rest).comp inductionHypothesis

theorem followStep_inflates (first : SymbolSets) (p : Production) :
    Finite.Inflates SymbolSets.size (followStep first · p) :=
  followBody_inflates first p.lhs p.body

theorem followPass_inflates (first : SymbolSets) :
    Finite.Inflates SymbolSets.size (g.followPass first) :=
  Finite.Inflates.foldl (followStep_inflates first) g.allProductions

/-- One more pass over the FOLLOW sets changes nothing. -/
theorem followPass_follow : g.followPass g.first g.follow = g.follow := by
  refine followSeed_family.saturate_fixed (fun _ => FollowFamily.pass) (followPass_inflates g.first)
    (fun _ _ sound => sound.length_le) ?_
  rw [Finite.total_eq_mul (fun _ _ => rfl), passBound]
  omega

/-- A body that changes nothing offers nothing new at any occurrence. -/
theorem followBody_fixed {first follow : SymbolSets} {lhs : Symbol} {before rest body : List Symbol}
    (split : body = before ++ x :: rest) (fixed : followBody first lhs body follow = follow) :
    follow.extend x (followOffer first follow lhs rest) = follow := by
  induction before generalizing body with
  | nil =>
    subst split
    have head := followOffer_inflates first lhs x rest
    exact (head.fixed_of_comp (followBody_inflates first lhs rest) fixed).1
  | cons y before inductionHypothesis =>
    subst split
    have head := followOffer_inflates first lhs y (before ++ x :: rest)
    exact inductionHypothesis rfl (head.fixed_of_comp (followBody_inflates first lhs _) fixed).2

/-- At the fixed point the set of a nonterminal holds what its occurrences offer. -/
theorem followOffer_subset {p : Production} (member : p ∈ g.rules) {before rest : List Symbol}
    (body : p.body = before ++ x :: rest) (nonterminal : x ∈ g.nonterminals) :
    ∀ t ∈ followOffer g.first g.follow p.lhs rest, t ∈ g.follow.get x := by
  have fixed := Finite.Inflates.fixed_of_foldl (followStep_inflates g.first) g.followPass_follow p
    (mem_allProductions.mpr member)
  refine SymbolSets.subset_get_of_extend ?_ (followBody_fixed body fixed)
  rw [follow_family.keys_eq]
  exact nonterminal

/-- Terminals and the end marker. -/
def IsLookahead (g : Grammar) (t : Symbol) : Prop := t ∈ g.terminals ∨ t = endMarker

/-- The sets of the nonterminals in a string hold what stands behind them there. -/
def Settled (g : Grammar) (u : List Symbol) : Prop :=
  ∀ before x after, u = before ++ x :: after → x ∈ g.nonterminals →
    ∀ t, g.IsLookahead t → g.Begins t after → t ∈ g.follow.get x

/-- A string of declared symbols begins with declared symbols. -/
theorem declared_of_begins (form : g.IsForm u) (begins : g.Begins t u) :
    t ∈ g.terminals ∨ t ∈ g.nonterminals := by
  induction begins with
  | here rest => exact (isForm_cons.mp form).1
  | into member _ inductionHypothesis => exact inductionHypothesis (isForm_body member)
  | past _ _ inductionHypothesis => exact inductionHypothesis (isForm_cons.mp form).2

theorem endMarker_not_nonterminal : endMarker ∉ g.nonterminals := fun declared =>
  g.nonterminal_not_reserved endMarker declared (by decide)

theorem endMarker_not_terminal : endMarker ∉ g.terminals := fun declared =>
  g.terminal_not_reserved endMarker declared (by decide)

/-- A lookahead that begins a string of declared symbols is a terminal. -/
theorem terminal_of_begins (form : g.IsForm u) (lookahead : g.IsLookahead t)
    (begins : g.Begins t u) : t ∈ g.terminals := by
  rcases lookahead with terminal | rfl
  · exact terminal
  · exact (declared_of_begins form begins).resolve_right endMarker_not_nonterminal

/-- A lookahead that an occurrence has behind it inside the body, or behind the
left side when the rest of the body vanishes, is in its set. -/
theorem Settled.body {before after : List Symbol} {p : Production} (member : p ∈ g.rules)
    (settled : g.Settled (before ++ p.lhs :: after)) {front rest : List Symbol}
    (body : p.body = front ++ x :: rest) (nonterminal : x ∈ g.nonterminals)
    (lookahead : g.IsLookahead t) (begins : g.Begins t (rest ++ after)) :
    t ∈ g.follow.get x := by
  have form := isForm_rest member body
  refine followOffer_subset member body nonterminal t (mem_followOffer.mpr ?_)
  rcases begins_append.mp begins with inRest | ⟨gone, inAfter⟩
  · have terminal := terminal_of_begins form lookahead inRest
    exact Or.inl ⟨mem_of_begins terminal inRest, terminal_ne_epsilon terminal⟩
  · exact Or.inr ⟨epsilon_mem_of_vanishes gone,
      settled before p.lhs after rfl (g.lhs_declared p member) t lookahead inAfter⟩

/-- A step keeps strings settled. The occurrence lies in front of the replaced
left side, inside the body put in its place, or behind it. -/
theorem Settled.step (one : g.Step u v) (settled : g.Settled u) : g.Settled v := by
  cases one with
  | @apply before behind p member =>
    intro front x after split nonterminal t lookahead begins
    rcases occurrence_of_append split with ⟨inner, rfl, rfl⟩ | ⟨inner, rfl, inRest⟩
    · -- The step took place behind it, and took no beginnings away there.
      have earlier : (front ++ x :: inner) ++ p.lhs :: behind =
          front ++ x :: (inner ++ p.lhs :: behind) := by simp
      have there : g.Step (inner ++ p.lhs :: behind) (inner ++ (p.body ++ behind)) :=
        .apply inner behind member
      exact settled front x _ earlier nonterminal t lookahead (there.begins begins)
    · rcases occurrence_of_append inRest with ⟨rest, inBody, rfl⟩ | ⟨rest, rfl, rfl⟩
      · exact settled.body member inBody nonterminal lookahead begins
      · have earlier : before ++ p.lhs :: (rest ++ x :: after) =
            (before ++ p.lhs :: rest) ++ x :: after := by simp
        exact settled _ x after earlier nonterminal t lookahead begins

theorem Settled.derives (steps : g.Derives u v) (settled : g.Settled u) : g.Settled v := by
  induction steps with
  | refl _ => exact settled
  | step one _ inductionHypothesis => exact inductionHypothesis (settled.step one)

/-- Nothing stands behind a lone symbol. -/
theorem settled_singleton (x : Symbol) : g.Settled [x] := by
  intro before y after split _ t _ begins
  have last : after = [] := by
    have length := congrArg List.length split
    simp only [List.length_append, List.length_cons, List.length_nil] at length
    exact List.length_eq_zero_iff.mp (by omega)
  rw [last] at begins
  cases begins

/-- The occurrences in a body take nothing away. -/
theorem mem_followBody {first follow : SymbolSets} (lhs : Symbol) (body : List Symbol)
    (member : t ∈ follow.get x) : t ∈ (followBody first lhs body follow).get x := by
  induction body generalizing follow with
  | nil => exact member
  | cons y rest inductionHypothesis =>
    exact inductionHypothesis (SymbolSets.get_subset_get_extend y _ member)

/-- The start symbol has the end marker from the seed on. -/
theorem endMarker_mem_follow_start : endMarker ∈ g.follow.get g.start := by
  have seeded : endMarker ∈ g.followSeed.get g.start := by
    have declared : g.start ∈ SymbolSets.keys (g.nonterminals.map (fun a => (a, []))) := by
      simpa [SymbolSets.keys, Function.comp_def] using g.start_declared
    rw [followSeed, SymbolSets.get_extend declared, Finite.mem_adjoinAll]
    exact Or.inr List.mem_cons_self
  have kept : ∀ follow : SymbolSets, endMarker ∈ follow.get g.start →
      endMarker ∈ (g.followPass g.first follow).get g.start := fun _ member =>
    List.foldlRecOn (motive := fun follow : SymbolSets => endMarker ∈ follow.get g.start) _ _ member
      (fun _ held p _ => mem_followBody p.lhs p.body held)
  exact Finite.saturate_invariant kept g.passBound seeded

/-- Behind the start symbol stands the end marker. -/
theorem settled_start : g.Settled [g.start, endMarker] := by
  intro before x after split nonterminal t _ begins
  rcases before with _ | ⟨y, _ | ⟨z, before⟩⟩
  · simp only [List.nil_append, List.cons.injEq] at split
    obtain ⟨rfl, rfl⟩ := split
    rcases begins_singleton.mp begins with rfl | ⟨p, member, same, _⟩
    · exact endMarker_mem_follow_start
    · exact absurd (same ▸ g.lhs_declared p member) endMarker_not_nonterminal
  · simp only [List.cons_append, List.nil_append, List.cons.injEq] at split
    exact absurd (split.2.1 ▸ nonterminal) endMarker_not_nonterminal
  · simp at split

/-- FOLLOW of a nonterminal holds exactly the terminals that can stand right
behind it, and `$` exactly when it can stand last behind the start symbol. -/
theorem mem_follow_iff (nonterminal : x ∈ g.nonterminals) :
    t ∈ g.follow.get x ↔ g.Succeeds x t := by
  constructor
  · exact (follow_family.get nonterminal).2 t
  · rintro (⟨terminal, c, _, before, after, steps⟩ | ⟨rfl, before, steps⟩)
    · exact (settled_singleton c).derives steps before x (t :: after) rfl nonterminal t
        (Or.inl terminal) (.here after)
    · have marked := steps.append (.refl [endMarker])
      rw [List.append_assoc] at marked
      exact settled_start.derives marked before x [endMarker] rfl nonterminal endMarker
        (Or.inr rfl) (.here [])

/-- A set is FOLLOW of a nonterminal: a terminal is in it exactly when it can stand
right behind the nonterminal in a string that some nonterminal derives, `$` exactly
when the nonterminal can stand last in one that the start symbol derives, and
nothing else is in it. -/
structure IsFollowOf (g : Grammar) (b : Symbol) (set : List Symbol) : Prop where
  terminal_iff : ∀ t ∈ g.terminals, t ∈ set ↔ g.CanFollow b t
  endMarker_iff : endMarker ∈ set ↔ g.CanEnd b
  nothing_else : ∀ t ∈ set, t ∈ g.terminals ∨ t = endMarker

theorem isFollowOf_get (nonterminal : x ∈ g.nonterminals) : g.IsFollowOf x (g.follow.get x) where
  terminal_iff := by
    intro t terminal
    rw [mem_follow_iff nonterminal, Succeeds]
    have other : t ≠ endMarker := fun same => endMarker_not_terminal (same ▸ terminal)
    simp only [other, false_and, or_false]
  endMarker_iff := by
    rw [mem_follow_iff nonterminal, Succeeds]
    have inner : ¬ g.CanFollow x endMarker := fun follows => endMarker_not_terminal follows.1
    simp only [inner, false_or, true_and]
  nothing_else := by
    intro t member
    rcases (mem_follow_iff nonterminal).mp member with ⟨terminal, _⟩ | ⟨mark, _⟩
    · exact Or.inl terminal
    · exact Or.inr mark

theorem IsFollowOf.epsilon_not_mem {set : List Symbol} (exact : g.IsFollowOf x set) :
    epsilon ∉ set := by
  intro member
  rcases exact.nothing_else epsilon member with terminal | mark
  · exact epsilon_not_terminal terminal
  · exact absurd mark (by decide)

theorem IsFollowOf.nonterminal_not_mem {set : List Symbol} (exact : g.IsFollowOf x set)
    {a : Symbol} (nonterminal : a ∈ g.nonterminals) : a ∉ set := by
  intro member
  rcases exact.nothing_else a member with terminal | rfl
  · exact g.disjoint a terminal nonterminal
  · exact endMarker_not_nonterminal nonterminal

theorem follow?_follow (nonterminal : x ∈ g.nonterminals) :
    g.follow.follow? x = .ok (g.follow.get x) :=
  SymbolSets.follow?_eq_ok (follow_family.keys_eq.symm ▸ nonterminal)

/-- Every nonterminal has an answer, and the answer is its FOLLOW, without `ε` and
without nonterminals. The answer for the start symbol contains `$`. -/
theorem follow_answers_are_exact (g : Grammar) :
    (∀ b ∈ g.nonterminals, ∃ set, g.follow.follow? b = .ok set ∧ g.IsFollowOf b set ∧
      epsilon ∉ set ∧ ∀ a ∈ g.nonterminals, a ∉ set) ∧
    ∃ set, g.follow.follow? g.start = .ok set ∧ endMarker ∈ set := by
  constructor
  · intro b nonterminal
    have exact := isFollowOf_get nonterminal
    exact ⟨_, follow?_follow nonterminal, exact, exact.epsilon_not_mem,
      fun _ other => exact.nonterminal_not_mem other⟩
  · exact ⟨_, follow?_follow g.start_declared, endMarker_mem_follow_start⟩

/-- In the tangle `x` follows `U`, which the start symbol does not reach, and `U`
never stands last; `S` stands last and has `x` behind it. -/
theorem tangle_follow : "U" ∈ tangle.nonterminals ∧ "S" ∈ tangle.nonterminals ∧
    tangle.follow.follow? "U" = .ok ["x"] ∧ tangle.CanFollow "U" "x" ∧ ¬ tangle.CanEnd "U" ∧
    tangle.CanFollow "S" "x" ∧ tangle.CanEnd "S" := by
  obtain ⟨names, _⟩ := follow_answers_are_exact tangle
  have knownU : "U" ∈ tangle.nonterminals := by decide
  have knownS : "S" ∈ tangle.nonterminals := by decide
  have answerU : tangle.follow.follow? "U" = .ok ["x"] := rfl
  have answerS : tangle.follow.follow? "S" = .ok [endMarker, "x"] := rfl
  obtain ⟨set, found, exactU, _⟩ := names "U" knownU
  obtain rfl : ["x"] = set := Except.ok.inj (answerU.symm.trans found)
  obtain ⟨set, found, exactS, _⟩ := names "S" knownS
  obtain rfl : [endMarker, "x"] = set := Except.ok.inj (answerS.symm.trans found)
  have declared : "x" ∈ tangle.terminals := by decide
  exact ⟨knownU, knownS, answerU, (exactU.terminal_iff "x" declared).mp (by decide),
    fun last => absurd (exactU.endMarker_iff.mpr last) (by decide),
    (exactS.terminal_iff "x" declared).mp (by decide), exactS.endMarker_iff.mp (by decide)⟩

end Predictive.Grammar
