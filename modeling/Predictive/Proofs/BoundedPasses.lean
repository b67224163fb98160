import Predictive.Grammar.Passes
import Predictive.Proofs.FollowExact

/-!
# The passes end

A pass as it runs reads a set while it adds to it, and notices a change by the sizes of the
sets. It comes to the same as a pass that takes what it adds from the sets in front of each
step: what a set gains on the way it would only be offered again. A step that leaves the size
of its set leaves the whole family, and steps only add, so a pass that has noticed nothing
has changed nothing.

Each set stays inside a finite alphabet, which bounds the number of passes on every grammar.
-/

namespace Predictive

namespace Finite

universe u v w
variable {α : Type u} {β : Type v} {ε : Type w}

section Offers

variable [DecidableEq α] {set offered : List α}

/-- Offers one behind the other may be made together. -/
theorem adjoinAll_append (set first second : List α) :
    adjoinAll set (first ++ second) = adjoinAll (adjoinAll set first) second :=
  List.foldl_append

/-- An offer of nothing new leaves a set alone. -/
theorem adjoinAll_of_subset (known : ∀ x ∈ offered, x ∈ set) : adjoinAll set offered = set := by
  induction offered with
  | nil => rfl
  | cons x rest inductionHypothesis =>
    obtain ⟨here, later⟩ := List.forall_mem_cons.mp known
    rw [← List.singleton_append, adjoinAll_append, show adjoinAll set [x] = set from if_pos here]
    exact inductionHypothesis later

/-- A set that has grown by an offer may be offered instead of both. -/
theorem adjoinAll_adjoinAll (set first second : List α) :
    adjoinAll set (adjoinAll first second) = adjoinAll (adjoinAll set first) second := by
  induction second generalizing first with
  | nil => rfl
  | cons x rest inductionHypothesis =>
    have one : adjoinAll set (adjoin first x) = adjoin (adjoinAll set first) x := by
      unfold adjoin
      split
      · rename_i present
        rw [if_pos (mem_adjoinAll.mpr (Or.inr present))]
      · exact adjoinAll_append set first [x]
    change adjoinAll set (adjoinAll (adjoin first x) rest) = _
    rw [inductionHypothesis, one]
    rfl

end Offers

section Passes

variable [DecidableEq α] {size : α → Nat} {s : α}

/-- A step is answered by the state that a map leads to, and it is told whether that is
another one. -/
def Tells (step : Except ε (α × Bool)) (f : α → α) (s : α) : Prop :=
  step = .ok (f s, decide (f s ≠ s))

/-- Two steps tell together what they tell apart, if neither takes anything away. -/
theorem Tells.andThen {first : Except ε (α × Bool)} {next : α → Except ε (α × Bool)} {f h : α → α}
    (tells : Tells first f s) (later : Tells (next (f s)) h (f s)) (grows : Inflates size f)
    (growsLater : Inflates size h) : Tells (andThen first next) (fun s => h (f s)) s := by
  have both : decide (h (f s) ≠ s) = (decide (f s ≠ s) || decide (h (f s) ≠ f s)) := by
    by_cases same : f s = s
    · simp [same]
    · have changed : h (f s) ≠ s := fun back => same (grows.fixed_of_comp growsLater back).1
      simp [same, changed]
  rw [Tells] at tells later ⊢
  simp only [Finite.andThen, tells, later, both]

/-- Steps for the elements of a list tell together what each of them tells. -/
theorem tells_passOver {step : α → β → Except ε (α × Bool)} {f : α → β → α} {P : α → Prop}
    {xs : List β} (each : ∀ s, P s → ∀ x ∈ xs, Tells (step s x) (f · x) s)
    (kept : ∀ s, P s → ∀ x ∈ xs, P (f s x)) (grows : ∀ x, Inflates size (f · x)) (holds : P s) :
    Tells (passOver step xs s) (xs.foldl f ·) s := by
  induction xs generalizing s with
  | nil => simp [Tells, passOver]
  | cons x rest inductionHypothesis =>
    have later := inductionHypothesis
      (fun s held y member => each s held y (List.mem_cons_of_mem x member))
      (fun s held y member => kept s held y (List.mem_cons_of_mem x member))
      (kept s holds x List.mem_cons_self)
    exact (each s holds x List.mem_cons_self).andThen later (grows x) (Inflates.foldl grows rest)

/-- Passes that are told apart by what they change are made as often as a measure with a
bound allows, and lead to the saturation. -/
theorem exists_repeats {checked : α → Except ε (α × Bool)} {pass : α → α} {P : α → Prop}
    {bound : Nat} (tells : ∀ s, P s → Tells (checked s) pass s) (kept : ∀ s, P s → P (pass s))
    (bounded : ∀ s, P s → size s ≤ bound) (grows : Inflates size pass) (fuel : Nat) (holds : P s)
    (enough : bound < size s + fuel) :
    ∃ n ≤ fuel, Repeats checked s n (saturate pass fuel s) := by
  induction fuel generalizing s with
  | zero =>
    have below := bounded s holds
    omega
  | succ fuel inductionHypothesis =>
    have told := tells s holds
    unfold saturate
    split
    · rename_i fixed
      refine ⟨1, Nat.succ_le_succ (Nat.zero_le fuel), .last ?_⟩
      rw [told, fixed]
      simp
    · rename_i changed
      have more := (grows s).resolve_left changed
      obtain ⟨n, few, repeats⟩ := inductionHypothesis (kept s holds) (by omega)
      refine ⟨n + 1, Nat.succ_le_succ few, .again ?_ repeats⟩
      rw [told]
      simp [changed]

end Passes

/-- Passes come to one end, after one number of them. -/
theorem Repeats.unique {pass : α → Except ε (α × Bool)} {s t last : α} {n m : Nat}
    (first : Repeats pass s n t) (second : Repeats pass s m last) : m = n ∧ last = t := by
  induction first generalizing m last with
  | last stops =>
    cases second with
    | last again => exact ⟨rfl, (congrArg Prod.fst (Except.ok.inj (stops.symm.trans again))).symm⟩
    | again changes _ => cases stops.symm.trans changes
  | again changes _ inductionHypothesis =>
    cases second with
    | last stops => cases changes.symm.trans stops
    | again others later =>
      obtain rfl := congrArg Prod.fst (Except.ok.inj (changes.symm.trans others))
      obtain ⟨rfl, same⟩ := inductionHypothesis later
      exact ⟨rfl, same⟩

end Finite

namespace SymbolSets

variable {sets : SymbolSets} {key x : Symbol} {first second offered : List Symbol}

/-- Nothing is added under a key that is absent. -/
theorem extend_of_absent (absent : key ∉ sets.keys) (offered : List Symbol) :
    sets.extend key offered = sets := by
  rw [extend, List.map_congr_left (g := id), List.map_id]
  intro entry member
  have other : entry.1 ≠ key := fun same => absent (same ▸ List.mem_map_of_mem member)
  rw [if_neg other, id]

/-- Two extensions of one key are one. -/
theorem extend_extend (sets : SymbolSets) (key : Symbol) (first second : List Symbol) :
    (sets.extend key first).extend key second = sets.extend key (first ++ second) := by
  rw [extend, extend, extend, List.map_map]
  refine List.map_congr_left ?_
  intro entry _
  by_cases here : entry.1 = key
  · simp [here, Finite.adjoinAll_append]
  · simp [here]

/-- Under distinct keys the set of an entry is the one of its key. -/
theorem get_of_mem (unique : sets.keys.Nodup) {entry : Symbol × List Symbol}
    (member : entry ∈ sets) : sets.get entry.1 = entry.2 := by
  induction sets with
  | nil => cases member
  | cons head rest inductionHypothesis =>
    obtain ⟨name, set⟩ := head
    obtain ⟨absent, unique⟩ := List.nodup_cons.mp unique
    rw [get_cons]
    rcases List.mem_cons.mp member with rfl | later
    · simp
    · have present : entry.1 ∈ rest.map Prod.fst := List.mem_map_of_mem later
      have other : entry.1 ≠ name := fun same => absent (same ▸ present)
      rw [if_neg other, inductionHypothesis unique later]

/-- What is added under a key matters only by what becomes of its set. -/
theorem extend_congr (unique : sets.keys.Nodup)
    (same : Finite.adjoinAll (sets.get key) first = Finite.adjoinAll (sets.get key) second) :
    sets.extend key first = sets.extend key second := by
  refine List.map_congr_left ?_
  intro entry member
  by_cases here : entry.1 = key
  · rw [if_pos here, if_pos here, ← get_of_mem unique member, here, same]
  · rw [if_neg here, if_neg here]

theorem extend_nil (sets : SymbolSets) (key : Symbol) : sets.extend key [] = sets := by
  simp [extend, Finite.adjoinAll]

theorem get_extend_of_ne (other : x ≠ key) (offered : List Symbol) :
    (sets.extend key offered).get x = sets.get x := by
  simp only [get, get?_extend, other, if_false]

/-- An extension shows in the size of the set of its key. -/
theorem length_ne_iff (unique : sets.keys.Nodup) (present : key ∈ sets.keys) :
    ((sets.extend key offered).get key).length ≠ (sets.get key).length ↔
      sets.extend key offered ≠ sets := by
  refine not_congr ⟨?_, fun same => by rw [same]⟩
  intro same
  rw [get_extend present] at same
  have fixed : Finite.adjoinAll (sets.get key) offered = sets.get key := by
    rcases Finite.adjoinAll_inflates offered (sets.get key) with fixed | longer
    · exact fixed
    · exact absurd same (Nat.ne_of_gt longer)
  have nothing : sets.extend key offered = sets.extend key [] := extend_congr unique fixed
  rw [nothing, extend_nil]

/-- FIRST of a string offers the same to a set that holds what a key has gained. -/
theorem adjoinAll_ofSequence_extend (present : key ∈ sets.keys) {set : List Symbol}
    (known : ∀ t ∈ (sets.extend key offered).get key, t ∈ set) (plain : epsilon ∉ offered)
    (xs : List Symbol) :
    Finite.adjoinAll set ((sets.extend key offered).ofSequence xs) =
      Finite.adjoinAll set (sets.ofSequence xs) := by
  induction xs generalizing set with
  | nil => rfl
  | cons x rest inductionHypothesis =>
    have mark : epsilon ∈ (sets.extend key offered).get x ↔ epsilon ∈ sets.get x := by
      by_cases here : x = key
      · rw [here, get_extend present, Finite.mem_adjoinAll, or_iff_left plain]
      · rw [get_extend_of_ne here]
    have head : Finite.adjoinAll set (Finite.without ((sets.extend key offered).get x) [epsilon]) =
        Finite.adjoinAll set (Finite.without (sets.get x) [epsilon]) := by
      by_cases here : x = key
      · subst here
        have old : ∀ t ∈ sets.get x, t ∈ set := fun t member =>
          known t (get_subset_get_extend x offered member)
        rw [Finite.adjoinAll_of_subset (fun t member => known t (Finite.mem_without.mp member).1),
          Finite.adjoinAll_of_subset (fun t member => old t (Finite.mem_without.mp member).1)]
      · rw [get_extend_of_ne here]
    simp only [ofSequence, mark]
    split
    · rw [Finite.adjoinAll_adjoinAll, Finite.adjoinAll_adjoinAll, head]
      exact inductionHypothesis (fun t member => Finite.mem_adjoinAll.mpr (Or.inl (known t member)))
    · exact head

/-- A set that has just grown may join itself or another one as it was in front. -/
theorem extend_extend_get (unique : sets.keys.Nodup) (present : key ∈ sets.keys)
    (offered : List Symbol) (x : Symbol) :
    (sets.extend key offered).extend key ((sets.extend key offered).get x) =
      sets.extend key (offered ++ sets.get x) := by
  by_cases here : x = key
  · subst here
    rw [extend_extend]
    refine extend_congr unique ?_
    rw [Finite.adjoinAll_append, Finite.adjoinAll_append, get_extend present,
      Finite.adjoinAll_of_subset (fun _ member => member),
      Finite.adjoinAll_of_subset (fun _ member => Finite.mem_adjoinAll.mpr (Or.inl member))]
  · rw [get_extend_of_ne here, extend_extend]

end SymbolSets

namespace Grammar

variable {g : Grammar} {first follow : SymbolSets} {lhs x : Symbol} {xs rest : List Symbol}

/-- Going along a right side adds what its FIRST is in front of the step. -/
theorem firstAlong_eq (unique : first.keys.Nodup) (declared : lhs ∈ first.keys)
    (known : ∀ x ∈ xs, x ∈ first.keys) :
    firstAlong lhs xs first = .ok (first.extend lhs (first.ofSequence xs)) := by
  induction xs generalizing first with
  | nil => rfl
  | cons x rest inductionHypothesis =>
    obtain ⟨here, later⟩ := List.forall_mem_cons.mp known
    simp only [firstAlong, SymbolSets.get?_eq_some_get here, SymbolSets.ofSequence]
    split
    · have plain : epsilon ∉ Finite.without (first.get x) [epsilon] := by
        simp [Finite.mem_without]
      have keys := first.keys_extend lhs (Finite.without (first.get x) [epsilon])
      rw [inductionHypothesis (keys.symm ▸ unique) (keys.symm ▸ declared) (keys.symm ▸ later),
        SymbolSets.extend_extend]
      -- The rest is read behind the first symbol, and what it reads more is there already.
      refine congrArg Except.ok (SymbolSets.extend_congr unique ?_)
      rw [Finite.adjoinAll_append, Finite.adjoinAll_adjoinAll]
      refine SymbolSets.adjoinAll_ofSequence_extend declared ?_ plain rest
      rw [SymbolSets.get_extend declared]
      exact fun _ member => member
    · rfl

/-- The turn of a production tells what its step does. -/
theorem firstTurn_tells (unique : first.keys.Nodup) {p : Production} (declared : p.lhs ∈ first.keys)
    (known : ∀ x ∈ p.rhs, x ∈ first.keys) :
    Finite.Tells (firstTurn first p) (firstStep · p) first := by
  simp only [Finite.Tells, firstTurn, SymbolSets.get?_eq_some_get declared,
    firstAlong_eq unique declared known]
  exact congrArg (fun flag => Except.ok (_, flag))
    (decide_eq_decide.mpr (SymbolSets.length_ne_iff unique declared))

/-- The turn of a symbol in a body tells what it offers there. -/
theorem followTurn_tells (unique : follow.keys.Nodup) (declared : lhs ∈ follow.keys)
    (known : ∀ x ∈ rest, x ∈ first.keys) :
    Finite.Tells (followTurn first lhs x rest follow)
      (fun follow => follow.extend x (followOffer first follow lhs rest)) follow := by
  by_cases present : x ∈ follow.keys
  · have told : ∀ offered, decide (((follow.extend x offered).get x).length ≠
        (follow.get x).length) = decide (follow.extend x offered ≠ follow) := fun _ =>
      decide_eq_decide.mpr (SymbolSets.length_ne_iff unique present)
    simp only [Finite.Tells, followTurn, SymbolSets.get?_eq_some_get present,
      first.sequence?_eq_ok known, followOffer]
    split
    · have keys := follow.keys_extend x (Finite.without (first.ofSequence rest) [epsilon])
      simp only [SymbolSets.get?_eq_some_get (keys.symm ▸ declared),
        SymbolSets.extend_extend_get unique present, told]
    · simp only [List.append_nil, told]
  · simp [Finite.Tells, followTurn, SymbolSets.get?_eq_none present,
      SymbolSets.extend_of_absent present]

/-- The turns of a body tell what the occurrences in it add. -/
theorem followAlong_tells (unique : follow.keys.Nodup) (declared : lhs ∈ follow.keys)
    (known : ∀ x ∈ xs, x ∈ first.keys) :
    Finite.Tells (followAlong first lhs xs follow) (followBody first lhs xs) follow := by
  induction xs generalizing follow with
  | nil => simp [Finite.Tells, followAlong, followBody]
  | cons x rest inductionHypothesis =>
    obtain ⟨_, later⟩ := List.forall_mem_cons.mp known
    have keys := follow.keys_extend x (followOffer first follow lhs rest)
    exact (followTurn_tells unique declared later).andThen
      (inductionHypothesis (keys.symm ▸ unique) (keys.symm ▸ declared) later)
      (followOffer_inflates first lhs x rest) (followBody_inflates first lhs rest)

theorem firstNames_nodup (g : Grammar) : g.firstNames.Nodup := by
  rw [firstNames, List.nodup_append, List.nodup_cons]
  refine ⟨g.terminals_set.nodup, ⟨epsilon_not_nonterminal, g.nonterminals_set.nodup⟩, ?_⟩
  rintro x terminal y member rfl
  rcases List.mem_cons.mp member with rfl | nonterminal
  · exact epsilon_not_terminal terminal
  · exact g.disjoint x terminal nonterminal

/-- Every symbol of a right side has a FIRST set. -/
theorem mem_firstNames_of_mem_rhs {p : Production} (member : p ∈ g.rules) :
    ∀ x ∈ p.rhs, x ∈ g.firstNames := by
  intro x inside
  rcases g.rhs_declared p member with lone | declared
  · rw [lone, List.mem_singleton] at inside
    exact List.mem_append_right _ (inside ▸ List.mem_cons_self)
  · rcases declared x inside with terminal | nonterminal
    · exact List.mem_append_left _ terminal
    · exact nonterminal_mem_firstNames nonterminal

/-- A pass of FIRST as it runs is not stopped, and tells what the pass changes. -/
theorem firstPass?_tells (family : g.FirstFamily first) :
    Finite.Tells (g.firstPass? first) g.firstPass first := by
  refine Finite.tells_passOver (P := g.FirstFamily) ?_ ?_ firstStep_inflates family
  · intro sets held p member
    have stored := mem_allProductions.mp member
    refine firstTurn_tells (held.keys_eq.symm ▸ g.firstNames_nodup) ?_ ?_
    · rw [held.keys_eq]
      exact nonterminal_mem_firstNames (g.lhs_declared p stored)
    · rw [held.keys_eq]
      exact mem_firstNames_of_mem_rhs stored
  · exact fun _ held _ member => held.step (mem_allProductions.mp member)

/-- So is a pass of FOLLOW, from the FIRST sets. -/
theorem followPass?_tells (family : g.FollowFamily follow) :
    Finite.Tells (g.followPass? g.first follow) (g.followPass g.first) follow := by
  refine Finite.tells_passOver (P := g.FollowFamily) ?_ ?_ (followStep_inflates g.first) family
  · intro sets held p member
    have stored := mem_allProductions.mp member
    refine followAlong_tells (held.keys_eq.symm ▸ g.nonterminals_set.nodup) ?_ ?_
    · rw [held.keys_eq]
      exact g.lhs_declared p stored
    · intro x inside
      rw [first_family.keys_eq]
      rcases isForm_body stored x inside with terminal | nonterminal
      · exact List.mem_append_left _ terminal
      · exact nonterminal_mem_firstNames nonterminal
  · intro sets held p member
    exact held.body (mem_allProductions.mp member) (List.nil_append p.body).symm

/-- The passes of FIRST and of FOLLOW are made until one of them changes nothing. On every
grammar they are at most one more than the nonterminals times the terminals and a mark, no
set that they read is missing, they lead to the sets of the grammar, and one more pass over
these would change nothing. -/
theorem passes_are_bounded (g : Grammar) :
    (∃ n ≤ g.nonterminals.length * (g.terminals.length + 1) + 1,
      ∀ m last, Finite.Repeats g.firstPass? g.firstSeed m last ↔ m = n ∧ last = g.first) ∧
    g.firstPass? g.first = .ok (g.first, false) ∧
    (∃ n ≤ g.nonterminals.length * (g.terminals.length + 1) + 1,
      ∀ m last, Finite.Repeats (g.followPass? g.first) g.followSeed m last ↔
        m = n ∧ last = g.follow) ∧
    g.followPass? g.first g.follow = .ok (g.follow, false) := by
  refine ⟨?_, ?_, ?_, ?_⟩
  · have room := g.firstCap_total
    obtain ⟨n, few, repeats⟩ := Finite.exists_repeats (P := g.FirstFamily)
      (fun _ => firstPass?_tells) (fun _ => FirstFamily.pass)
      (fun _ held => held.size_le (fun _ _ sound => sound.length_le)) firstPass_inflates
      g.passBound firstSeed_family (by omega)
    refine ⟨n, few, fun m last => ⟨repeats.unique, ?_⟩⟩
    rintro ⟨rfl, rfl⟩
    exact repeats
  · have told := firstPass?_tells g.first_family
    rw [Finite.Tells, firstPass_first] at told
    simpa using told
  · have room : Finite.total (fun _ => g.terminals.length + 1) g.nonterminals <
        g.followSeed.size + g.passBound := by
      rw [Finite.total_eq_mul (fun _ _ => rfl), passBound]
      omega
    obtain ⟨n, few, repeats⟩ := Finite.exists_repeats (P := g.FollowFamily)
      (fun _ => followPass?_tells) (fun _ => FollowFamily.pass)
      (fun _ held => held.size_le (fun _ _ sound => sound.length_le))
      (followPass_inflates g.first) g.passBound followSeed_family room
    refine ⟨n, few, fun m last => ⟨repeats.unique, ?_⟩⟩
    rintro ⟨rfl, rfl⟩
    exact repeats
  · have told := followPass?_tells g.follow_family
    rw [Finite.Tells, followPass_follow] at told
    simpa using told

end Grammar

end Predictive
