import Predictive.Grammar.SymbolSets
import Predictive.Finite.Saturation

/-!
# Families of sets that only grow

A pass of FIRST or FOLLOW is a sequence of extensions. Each of them leaves the
family alone or makes it larger, so a sequence that ends where it began has
changed nothing on the way, and a family that is a fixed point of a pass is a
fixed point of every extension in it. What an extension keeps for every set, a
pass keeps for the family; a bound on each set then bounds the family.

The same is said of predicates that grow in stages over a finite list: once a
stage adds nothing, no later one does, so there are no more stages than elements.
-/

namespace Predictive.Finite

universe u v
variable {α : Type u} {β : Type v} {size : α → Nat}

/-- A map that leaves a state alone or makes it larger. -/
def Inflates (size : α → Nat) (f : α → α) : Prop :=
  ∀ state, f state = state ∨ size state < size (f state)

namespace Inflates

/-- Maps that come back to where they began did nothing on the way. -/
theorem fixed_of_comp {f h : α → α} (first : Inflates size f) (second : Inflates size h) {state : α}
    (back : h (f state) = state) : f state = state ∧ h state = state := by
  rcases first state with same | larger
  · exact ⟨same, by rw [same] at back; exact back⟩
  · exfalso
    rcases second (f state) with same | largest
    · rw [← same, back] at larger
      exact Nat.lt_irrefl _ larger
    · rw [back] at largest
      omega

/-- One map behind another. -/
theorem comp {f h : α → α} (first : Inflates size f) (second : Inflates size h) :
    Inflates size (fun state => h (f state)) := by
  intro state
  rcases first state with same | larger
  · simp only [same]
    exact second state
  · right
    rcases second (f state) with same | largest
    · exact Nat.lt_of_lt_of_eq larger (congrArg size same).symm
    · exact Nat.lt_trans larger largest

/-- A fold of such steps is such a map. -/
theorem foldl {step : α → β → α} (each : ∀ x, Inflates size (step · x)) (xs : List β) :
    Inflates size (xs.foldl step ·) := by
  induction xs with
  | nil => exact fun _ => Or.inl rfl
  | cons x rest inductionHypothesis => exact (each x).comp inductionHypothesis

/-- A fold that changes nothing consists of steps that change nothing. -/
theorem fixed_of_foldl {step : α → β → α} (each : ∀ x, Inflates size (step · x)) {xs : List β}
    {state : α} (fixed : xs.foldl step state = state) : ∀ x ∈ xs, step state x = state := by
  induction xs with
  | nil => simp
  | cons x rest inductionHypothesis =>
    obtain ⟨here, later⟩ := (each x).fixed_of_comp (foldl each rest) fixed
    intro y member
    rcases List.mem_cons.mp member with rfl | inRest
    · exact here
    · exact inductionHypothesis later y inRest

end Inflates

/-- Offers to a set leave it alone or make it longer. -/
theorem adjoinAll_inflates [DecidableEq α] (offered : List α) :
    Inflates List.length (adjoinAll · offered) := by
  refine Inflates.foldl ?_ offered
  intro x set
  simp only [adjoin]
  split
  · exact Or.inl rfl
  · exact Or.inr (by simp)

/-- The values of the elements of a list, added up. -/
def total (value : α → Nat) : List α → Nat
  | [] => 0
  | x :: rest => value x + total value rest

theorem total_append (value : α → Nat) (xs ys : List α) :
    total value (xs ++ ys) = total value xs + total value ys := by
  induction xs with
  | nil => simp [total]
  | cons x rest inductionHypothesis =>
    simp only [List.cons_append, total, inductionHypothesis, Nat.add_assoc]

theorem total_map (value : β → Nat) (f : α → β) (xs : List α) :
    total value (xs.map f) = total (fun x => value (f x)) xs := by
  induction xs with
  | nil => rfl
  | cons x rest inductionHypothesis => simp only [List.map_cons, total, inductionHypothesis]

theorem total_le {value bound : α → Nat} {xs : List α} (each : ∀ x ∈ xs, value x ≤ bound x) :
    total value xs ≤ total bound xs := by
  induction xs with
  | nil => exact Nat.le_refl 0
  | cons x rest inductionHypothesis =>
    obtain ⟨head, tail⟩ := List.forall_mem_cons.mp each
    exact Nat.add_le_add head (inductionHypothesis tail)

theorem total_eq_mul {value : α → Nat} {c : Nat} {xs : List α} (each : ∀ x ∈ xs, value x = c) :
    total value xs = xs.length * c := by
  induction xs with
  | nil => simp [total]
  | cons x rest inductionHypothesis =>
    obtain ⟨head, tail⟩ := List.forall_mem_cons.mp each
    rw [total, head, inductionHypothesis tail, List.length_cons, Nat.succ_mul, Nat.add_comm]

section Stages

variable {stage : Nat → α → Prop}

/-- A stage that adds nothing is the last one to look at. -/
theorem stage_of_stopped {n : Nat} (stopped : ∀ x, stage (n + 1) x → stage n x)
    (stops : ∀ n, (∀ x, stage (n + 1) x → stage n x) → ∀ x, stage (n + 2) x → stage (n + 1) x)
    (later : Nat) {x : α} (member : stage (n + later) x) : stage n x := by
  have stillStopped : ∀ later, ∀ x, stage (n + later + 1) x → stage (n + later) x := by
    intro later
    induction later with
    | zero => exact stopped
    | succ later inductionHypothesis => exact stops _ inductionHypothesis
  induction later with
  | zero => exact member
  | succ later inductionHypothesis => exact inductionHypothesis (stillStopped later x member)

/-- Until a stage adds nothing, each of them adds an element. -/
theorem stage_adds_or_stopped (grows : ∀ n x, stage n x → stage (n + 1) x) (n : Nat) :
    (∃ members : List α, members.Nodup ∧ members.length = n ∧ ∀ x ∈ members, stage n x) ∨
      ∃ m < n, ∀ x, stage (m + 1) x → stage m x := by
  induction n with
  | zero => exact Or.inl ⟨[], List.nodup_nil, rfl, by simp⟩
  | succ n inductionHypothesis =>
    rcases inductionHypothesis with ⟨members, unique, length, held⟩ | ⟨m, before, stopped⟩
    · by_cases stopped : ∀ x, stage (n + 1) x → stage n x
      · exact Or.inr ⟨n, Nat.lt_succ_self n, stopped⟩
      · left
        simp only [Classical.not_forall] at stopped
        obtain ⟨fresh, added, absent⟩ := stopped
        have different : fresh ∉ members := fun member => absent (held fresh member)
        refine ⟨fresh :: members, List.nodup_cons.mpr ⟨different, unique⟩, by simp [length], ?_⟩
        intro x member
        rcases List.mem_cons.mp member with rfl | old
        · exact added
        · exact grows n x (held x old)
    · exact Or.inr ⟨m, Nat.lt_succ_of_lt before, stopped⟩

/-- A predicate that grows in stages inside a finite list, and that stops for good
when a stage adds nothing, is complete after as many stages as the list is long. -/
theorem stage_length {elements : List α} (inside : ∀ n x, stage n x → x ∈ elements)
    (grows : ∀ n x, stage n x → stage (n + 1) x)
    (stops : ∀ n, (∀ x, stage (n + 1) x → stage n x) → ∀ x, stage (n + 2) x → stage (n + 1) x)
    {n : Nat} {x : α} (member : stage n x) : stage elements.length x := by
  have upward : ∀ later m x, stage m x → stage (m + later) x := by
    intro later m x held
    induction later with
    | zero => exact held
    | succ later inductionHypothesis => exact grows _ x inductionHypothesis
  have stopped : ∃ m < elements.length + 1, ∀ x, stage (m + 1) x → stage m x := by
    rcases stage_adds_or_stopped grows (elements.length + 1) with
      ⟨members, unique, length, held⟩ | stopped
    · have room := unique.length_le_of_subset (fun x member => inside _ x (held x member))
      omega
    · exact stopped
  obtain ⟨m, early, stopped⟩ := stopped
  have last : stage m x := stage_of_stopped stopped stops n (Nat.add_comm n m ▸ upward m n x member)
  obtain ⟨more, same⟩ := Nat.le.dest (Nat.le_of_lt_succ early)
  exact same ▸ upward more m x last

end Stages

end Predictive.Finite

namespace Predictive.SymbolSets

/-- The number of elements of all sets together. -/
def size (sets : SymbolSets) : Nat := Finite.total (fun entry => entry.2.length) sets

theorem size_cons (entry : Symbol × List Symbol) (rest : SymbolSets) :
    size (entry :: rest) = entry.2.length + size rest := rfl

/-- An extension leaves a family alone or makes it larger. -/
theorem extend_inflates (key : Symbol) (offered : List Symbol) :
    Finite.Inflates size (extend · key offered) := by
  intro sets
  induction sets with
  | nil => exact Or.inl rfl
  | cons entry rest inductionHypothesis =>
    obtain ⟨name, set⟩ := entry
    have head : (if name = key then Finite.adjoinAll set offered else set) = set ∨
        set.length < (if name = key then Finite.adjoinAll set offered else set).length := by
      split
      · exact Finite.adjoinAll_inflates offered set
      · exact Or.inl rfl
    have tail : extend rest key offered = rest ∨ size rest < size (extend rest key offered) :=
      inductionHypothesis
    simp only [extend_cons, size_cons]
    rcases head with sameHead | longerHead <;> rcases tail with sameRest | largerRest
    · exact Or.inl (by rw [sameHead, sameRest])
    · exact Or.inr (by rw [sameHead]; omega)
    · exact Or.inr (by rw [sameRest]; omega)
    · exact Or.inr (by omega)

theorem get_cons (key : Symbol) (set : List Symbol) (rest : SymbolSets) (x : Symbol) :
    get ((key, set) :: rest) x = if x = key then set else get rest x := by
  simp only [get, get?_cons]
  split <;> rfl

/-- A name that is no key has the empty set. -/
theorem get_eq_nil {sets : SymbolSets} {x : Symbol} (absent : x ∉ sets.keys) :
    sets.get x = [] := by
  have missing : ¬ (sets.get? x).isSome = true := fun found =>
    absent ((get?_isSome_iff sets x).mp found)
  simp only [Option.not_isSome_iff_eq_none] at missing
  simp [get, missing]

/-- The set of a present key is one of the entries. -/
theorem get_mem {sets : SymbolSets} {x : Symbol} (present : x ∈ sets.keys) :
    (x, sets.get x) ∈ sets := by
  induction sets with
  | nil => simp [keys] at present
  | cons entry rest inductionHypothesis =>
    obtain ⟨name, set⟩ := entry
    rw [get_cons]
    by_cases here : x = name
    · simp [here]
    · simp only [keys, List.map_cons, List.mem_cons, here, false_or] at present
      simp only [here, if_false]
      exact List.mem_cons_of_mem _ (inductionHypothesis present)

theorem get_extend {sets : SymbolSets} {key : Symbol} (present : key ∈ sets.keys)
    (offered : List Symbol) :
    (sets.extend key offered).get key = Finite.adjoinAll (sets.get key) offered := by
  obtain ⟨set, found⟩ := Option.isSome_iff_exists.mp ((get?_isSome_iff sets key).mpr present)
  simp [get, get?_extend, found]

/-- An extension takes nothing away. -/
theorem get_subset_get_extend {sets : SymbolSets} {x t : Symbol} (key : Symbol)
    (offered : List Symbol) (member : t ∈ sets.get x) : t ∈ (sets.extend key offered).get x := by
  by_cases here : x = key
  · subst here
    have present : x ∈ sets.keys := by
      refine Decidable.byContradiction fun absent => ?_
      rw [get_eq_nil absent] at member
      exact List.not_mem_nil member
    rw [get_extend present, Finite.mem_adjoinAll]
    exact Or.inl member
  · simpa only [get, get?_extend, here, if_false] using member

/-- An extension that changes nothing offers nothing new. -/
theorem subset_get_of_extend {sets : SymbolSets} {key : Symbol} {offered : List Symbol}
    (present : key ∈ sets.keys) (fixed : sets.extend key offered = sets) :
    ∀ t ∈ offered, t ∈ sets.get key := by
  intro t member
  have grown := get_extend present offered
  rw [fixed] at grown
  rw [grown, Finite.mem_adjoinAll]
  exact Or.inr member

/-- The family has just these keys, and a property holds for each key and its set. -/
structure Holds (sets : SymbolSets) (names : List Symbol) (property : Symbol → List Symbol → Prop) :
    Prop where
  keys_eq : sets.keys = names
  each : ∀ entry ∈ sets, property entry.1 entry.2

namespace Holds

variable {sets : SymbolSets} {names : List Symbol} {property : Symbol → List Symbol → Prop}

theorem get (holds : sets.Holds names property) {x : Symbol} (member : x ∈ names) :
    property x (sets.get x) :=
  holds.each _ (get_mem (holds.keys_eq.symm ▸ member))

/-- A property that the offer keeps for the set of the key is kept for the family. -/
theorem extend (holds : sets.Holds names property) {key : Symbol} {offered : List Symbol}
    (kept : ∀ set, property key set → property key (Finite.adjoinAll set offered)) :
    (sets.extend key offered).Holds names property := by
  refine ⟨(keys_extend sets key offered).trans holds.keys_eq, ?_⟩
  intro entry member
  obtain ⟨old, present, rfl⟩ := List.mem_map.mp member
  have before := holds.each old present
  split
  · rename_i same
    exact same ▸ kept old.2 (same ▸ before)
  · exact before

/-- A bound on each set gives a bound on the family. -/
theorem size_le {cap : Symbol → Nat} (holds : sets.Holds names property)
    (bounded : ∀ x set, property x set → set.length ≤ cap x) :
    sets.size ≤ Finite.total cap names := by
  rw [← holds.keys_eq, keys, Finite.total_map]
  exact Finite.total_le (fun entry member => bounded _ _ (holds.each entry member))

/-- Passes of extensions reach a fixed point when the bounds on all sets leave
room for fewer elements than there is fuel. -/
theorem saturate_fixed {pass : SymbolSets → SymbolSets} {cap : Symbol → Nat} {fuel : Nat}
    (holds : sets.Holds names property)
    (kept : ∀ sets : SymbolSets, sets.Holds names property → (pass sets).Holds names property)
    (grows : Finite.Inflates size pass)
    (bounded : ∀ x set, property x set → set.length ≤ cap x)
    (enough : Finite.total cap names < sets.size + fuel) :
    pass (Finite.saturate pass fuel sets) = Finite.saturate pass fuel sets := by
  have room : ∀ sets : SymbolSets, sets.Holds names property → sets.size ≤ Finite.total cap names :=
    fun _ held => held.size_le bounded
  have larger : ∀ sets : SymbolSets, sets.Holds names property → pass sets ≠ sets →
      sets.size < (pass sets).size :=
    fun sets _ changed => (grows sets).resolve_left changed
  exact Finite.saturate_fixed kept room larger fuel holds enough

end Holds

end Predictive.SymbolSets
