import Predictive.Symbol

/-!
# Families of symbol sets

FIRST and FOLLOW are families of finite sets, one set for each key. A key that
is absent has no set, and nothing can be added under it; a present key keeps
its place while its set grows.
-/

namespace Predictive

/-- One set of symbols for each key. -/
abbrev SymbolSets := List (Symbol × List Symbol)

namespace SymbolSets

/-- The set of a key, if the key is present. -/
def get? (sets : SymbolSets) (key : Symbol) : Option (List Symbol) := sets.lookup key

/-- The set of a key; an absent key reads as the empty set. -/
def get (sets : SymbolSets) (key : Symbol) : List Symbol := (sets.get? key).getD []

/-- Add symbols to the set of a present key. -/
def extend (sets : SymbolSets) (key : Symbol) (offered : List Symbol) : SymbolSets :=
  sets.map (fun entry =>
    if entry.1 = key then (entry.1, Finite.adjoinAll entry.2 offered) else entry)

/-- The keys, in order. -/
def keys (sets : SymbolSets) : List Symbol := sets.map Prod.fst

@[simp] theorem keys_extend (sets : SymbolSets) (key : Symbol) (offered : List Symbol) :
    (sets.extend key offered).keys = sets.keys := by
  simp only [keys, extend, List.map_map]
  refine List.map_congr_left ?_
  intro entry _
  simp only [Function.comp]
  split <;> rfl

theorem extend_cons (name : Symbol) (set : List Symbol) (rest : SymbolSets) (key : Symbol)
    (offered : List Symbol) :
    extend ((name, set) :: rest) key offered =
      (name, if name = key then Finite.adjoinAll set offered else set) ::
        extend rest key offered := by
  simp only [extend, List.map_cons, List.cons.injEq, and_true]
  split <;> rfl

theorem get?_cons (key : Symbol) (set : List Symbol) (rest : SymbolSets) (x : Symbol) :
    get? ((key, set) :: rest) x = if x = key then some set else get? rest x := by
  rw [get?, List.lookup_cons]
  by_cases same : x = key
  · simp [same]
  · have differs : (x == key) = false := beq_eq_false_iff_ne.mpr same
    simp [get?, same, differs]

/-- Reading after adding: only the set of the extended key has grown. -/
theorem get?_extend (sets : SymbolSets) (key : Symbol) (offered : List Symbol) (x : Symbol) :
    (sets.extend key offered).get? x =
      if x = key then (sets.get? x).map (Finite.adjoinAll · offered) else sets.get? x := by
  induction sets with
  | nil => simp [extend, get?]
  | cons entry rest inductionHypothesis =>
    obtain ⟨name, set⟩ := entry
    rw [extend_cons, get?_cons, get?_cons, inductionHypothesis]
    by_cases here : x = name
    · subst here
      by_cases extended : x = key <;> simp [extended]
    · simp [here]

/-- A key has a set exactly when it is present. -/
theorem get?_isSome_iff (sets : SymbolSets) (x : Symbol) :
    (sets.get? x).isSome = true ↔ x ∈ sets.keys := by
  induction sets with
  | nil => simp [get?, keys]
  | cons entry rest inductionHypothesis =>
    obtain ⟨name, set⟩ := entry
    rw [get?_cons]
    by_cases here : x = name
    · simp [here, keys]
    · simp only [here, if_false, inductionHypothesis, keys, List.map_cons, List.mem_cons,
        false_or]

/-- A present key has its set. -/
theorem get?_eq_some_get {sets : SymbolSets} {x : Symbol} (present : x ∈ sets.keys) :
    sets.get? x = some (sets.get x) := by
  obtain ⟨set, found⟩ := Option.isSome_iff_exists.mp ((get?_isSome_iff sets x).mpr present)
  simp only [get, found, Option.getD_some]

/-- An absent key has no set. -/
theorem get?_eq_none {sets : SymbolSets} {x : Symbol} (absent : x ∉ sets.keys) :
    sets.get? x = none := by
  rw [← get?_isSome_iff] at absent
  simpa using absent

end SymbolSets

end Predictive
