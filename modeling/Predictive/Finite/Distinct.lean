/-!
# Finite sets as lists of distinct elements

A set is kept as a list in which no element is repeated. Elements join at the
end, so the list shows the order in which they were first offered. `distinct`
keeps the first occurrence of every element; `adjoinAll` grows a set in place
and leaves it equal to itself exactly when nothing new was offered.
-/

namespace Predictive.Finite

universe u
variable {α : Type u} [DecidableEq α]

/-- An element joins at the end unless it is already there. -/
def adjoin (set : List α) (x : α) : List α := if x ∈ set then set else set ++ [x]

/-- The offered elements join one after another. -/
def adjoinAll (set offered : List α) : List α := offered.foldl adjoin set

/-- The first occurrence of every element, in order. -/
def distinct (xs : List α) : List α := adjoinAll [] xs

/-- The elements of the first list that the second one lacks, in order. -/
def without (xs removed : List α) : List α := xs.filter (fun x => x ∉ removed)

theorem mem_adjoin {set : List α} {x y : α} : y ∈ adjoin set x ↔ y ∈ set ∨ y = x := by
  unfold adjoin
  split
  · rename_i present
    constructor
    · exact Or.inl
    · rintro (old | rfl)
      · exact old
      · exact present
  · simp

theorem adjoin_nodup {set : List α} (unique : set.Nodup) (x : α) : (adjoin set x).Nodup := by
  unfold adjoin
  split
  · exact unique
  · rename_i absent
    rw [List.nodup_append]
    refine ⟨unique, by simp, ?_⟩
    intro a member b single same
    rw [List.mem_singleton] at single
    exact absent (single ▸ same ▸ member)

theorem mem_adjoinAll {offered set : List α} {y : α} :
    y ∈ adjoinAll set offered ↔ y ∈ set ∨ y ∈ offered := by
  induction offered generalizing set with
  | nil => simp [adjoinAll]
  | cons x rest inductionHypothesis =>
    change y ∈ adjoinAll (adjoin set x) rest ↔ _
    rw [inductionHypothesis, mem_adjoin, List.mem_cons, or_assoc]

theorem adjoinAll_nodup {offered set : List α} (unique : set.Nodup) :
    (adjoinAll set offered).Nodup := by
  induction offered generalizing set with
  | nil => exact unique
  | cons x rest inductionHypothesis => exact inductionHypothesis (adjoin_nodup unique x)

theorem mem_distinct {xs : List α} {y : α} : y ∈ distinct xs ↔ y ∈ xs := by
  simp [distinct, mem_adjoinAll]

theorem distinct_nodup (xs : List α) : (distinct xs).Nodup := adjoinAll_nodup List.nodup_nil

/-- Offering distinct elements that a set lacks appends them. -/
theorem adjoinAll_eq_append {set offered : List α} (unique : (set ++ offered).Nodup) :
    adjoinAll set offered = set ++ offered := by
  induction offered generalizing set with
  | nil => simp [adjoinAll]
  | cons x rest inductionHypothesis =>
    have absent : x ∉ set := by
      intro member
      exact (List.nodup_append.mp unique).2.2 x member x List.mem_cons_self rfl
    have step : adjoin set x = set ++ [x] := if_neg absent
    have shifted : set ++ [x] ++ rest = set ++ x :: rest := by simp
    change adjoinAll (adjoin set x) rest = _
    rw [step, inductionHypothesis (shifted ▸ unique), shifted]

/-- Distinct elements stay as they are. -/
theorem distinct_eq_self {xs : List α} (unique : xs.Nodup) : distinct xs = xs :=
  adjoinAll_eq_append unique

theorem mem_without {xs removed : List α} {y : α} :
    y ∈ without xs removed ↔ y ∈ xs ∧ y ∉ removed := by
  simp [without]

theorem without_nodup {xs : List α} (unique : xs.Nodup) (removed : List α) :
    (without xs removed).Nodup :=
  unique.filter _

end Predictive.Finite
