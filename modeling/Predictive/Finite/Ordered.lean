/-!
# Stable ordering of a finite list

Insertion keeps an element before every element it may precede, so elements
that the order does not tell apart stay in their given order. The result is a
permutation of the input, and it is ordered whenever the comparison is total
and transitive.
-/

namespace Predictive.Finite

universe u
variable {α : Type u}

/-- Place an element in front of the first one it may precede. -/
def insertOrdered (le : α → α → Bool) (x : α) : List α → List α
  | [] => [x]
  | y :: rest => if le x y then x :: y :: rest else y :: insertOrdered le x rest

/-- Order a list; elements that compare both ways keep their order. -/
def ordered (le : α → α → Bool) (xs : List α) : List α := xs.foldr (insertOrdered le) []

theorem insertOrdered_perm (le : α → α → Bool) (x : α) (xs : List α) :
    (insertOrdered le x xs).Perm (x :: xs) := by
  induction xs with
  | nil => exact List.Perm.refl _
  | cons y rest inductionHypothesis =>
    unfold insertOrdered
    split
    · exact List.Perm.refl _
    · exact (inductionHypothesis.cons y).trans (List.Perm.swap x y rest)

theorem ordered_perm (le : α → α → Bool) (xs : List α) : (ordered le xs).Perm xs := by
  induction xs with
  | nil => exact List.Perm.refl _
  | cons x rest inductionHypothesis =>
    exact (insertOrdered_perm le x _).trans (inductionHypothesis.cons x)

theorem mem_ordered {le : α → α → Bool} {xs : List α} {y : α} : y ∈ ordered le xs ↔ y ∈ xs :=
  (ordered_perm le xs).mem_iff

theorem ordered_nodup {le : α → α → Bool} {xs : List α} (unique : xs.Nodup) :
    (ordered le xs).Nodup :=
  (ordered_perm le xs).symm.nodup unique

theorem insertOrdered_pairwise {le : α → α → Bool}
    (total : ∀ a b, le a b = true ∨ le b a = true)
    (transitive : ∀ a b c, le a b = true → le b c = true → le a c = true)
    (x : α) {xs : List α} (sorted : xs.Pairwise (fun a b => le a b = true)) :
    (insertOrdered le x xs).Pairwise (fun a b => le a b = true) := by
  induction xs with
  | nil => simp [insertOrdered]
  | cons y rest inductionHypothesis =>
    rw [List.pairwise_cons] at sorted
    unfold insertOrdered
    split
    · rename_i first
      refine List.pairwise_cons.mpr ⟨?_, List.pairwise_cons.mpr sorted⟩
      intro z member
      rcases List.mem_cons.mp member with rfl | later
      · exact first
      · exact transitive _ _ _ first (sorted.1 z later)
    · rename_i notFirst
      refine List.pairwise_cons.mpr ⟨?_, inductionHypothesis sorted.2⟩
      intro z member
      rcases List.mem_cons.mp ((insertOrdered_perm le x rest).mem_iff.mp member) with rfl | later
      · exact (total z y).resolve_left notFirst
      · exact sorted.1 z later

/-- A total and transitive comparison orders every list. -/
theorem ordered_pairwise {le : α → α → Bool}
    (total : ∀ a b, le a b = true ∨ le b a = true)
    (transitive : ∀ a b c, le a b = true → le b c = true → le a c = true) (xs : List α) :
    (ordered le xs).Pairwise (fun a b => le a b = true) := by
  induction xs with
  | nil => exact List.Pairwise.nil
  | cons x rest inductionHypothesis =>
    exact insertOrdered_pairwise total transitive x inductionHypothesis

/-- A comparison that also tells all elements apart leaves no trace of the order in which
they were given. -/
theorem ordered_eq_of_perm {le : α → α → Bool}
    (total : ∀ a b, le a b = true ∨ le b a = true)
    (transitive : ∀ a b c, le a b = true → le b c = true → le a c = true)
    (antisymmetric : ∀ a b, le a b = true → le b a = true → a = b) {xs ys : List α}
    (permuted : xs.Perm ys) : ordered le xs = ordered le ys := by
  have listings : (ordered le xs).Perm (ordered le ys) :=
    (ordered_perm le xs).trans (permuted.trans (ordered_perm le ys).symm)
  refine listings.eq_of_pairwise ?_ (ordered_pairwise total transitive xs)
    (ordered_pairwise total transitive ys)
  exact fun a b _ _ => antisymmetric a b

end Predictive.Finite
