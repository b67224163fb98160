import Predictive.Text.Newline

/-!
# Newlines in one pass

The two replacements by which newlines are normalized act like one pass over the text, which
writes one newline for each pair of a carriage return and a newline and one for each other
carriage return. Joining pairs first is what makes them agree: a pair is never read as two
line ends, and of several carriage returns only the last can belong to a pair.

So the result has no carriage return, and normalizing it again changes nothing. A text may be
normalized part by part, unless a cut separates the two characters of a pair; then the parts
have one line end more than the whole.
-/

namespace Predictive.Text

/-- A cut separates the two characters of a pair. -/
def SeparatesPair (front back : List Char) : Prop :=
  front.getLast? = some '\r' ∧ back.head? = some '\n'

instance (front back : List Char) : Decidable (SeparatesPair front back) :=
  inferInstanceAs (Decidable (_ ∧ _))

/-- The pass goes over the pair or the character in front, and so do the replacements. -/
theorem normalize_eq_singlePass (cs : List Char) : normalize cs = singlePass cs := by
  fun_induction singlePass cs with
  | case1 => rfl
  | case2 rest inductionHypothesis => rw [normalize_pair, inductionHypothesis]
  | case3 rest noNewline inductionHypothesis =>
    have single : ¬ ('\r' = '\r' ∧ rest.head? = some '\n') := by
      rintro ⟨_, newline⟩
      obtain ⟨others, same⟩ := List.head?_eq_some_iff.mp newline
      exact noNewline others same
    rw [normalize_cons single, if_pos rfl, inductionHypothesis]
  | case4 c rest _ other inductionHypothesis =>
    have other : c ≠ '\r' := other
    rw [normalize_cons (fun pair => other pair.1), if_neg other, inductionHypothesis]

/-- Nothing that is written is a carriage return. -/
theorem return_not_mem_normalize (cs : List Char) : '\r' ∉ normalize cs := by
  intro member
  obtain ⟨c, _, written⟩ := List.mem_map.mp member
  split at written
  · cases written
  · rename_i other
    exact other written

/-- A carriage return in front of a newline leaves no trace. -/
theorem normalize_return_newline (rest : List Char) :
    normalize ('\r' :: '\n' :: rest) = normalize ('\n' :: rest) := by
  have single : ¬ ('\n' = '\r' ∧ rest.head? = some '\n') := by simp
  rw [normalize_pair, normalize_cons single]
  rfl

/-- At a cut behind a single character, the two parts give one newline more than the whole if
the cut separates a pair, and the same as the whole otherwise. -/
theorem normalize_cons_eq_append_iff (c : Char) (back : List Char) :
    normalize (c :: back) = normalize [c] ++ normalize back ↔ ¬ SeparatesPair [c] back := by
  have alone : ¬ (c = '\r' ∧ ([] : List Char).head? = some '\n') := by simp
  rw [normalize_cons alone]
  by_cases pair : c = '\r' ∧ back.head? = some '\n'
  · obtain ⟨rfl, newline⟩ := pair
    obtain ⟨others, rfl⟩ := List.head?_eq_some_iff.mp newline
    have separates : SeparatesPair ['\r'] ('\n' :: others) := ⟨rfl, rfl⟩
    rw [normalize_return_newline]
    have longer : normalize ('\n' :: others) ≠ '\n' :: normalize ('\n' :: others) :=
      (List.cons_ne_self _ _).symm
    exact ⟨fun same => absurd same longer, fun together => absurd separates together⟩
  · have together : ¬ SeparatesPair [c] back := by
      simpa [SeparatesPair] using pair
    rw [normalize_cons pair]
    exact ⟨fun _ => together, fun _ => rfl⟩

/-- Parts are normalized like the whole, unless the cut separates a pair. The induction goes
over the characters in front of the cut, down to the one right in front of it. -/
theorem normalize_append_iff (front back : List Char) :
    normalize (front ++ back) = normalize front ++ normalize back ↔ ¬ SeparatesPair front back := by
  induction front with
  | nil =>
    have together : ¬ SeparatesPair [] back := by simp [SeparatesPair]
    exact ⟨fun _ => together, fun _ => rfl⟩
  | cons c rest inductionHypothesis =>
    cases rest with
    | nil => exact normalize_cons_eq_append_iff c back
    | cons next others =>
      have shorter : SeparatesPair (c :: next :: others) back ↔
          SeparatesPair (next :: others) back := by
        rw [SeparatesPair, List.getLast?_cons_cons]
        rfl
      rw [shorter, ← inductionHypothesis]
      by_cases pair : c = '\r' ∧ next = '\n'
      · obtain ⟨rfl, rfl⟩ := pair
        simp only [List.cons_append, normalize_return_newline]
      · have inWhole : ¬ (c = '\r' ∧ (next :: others ++ back).head? = some '\n') := by
          simpa using pair
        have inFront : ¬ (c = '\r' ∧ (next :: others).head? = some '\n') := by
          simpa using pair
        rw [List.cons_append, normalize_cons inWhole, normalize_cons inFront]
        simp only [List.cons_append, List.cons.injEq, true_and]

/-- Normalizing is the single pass from left to right. What it writes has no carriage return,
so normalizing it again changes nothing. Two texts one behind the other are normalized
separately with the same result exactly if no pair is separated between them. -/
theorem newlines_are_normalized_in_one_pass (text : String) :
    normalizeText text = String.ofList (singlePass text.toList) ∧
    '\r' ∉ (normalizeText text).toList ∧
    normalizeText (normalizeText text) = normalizeText text ∧
    ∀ front back : String,
      normalizeText (front ++ back) = normalizeText front ++ normalizeText back ↔
        ¬ SeparatesPair front.toList back.toList := by
  have written : (normalizeText text).toList = normalize text.toList := String.toList_ofList
  refine ⟨?_, ?_, ?_, ?_⟩
  · rw [normalizeText, normalize_eq_singlePass]
  · rw [written]
    exact return_not_mem_normalize text.toList
  · have plain : ∀ c ∈ normalize text.toList, c ≠ '\r' := by
      rintro _ member rfl
      exact return_not_mem_normalize text.toList member
    rw [normalizeText, written, normalize_eq_self plain]
    rfl
  · intro front back
    rw [← normalize_append_iff, normalizeText, normalizeText, normalizeText, String.toList_append,
      ← String.ofList_append, String.ofList_inj]

/-- Two carriage returns and a newline are two line ends, a newline and a carriage return too,
and a cut between the last two characters of the former would add a third. -/
example : normalizeText "a\r\r\nb\n\rc" = "a\n\nb\n\nc" ∧
    normalizeText "a\r\r" ++ normalizeText "\nb" = "a\n\n\nb" := by decide

end Predictive.Text
