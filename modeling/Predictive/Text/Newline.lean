/-!
# Newlines

A carriage return with a newline behind it, and a carriage return alone, both
read as one newline. `normalize` does this by two replacements, pairs first;
`singlePass` does it in a single pass from left to right.
-/

namespace Predictive.Text

/-- Every carriage return that a newline follows is dropped. -/
def joinPairs : List Char → List Char
  | [] => []
  | [c] => [c]
  | c :: next :: rest =>
    if c = '\r' ∧ next = '\n' then joinPairs (next :: rest) else c :: joinPairs (next :: rest)

/-- Every carriage return becomes a newline. -/
def replaceReturns (cs : List Char) : List Char := cs.map (fun c => if c = '\r' then '\n' else c)

/-- Both spellings of a line end become a newline. -/
def normalize (cs : List Char) : List Char := replaceReturns (joinPairs cs)

/-- A character in front of which no pair begins stays when pairs are joined. -/
theorem joinPairs_cons {c : Char} {rest : List Char}
    (single : ¬ (c = '\r' ∧ rest.head? = some '\n')) :
    joinPairs (c :: rest) = c :: joinPairs rest := by
  cases rest with
  | nil => rfl
  | cons next others =>
    have noPair : ¬ (c = '\r' ∧ next = '\n') := by simpa using single
    rw [joinPairs, if_neg noPair]

/-- Of a pair the newline stays. -/
theorem joinPairs_pair (rest : List Char) :
    joinPairs ('\r' :: '\n' :: rest) = '\n' :: joinPairs rest := by
  rw [joinPairs, if_pos ⟨rfl, rfl⟩, joinPairs_cons (by simp)]

/-- A pair is one newline. -/
theorem normalize_pair (rest : List Char) :
    normalize ('\r' :: '\n' :: rest) = '\n' :: normalize rest := by
  rw [normalize, joinPairs_pair]
  rfl

/-- Any other carriage return is a newline, and all else stays. -/
theorem normalize_cons {c : Char} {rest : List Char}
    (single : ¬ (c = '\r' ∧ rest.head? = some '\n')) :
    normalize (c :: rest) = (if c = '\r' then '\n' else c) :: normalize rest := by
  rw [normalize, joinPairs_cons single]
  rfl

/-- Without carriage returns there is nothing to normalize. -/
theorem normalize_eq_self {cs : List Char} (plain : ∀ c ∈ cs, c ≠ '\r') : normalize cs = cs := by
  induction cs with
  | nil => rfl
  | cons c rest inductionHypothesis =>
    have other : c ≠ '\r' := plain c List.mem_cons_self
    have tail := inductionHypothesis (fun d member => plain d (List.mem_cons_of_mem c member))
    rw [normalize_cons (fun pair => other pair.1), if_neg other, tail]

/-- One pass over the text from left to right. -/
def singlePass : List Char → List Char
  | [] => []
  | '\r' :: '\n' :: rest => '\n' :: singlePass rest
  | '\r' :: rest => '\n' :: singlePass rest
  | c :: rest => c :: singlePass rest

/-- The newlines of a text in the usual spelling. -/
def normalizeText (s : String) : String := String.ofList (normalize s.toList)

end Predictive.Text
