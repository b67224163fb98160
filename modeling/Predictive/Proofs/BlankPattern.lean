import Mathlib
import Predictive.Lexer.Lexicon

/-!
# The pattern of blanks

A greedy repetition of a test of one character takes the longest run of characters
that the test accepts: it never has to give one back, because nothing behind it can
fail. So the pattern that rule files use for blanks and line ends matches all of them
that stand at a place.

No flag changes this. Blanks in a set count in verbose patterns too, and no character
in front of the letters of ASCII has another case.
-/

namespace Predictive

namespace Text

open LetterMode (runs lower classOf variants)

/-- Runs of upper-case letters, and the letters they are moved to, begin behind the digits
and marks of ASCII. -/
theorem runs_high (mode : LetterMode) :
    ∀ run ∈ mode.runs, 65 ≤ run.low ∧ (65 : Int) ≤ run.low + run.shift := by
  cases mode with
  | exact => simp [runs]
  | ascii => decide
  | unicode => decide +kernel

/-- So do the letters that share an upper-case letter. -/
theorem caseClasses_high : ∀ letters ∈ caseClasses, ∀ low ∈ letters, 65 ≤ low := by decide

variable {mode : LetterMode} {code low : Nat}

theorem not_holds_of_low {run : CaseRun} (member : run ∈ mode.runs) (below : low < 65) :
    run.holds low = false := by
  have above := (runs_high mode run member).1
  rw [Bool.eq_false_iff]
  intro held
  simp only [CaseRun.holds, Bool.and_eq_true, decide_eq_true_eq] at held
  omega

/-- A character in front of the letters is its own lower case, and of nothing else. -/
theorem lower_eq_iff_of_low (below : low < 65) : mode.lower code = low ↔ code = low := by
  unfold lower moved
  split
  · rename_i run found
    have member := List.mem_of_find?_eq_some found
    have held : run.holds code = true := by simpa using List.find?_some found
    have away : code ≠ low := by
      rintro rfl
      rw [not_holds_of_low member below] at held
      cases held
    simp only [CaseRun.holds, Bool.and_eq_true, decide_eq_true_eq] at held
    have above := (runs_high mode run member).2
    omega
  · rfl

/-- A character in front of the letters is alone in its class. -/
theorem mem_classOf_iff_of_low (below : low < 65) {letter : Nat} :
    low ∈ mode.classOf letter ↔ letter = low := by
  have alone : low ∈ [letter] ↔ letter = low := by simp [eq_comm]
  cases mode with
  | exact => exact alone
  | ascii => exact alone
  | unicode =>
    rw [classOf]
    cases found : caseClasses.find? (letter ∈ ·) with
    | none => exact alone
    | some letters =>
      have member := List.mem_of_find?_eq_some found
      have inside : letter ∈ letters := by simpa using List.find?_some found
      have high := caseClasses_high letters member
      simp only [Option.getD_some]
      constructor
      · intro impossible
        have := high low impossible
        omega
      · rintro rfl
        exact inside

/-- A character in front of the letters of ASCII has no other case. -/
theorem mem_variants_iff_of_low (below : low < 65) : low ∈ mode.variants code ↔ code = low := by
  have moved : low ∈ (mode.classOf (mode.lower code)).flatMap
      (fun letter => letter :: mode.runs.filterMap (·.source? letter)) ↔ code = low := by
    have lowered : mode.lower code = low ↔ code = low := lower_eq_iff_of_low below
    rw [List.mem_flatMap, ← lowered]
    constructor
    · rintro ⟨letter, inClass, same | ⟨_, offered⟩⟩
      · exact (mem_classOf_iff_of_low below).mp inClass
      · obtain ⟨run, member, source⟩ := List.mem_filterMap.mp offered
        simp only [CaseRun.source?] at source
        split at source
        · rename_i held
          obtain rfl := Option.some.inj source
          rw [not_holds_of_low member below] at held
          cases held.1
        · cases source
    · intro same
      exact ⟨low, (mem_classOf_iff_of_low below).mpr same, List.mem_cons_self⟩
  cases mode with
  | exact => simp [variants, eq_comm]
  | ascii => exact moved
  | unicode => exact moved

end Text

namespace Regex

open Text (LetterMode)

/-- One or more characters that a test accepts, as many as possible. -/
def runOf (test : CharTest) : Node := .seq (.rep .greedy 1 none (.one test)) .empty

variable {test : CharTest} {c : Char} {before rest : List Char} {groups : List (Nat × List Char)}
  {next : Continuation}

theorem run_one_of_accepts (accepted : test.accepts c = true) :
    (Node.one test).run ⟨before, c :: rest, groups⟩ next = next ⟨c :: before, rest, groups⟩ := by
  simp [Node.run, Place.step, accepted]

theorem run_one_of_not_accepts (refused : test.accepts c ≠ true) :
    (Node.one test).run ⟨before, c :: rest, groups⟩ next = none := by
  simp [Node.run, refused]

/-- A run is one round and further ones. -/
theorem run_runOf (p : Place) : (runOf test).run p some = (Node.one test).run p (fun q =>
    greedyRounds (fun q next => (Node.one test).run q next) (q.rest.length + 1) none q some) := rfl

/-- Further rounds of a test take all that it accepts. -/
theorem greedyRounds_one {n : Nat} {last : Option Nat} (enough : rest.length < n)
    (moved : last ≠ some rest.length) :
    greedyRounds (fun q next => (Node.one test).run q next) n last ⟨before, rest, groups⟩ some =
      some ⟨(rest.takeWhile test.accepts).reverse ++ before, rest.dropWhile test.accepts,
        groups⟩ := by
  induction n generalizing last before rest with
  | zero => omega
  | succ n inductionHypothesis =>
    rw [greedyRounds, if_neg moved]
    cases rest with
    | nil => rfl
    | cons c rest =>
      by_cases accepted : test.accepts c = true
      · have fewer : rest.length < n := Nat.lt_of_succ_lt_succ enough
        rw [run_one_of_accepts accepted, inductionHypothesis fewer (by simp)]
        simp [accepted]
      · rw [run_one_of_not_accepts accepted]
        simp [accepted]

/-- A run matches all accepted characters at a place, and nothing where there is none. -/
theorem matched?_runOf (test : CharTest) (before rest : List Char) :
    (runOf test).matched? before rest =
      if rest.head?.any test.accepts then some (rest.takeWhile test.accepts) else none := by
  cases rest with
  | nil => rfl
  | cons c rest =>
    by_cases accepted : test.accepts c = true
    · have whole : (runOf test).run ⟨before, c :: rest, []⟩ some =
          some ⟨(rest.takeWhile test.accepts).reverse ++ c :: before,
            rest.dropWhile test.accepts, []⟩ := by
        rw [run_runOf, run_one_of_accepts accepted]
        exact greedyRounds_one (Nat.lt_succ_self _) (by simp)
      have parts : c :: rest =
          (c :: rest.takeWhile test.accepts) ++ rest.dropWhile test.accepts := by
        rw [List.cons_append, List.takeWhile_append_dropWhile]
      have slice : (c :: rest).take ((c :: rest).length - (rest.dropWhile test.accepts).length) =
          c :: rest.takeWhile test.accepts := by
        rw [parts, List.length_append, Nat.add_sub_cancel, List.take_left]
      rw [Node.matched?, whole, Option.map_some, Place.since, slice]
      simp [accepted]
    · have nothing : (runOf test).run ⟨before, c :: rest, []⟩ some = none := by
        rw [run_runOf, run_one_of_not_accepts accepted]
      simp [Node.matched?, nothing, accepted]

/-- The characters that the pattern of blanks names. -/
def layout : List Char := [' ', '\t', '\r', '\n']

/-- The pattern of blanks, as rule files write it. -/
def blankPattern : String := "[ \\t\\r\\n]+"

/-- The test of the pattern of blanks. -/
def layoutTest (mode : LetterMode) : CharTest :=
  .set (layout.map (fun c => .range c.toNat c.toNat)) false mode

/-- Under any flags the pattern of blanks is a run of them. Only verbose patterns are read
differently, and not inside a set. -/
theorem ofPattern_blankPattern (flags : Flags) :
    ofPattern blankPattern.toList flags = .ok (runOf (layoutTest flags.letters)) := by
  obtain ⟨_, _, _, verbose, _⟩ := flags
  cases verbose
  · cbv
  · cbv

/-- However letters compare, the test accepts what the pattern names. -/
theorem layoutTest_accepts (mode : LetterMode) (c : Char) :
    (layoutTest mode).accepts c = true ↔ c ∈ layout := by
  have low : ∀ d ∈ layout, 0 < d.toNat ∧ d.toNat < 65 := by simp [layout]
  simp only [layoutTest, CharTest.accepts, Bool.bne_false, List.any_eq_true, List.any_map,
    Function.comp_apply, SetItem.holds, Bool.and_eq_true, decide_eq_true_eq]
  constructor
  · rintro ⟨code, inVariants, d, member, below, above⟩
    have same : code = d.toNat := by
      have positive := (low d member).1
      have shown : (Char.ofNat code).toNat = d.toNat := Nat.le_antisymm above below
      unfold Char.ofNat at shown
      split at shown
      · exact shown
      · rw [← shown] at positive
        exact absurd positive (by decide)
    have found := (Text.mem_variants_iff_of_low (low d member).2).mp (same ▸ inVariants)
    exact Char.toNat_inj.mp found ▸ member
  · intro member
    refine ⟨c.toNat, (Text.mem_variants_iff_of_low (low c member).2).mpr rfl, c, member, ?_⟩
    rw [Char.ofNat_toNat]
    exact ⟨Nat.le_refl _, Nat.le_refl _⟩

end Regex

end Predictive
