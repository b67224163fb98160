import Predictive.Proofs.LexemeOffsets

/-!
# Where the regular expressions of a rule file end

A regular expression ends at a slash, and a backslash is there to keep a slash, or any other
character, inside it. A reader that takes every backslash together with the character behind
it ends at the first slash that is not escaped, or finds none on the line. The alternative of
the scanner takes the same pairs, but its single characters leave out the slash and the
newline only. So where the careful reader finds a slash, the scanner ends at that slash. Where
it finds none, the scanner goes back to a backslash and takes it alone: the last one, in front
of the slash that it escapes, or one of two backslashes at the end of a line, so that the
other one escapes the newline.
-/

namespace Predictive.RuleFile

/-- Units in which every backslash escapes the character behind it. -/
inductive Units : List Char → Prop where
  | nil : Units []
  | pair {rest : List Char} (c : Char) (later : Units rest) : Units ('\\' :: c :: rest)
  | single {c : Char} {rest : List Char} (plain : c ∉ ['/', '\\', '\n']) (later : Units rest) :
      Units (c :: rest)

/-- Units as the scanner takes them: a backslash may also stand alone at the end, or in front of
an escaped newline. -/
inductive LooseUnits : List Char → Prop where
  | nil : LooseUnits []
  | pair {rest : List Char} (c : Char) (later : LooseUnits rest) : LooseUnits ('\\' :: c :: rest)
  | single {c : Char} {rest : List Char} (plain : c ∉ ['/', '\\', '\n'])
      (later : LooseUnits rest) : LooseUnits (c :: rest)
  | dangling : LooseUnits ['\\']
  | apart {rest : List Char} (later : LooseUnits rest) : LooseUnits ('\\' :: '\\' :: '\n' :: rest)

/-- The length up to and with the first slash that is not escaped, in front of the end of the
line. -/
def unescapedSlash? : List Char → Option Nat
  | [] => none
  | c :: rest =>
    if c = '/' then some 1
    else if c = '\n' then none
    else if c = '\\' then
      match rest with
      | _ :: others => (unescapedSlash? others).map (· + 2)
      | [] => none
    else (unescapedSlash? rest).map (· + 1)

section Closing

variable {cs body behind rest : List Char} {c : Char} {n : Nat}

/-- A character is a single one or one of the other three. -/
theorem single_or_special (c : Char) :
    c ∉ ['/', '\\', '\n'] ∨ c = '/' ∨ c = '\\' ∨ c = '\n' := by
  by_cases special : c ∈ ['/', '\\', '\n']
  · exact Or.inr (by simpa using special)
  · exact Or.inl special

/-! The closing slash, character by character. -/

theorem closing?_pair (c : Char) (rest : List Char) : closing? ('\\' :: c :: rest) =
    ((closing? rest).map (· + 2)).or ((closing? (c :: rest)).map (· + 1)) := rfl

theorem closing?_single (plain : c ∉ ['/', '\\', '\n']) (rest : List Char) :
    closing? (c :: rest) = (closing? rest).map (· + 1) := by
  simp only [List.mem_cons, List.not_mem_nil, or_false, not_or] at plain
  obtain ⟨notSlash, notBackslash, notNewline⟩ := plain
  simp only [closing?, closings, if_neg notSlash, if_neg notBackslash, if_neg notNewline]

/-- Only a newline in front takes the closing slash away. -/
theorem eq_newline_of_closing?_eq_none (closed : closing? rest = some n)
    (unclosed : closing? (c :: rest) = none) : c = '\n' := by
  rcases single_or_special c with plain | rfl | rfl | rfl
  · rw [closing?_single plain, closed] at unclosed
    cases unclosed
  · cases unclosed
  · cases rest with
    | nil => cases closed
    | cons d more =>
      rw [closing?_pair, closed] at unclosed
      simp at unclosed
  · rfl

/-- Where a pair leaves no closing slash, its backslash is taken alone only in front of the
closing slash itself or of another backslash, which then escapes a newline. -/
theorem cases_of_closing?_lone (pairless : closing? rest = none)
    (closed : closing? (c :: rest) = some n) :
    c = '/' ∧ n = 1 ∨
      c = '\\' ∧ ∃ more m, rest = '\n' :: more ∧ closing? more = some m ∧ n = m + 2 := by
  rcases single_or_special c with plain | rfl | rfl | rfl
  · rw [closing?_single plain, pairless] at closed
    cases closed
  · exact Or.inl ⟨rfl, (Option.some.inj closed).symm⟩
  · cases rest with
    | nil => cases closed
    | cons d more =>
      rw [closing?_pair, pairless, Option.map_none, Option.or_none] at closed
      obtain ⟨m, later, rfl⟩ := Option.map_eq_some_iff.mp closed
      obtain rfl := eq_newline_of_closing?_eq_none later pairless
      exact Or.inr ⟨rfl, more, m, rfl, later, rfl⟩
  · cases closed

/-- What the scanner takes up to the closing slash are loose units. The induction is on the
length of the text, because a pair takes two characters. -/
theorem exists_looseUnits_of_closing? (closed : closing? cs = some n) :
    ∃ body behind, cs = body ++ '/' :: behind ∧ n = body.length + 1 ∧ LooseUnits body := by
  generalize size : cs.length = count
  induction count using Nat.strongRecOn generalizing cs n with
  | ind count inductionHypothesis =>
    subst size
    cases cs with
    | nil => cases closed
    | cons c rest =>
      rcases single_or_special c with plain | rfl | rfl | rfl
      · rw [closing?_single plain] at closed
        obtain ⟨m, later, rfl⟩ := Option.map_eq_some_iff.mp closed
        obtain ⟨body, behind, rfl, rfl, loose⟩ := inductionHypothesis _ (by simp) later rfl
        exact ⟨c :: body, behind, rfl, rfl, .single plain loose⟩
      · exact ⟨[], rest, rfl, (Option.some.inj closed).symm, .nil⟩
      · cases rest with
        | nil => cases closed
        | cons d others =>
          rw [closing?_pair] at closed
          rcases Option.or_eq_some_iff.mp closed with pair | ⟨pairless, lone⟩
          · obtain ⟨m, later, rfl⟩ := Option.map_eq_some_iff.mp pair
            obtain ⟨body, behind, rfl, rfl, loose⟩ := inductionHypothesis _ (by simp) later rfl
            exact ⟨'\\' :: d :: body, behind, rfl, rfl, .pair d loose⟩
          -- The pair is given up, so its second character is all that may have been escaped.
          · obtain ⟨m, later, rfl⟩ := Option.map_eq_some_iff.mp lone
            rcases cases_of_closing?_lone (Option.map_eq_none_iff.mp pairless) later with
              ⟨rfl, rfl⟩ | ⟨rfl, more, k, rfl, farther, rfl⟩
            · exact ⟨['\\'], others, rfl, rfl, .dangling⟩
            · have shorter : more.length < ('\\' :: '\\' :: '\n' :: more).length := by
                simp only [List.length_cons]
                omega
              obtain ⟨body, behind, rfl, rfl, loose⟩ := inductionHypothesis _ shorter farther rfl
              exact ⟨'\\' :: '\\' :: '\n' :: body, behind, rfl, rfl, .apart loose⟩
      · cases closed

/-! The careful reader. -/

theorem unescapedSlash?_slash (rest : List Char) : unescapedSlash? ('/' :: rest) = some 1 := by
  unfold unescapedSlash?
  simp

theorem unescapedSlash?_pair (c : Char) (rest : List Char) :
    unescapedSlash? ('\\' :: c :: rest) = (unescapedSlash? rest).map (· + 2) := by
  conv => lhs; unfold unescapedSlash?
  simp

theorem unescapedSlash?_single (plain : c ∉ ['/', '\\', '\n']) (rest : List Char) :
    unescapedSlash? (c :: rest) = (unescapedSlash? rest).map (· + 1) := by
  simp only [List.mem_cons, List.not_mem_nil, or_false, not_or] at plain
  obtain ⟨notSlash, notBackslash, notNewline⟩ := plain
  conv => lhs; unfold unescapedSlash?
  simp only [if_neg notSlash, if_neg notBackslash, if_neg notNewline]

/-- The careful reader takes units up to the slash behind them. -/
theorem unescapedSlash?_append (units : Units body) (behind : List Char) :
    unescapedSlash? (body ++ '/' :: behind) = some (body.length + 1) := by
  induction units with
  | nil => exact unescapedSlash?_slash behind
  | pair c _ inductionHypothesis =>
    rw [List.cons_append, List.cons_append, unescapedSlash?_pair, inductionHypothesis]
    rfl
  | single plain _ inductionHypothesis =>
    rw [List.cons_append, unescapedSlash?_single plain, inductionHypothesis]
    rfl

/-- Where the careful reader finds a slash, units stand in front of it, and the scanner ends
at the same slash. -/
theorem exists_units_of_unescapedSlash? (found : unescapedSlash? cs = some n) :
    closing? cs = some n ∧
      ∃ body behind, cs = body ++ '/' :: behind ∧ n = body.length + 1 ∧ Units body := by
  fun_induction unescapedSlash? cs generalizing n with
  | case1 => cases found
  | case2 rest =>
    obtain rfl := Option.some.inj found
    exact ⟨rfl, [], rest, rfl, rfl, .nil⟩
  | case3 => cases found
  | case4 c others _ _ inductionHypothesis =>
    obtain ⟨m, later, rfl⟩ := Option.map_eq_some_iff.mp found
    obtain ⟨closed, body, behind, rfl, rfl, units⟩ := inductionHypothesis later
    refine ⟨?_, '\\' :: c :: body, behind, rfl, rfl, .pair c units⟩
    rw [closing?_pair, closed]
    rfl
  | case5 => cases found
  | case6 c rest notSlash notNewline notBackslash inductionHypothesis =>
    obtain ⟨m, later, rfl⟩ := Option.map_eq_some_iff.mp found
    obtain ⟨closed, body, behind, rfl, rfl, units⟩ := inductionHypothesis later
    have plain : c ∉ ['/', '\\', '\n'] := by simp [notSlash, notNewline, notBackslash]
    refine ⟨?_, c :: body, behind, rfl, rfl, .single plain units⟩
    rw [closing?_single plain, closed]
    rfl

/-- Where the scanner finds a closing slash, the careful reader finds the same one or none, and
none just when what the scanner takes are not units. -/
theorem unescapedSlash?_of_closing?
    (closed : closing? (body ++ '/' :: behind) = some (body.length + 1)) :
    Units body ∧ unescapedSlash? (body ++ '/' :: behind) = some (body.length + 1) ∨
      ¬ Units body ∧ unescapedSlash? (body ++ '/' :: behind) = none := by
  cases found : unescapedSlash? (body ++ '/' :: behind) with
  | none =>
    refine Or.inr ⟨fun units => ?_, rfl⟩
    rw [unescapedSlash?_append units] at found
    cases found
  | some n =>
    obtain ⟨same, front, others, written, rfl, units⟩ := exists_units_of_unescapedSlash? found
    have length : front.length = body.length := by
      rw [closed] at same
      exact (Nat.succ.inj (Option.some.inj same)).symm
    obtain rfl : body = front := (List.append_inj written length.symm).1
    exact Or.inl ⟨units, rfl⟩

end Closing

/-! Regular expressions as lexemes. -/

/-- A text is a regular expression with the given body and flags, and it is split there. -/
structure IsRegex (text : String) (body flags : List Char) : Prop where
  written : text.toList = '/' :: (body ++ '/' :: flags)
  letters : ∀ c ∈ flags, isFlag c = true
  filled : body ≠ []
  split : splitRegex text = (String.ofList body, String.ofList flags)

/-- The last slash of a text is the one behind which no slash stands. -/
theorem splitRegex_eq {text : String} {body flags : List Char}
    (written : text.toList = '/' :: (body ++ '/' :: flags))
    (letters : ∀ c ∈ flags, isFlag c = true) :
    splitRegex text = (String.ofList body, String.ofList flags) := by
  have noSlash : ∀ c ∈ flags.reverse, decide (c ≠ '/') = true := by
    intro c member
    refine decide_eq_true ?_
    rintro rfl
    exact absurd (letters '/' (List.mem_reverse.mp member)) (by decide)
  have turned : text.toList.reverse = flags.reverse ++ '/' :: (body.reverse ++ ['/']) := by
    rw [written]
    simp
  rw [splitRegex, turned, List.dropWhile_append_of_pos noSlash,
    List.takeWhile_append_of_pos noSlash]
  simp

/-- A match of the alternative takes a slash, a body, its closing slash and the flags behind. -/
theorem exists_parts_of_regex? {cs : List Char} {n : Nat} (matched : regex? cs = some n) :
    ∃ body behind, cs = '/' :: (body ++ '/' :: behind) ∧ body ≠ [] ∧
      closing? (body ++ '/' :: behind) = some (body.length + 1) ∧ LooseUnits body ∧
      cs.take n = '/' :: (body ++ '/' :: behind.takeWhile isFlag) := by
  unfold regex? at matched
  split at matched
  · cases matched
  · rename_i rest noComment
    obtain ⟨m, closed, rfl⟩ := Option.map_eq_some_iff.mp matched
    obtain ⟨body, behind, rfl, rfl, loose⟩ := exists_looseUnits_of_closing? closed
    refine ⟨body, behind, rfl, ?_, closed, loose, ?_⟩
    · rintro rfl
      exact noComment behind rfl
    · have later : (body ++ '/' :: behind).drop (body.length + 1) = behind := by simp
      have flags : behind.take (flagCount behind) = behind.takeWhile isFlag :=
        (List.prefix_iff_eq_take.mp (List.takeWhile_prefix isFlag)).symm
      have front : 1 + (body.length + 1) = ('/' :: (body ++ ['/'])).length := by
        simp only [List.length_cons, List.length_append, List.length_nil]
        omega
      have parts : '/' :: (body ++ '/' :: behind) = '/' :: (body ++ ['/']) ++ behind := by simp
      rw [later, front, parts, List.take_length_add_append, flags]
      simp
  · cases matched

/-- Every regular expression of a rule file is a slash, a body that is not empty, a slash and
flags, and it is split at that slash. If a slash that is not escaped stands in front of the end
of the line, then the first one closes the body, and every backslash of the body escapes the
character behind it. If none does, the scanner takes a backslash of the body alone: the last
character, which escapes the closing slash, or the first one of two in front of a newline. -/
theorem regexes_end_at_unescaped_slashes_where_there_are_any {source : List Char}
    {lexemes : Lexemes} (cut : scan source = .ok lexemes) {l : Lexeme} (member : l ∈ lexemes.list)
    (regex : l.kind = .regex) :
    ∃ body flags, IsRegex l.text body flags ∧ LooseUnits body ∧
      (Units body ∧
          unescapedSlash? (source.drop (l.start.offset + 1)) = some (body.length + 1) ∨
        ¬ Units body ∧ unescapedSlash? (source.drop (l.start.offset + 1)) = none) := by
  have stands := (accountFor_of_scan cut).1.stand l member
  have matched := (Kind.match?_of_first? stands.matched).2
  rw [regex] at matched
  obtain ⟨body, behind, written, filled, closed, loose, taken⟩ := exists_parts_of_regex? matched
  have letters : ∀ c ∈ behind.takeWhile isFlag, isFlag c = true := fun c => List.mem_takeWhile_imp
  have text : l.text.toList = '/' :: (body ++ '/' :: behind.takeWhile isFlag) :=
    stands.slice.trans taken
  have rest : source.drop (l.start.offset + 1) = body ++ '/' :: behind := by
    rw [← List.drop_drop, written]
    rfl
  have parts : IsRegex l.text body (behind.takeWhile isFlag) :=
    ⟨text, letters, filled, splitRegex_eq text letters⟩
  refine ⟨body, behind.takeWhile isFlag, parts, loose, ?_⟩
  rw [rest]
  exact unescapedSlash?_of_closing? closed

/-- An escaped slash stays inside the body, because another slash follows. -/
theorem escaped_slash_stays_inside :
    scan "/a\\/b/i".toList = .ok
      ⟨[⟨.regex, "/a\\/b/i", ⟨0, 1, 1⟩, 7⟩], ⟨.finish, "", ⟨7, 1, 8⟩, 7⟩⟩ ∧
    ∃ body flags, IsRegex "/a\\/b/i" body flags ∧ LooseUnits body ∧
      (Units body ∧ unescapedSlash? "a\\/b/i".toList = some (body.length + 1) ∨
        ¬ Units body ∧ unescapedSlash? "a\\/b/i".toList = none) := by
  have cut : scan "/a\\/b/i".toList = .ok
      ⟨[⟨.regex, "/a\\/b/i", ⟨0, 1, 1⟩, 7⟩], ⟨.finish, "", ⟨7, 1, 8⟩, 7⟩⟩ := by cbv
  exact ⟨cut,
    regexes_end_at_unescaped_slashes_where_there_are_any cut (List.mem_singleton_self _) rfl⟩

/-- Without another slash the escaped one closes the body, and the pattern ends in the
backslash that escapes it. -/
theorem escaped_slash_closes :
    scan "/a\\/".toList = .ok ⟨[⟨.regex, "/a\\/", ⟨0, 1, 1⟩, 4⟩], ⟨.finish, "", ⟨4, 1, 5⟩, 4⟩⟩ ∧
    splitRegex "/a\\/" = ("a\\", "") ∧
    ¬ ∃ body flags, IsRegex "/a\\/" body flags ∧ Units body := by
  refine ⟨by cbv, by decide, ?_⟩
  rintro ⟨body, flags, parts, units⟩
  have written : ['/', 'a', '\\', '/'] = '/' :: (body ++ '/' :: flags) := parts.written
  have found := unescapedSlash?_append units flags
  rw [← (List.cons.inj written).2] at found
  have none : unescapedSlash? ['a', '\\', '/'] = none := by decide
  exact absurd (none.symm.trans found) (by simp)

/-- Two backslashes at the end of a line are taken apart where the slash that closes the body
stands on the next line. -/
example : regex? "/\\\\\na/".toList = some 6 ∧
    unescapedSlash? "\\\\\na/".toList = none := by decide

end Predictive.RuleFile
