import Predictive.Proofs.Scanning
import Predictive.RuleFile.Written

/-!
# Written literals are read back

A written literal holds its text character by character, and escapes the few that a
literal cannot hold as they are. So no character inside it closes the literal early, and
decoding gives each character back. A literal may stand in front of any text.
-/

namespace Predictive

namespace Text

namespace LiteralMode

theorem decode_cons {mode next : LiteralMode} {c : Char} {written : List Char}
    (steps : mode.step c = .ok (written, next)) (rest : List Char) :
    mode.decode (c :: rest) = (next.decode rest).map (written ++ ·) := by
  simp only [decode, steps]

/-- A backslash and a character that escapes to one character. -/
theorem decode_escape {c d : Char} (steps : escape.step c = .ok ([d], plain)) (rest : List Char) :
    plain.decode ('\\' :: c :: rest) = (plain.decode rest).map (d :: ·) := by
  have opens : plain.step '\\' = .ok ([], escape) := rfl
  rw [decode_cons opens, decode_cons steps]
  cases plain.decode rest <;> rfl

/-- The null character as two hexadecimal digits. -/
theorem decode_null (rest : List Char) :
    plain.decode ('\\' :: 'x' :: '0' :: '0' :: rest) =
      (plain.decode rest).map (Char.ofNat 0 :: ·) := by
  have opens : plain.step '\\' = .ok ([], escape) := rfl
  have counts : escape.step 'x' = .ok ([], hex 2 0) := rfl
  have first : (hex 2 0).step '0' = .ok ([], hex 1 0) := rfl
  have second : (hex 1 0).step '0' = .ok ([Char.ofNat 0], plain) := rfl
  rw [decode_cons opens, decode_cons counts, decode_cons first, decode_cons second]
  cases plain.decode rest <;> rfl

end LiteralMode

/-- The forms in which a character is written: itself behind a backslash, a letter
behind a backslash, the digits of the null character, or the character alone. -/
theorem literalChar_cases (c : Char) :
    ((c = '\\' ∨ c = doubleQuote) ∧ literalChar c = ['\\', c]) ∨
    (c = '\n' ∧ literalChar c = ['\\', 'n']) ∨ (c = '\r' ∧ literalChar c = ['\\', 'r']) ∨
    (c = Char.ofNat 0 ∧ literalChar c = ['\\', 'x', '0', '0']) ∨
    (c ≠ '\\' ∧ c ≠ doubleQuote ∧ c ≠ '\n' ∧ c ≠ '\r' ∧ c ≠ Char.ofNat 0 ∧
      literalChar c = [c]) := by
  unfold literalChar
  by_cases marked : c = '\\' ∨ c = doubleQuote
  · exact Or.inl ⟨marked, if_pos marked⟩
  by_cases newline : c = '\n'
  · exact Or.inr (Or.inl ⟨newline, by rw [if_neg marked, if_pos newline]⟩)
  by_cases carriage : c = '\r'
  · exact Or.inr (Or.inr (Or.inl ⟨carriage, by rw [if_neg marked, if_neg newline, if_pos carriage]⟩))
  by_cases null : c = Char.ofNat 0
  · refine Or.inr (Or.inr (Or.inr (Or.inl ⟨null, ?_⟩)))
    rw [if_neg marked, if_neg newline, if_neg carriage, if_pos null]
  · refine Or.inr (Or.inr (Or.inr (Or.inr ?_)))
    rw [if_neg marked, if_neg newline, if_neg carriage, if_neg null]
    exact ⟨fun same => marked (Or.inl same), fun same => marked (Or.inr same), newline, carriage,
      null, rfl⟩

/-- A written character holds neither a null character nor a carriage return. -/
theorem ne_of_mem_literalChar {c d : Char} (member : d ∈ literalChar c) :
    d ≠ Char.ofNat 0 ∧ d ≠ '\r' := by
  have each : (literalChar c).all (fun d => d ≠ Char.ofNat 0 ∧ d ≠ '\r') = true := by
    rcases literalChar_cases c with ⟨rfl | rfl, written⟩ | ⟨rfl, written⟩ | ⟨rfl, written⟩ |
        ⟨rfl, written⟩ | ⟨_, _, _, carriage, null, written⟩
    · rfl
    · rfl
    · rfl
    · rfl
    · rfl
    · simp [written, carriage, null]
  exact of_decide_eq_true (List.all_eq_true.mp each d member)

/-- A written character decodes to itself. -/
theorem decode_literalChar (c : Char) (rest : List Char) :
    LiteralMode.plain.decode (literalChar c ++ rest) =
      (LiteralMode.plain.decode rest).map (c :: ·) := by
  rcases literalChar_cases c with ⟨marked, written⟩ | ⟨rfl, written⟩ | ⟨rfl, written⟩ |
      ⟨rfl, written⟩ | ⟨backslash, _, newline, _, _, written⟩
  · rw [written]
    have steps : LiteralMode.escape.step c = .ok ([c], .plain) := by rcases marked with rfl | rfl <;> rfl
    exact LiteralMode.decode_escape steps rest
  · rw [written]
    exact LiteralMode.decode_escape rfl rest
  · rw [written]
    exact LiteralMode.decode_escape rfl rest
  · rw [written]
    exact LiteralMode.decode_null rest
  · rw [written]
    have steps : LiteralMode.plain.step c = .ok ([c], .plain) := by
      simp [LiteralMode.step, LiteralMode.stepPlain, backslash, newline]
    exact LiteralMode.decode_cons steps rest

/-- The body of a written literal decodes to its text. -/
theorem decode_literalChars (cs : List Char) :
    LiteralMode.plain.decode (cs.flatMap literalChar) = .ok cs := by
  induction cs with
  | nil => rfl
  | cons c rest inductionHypothesis =>
    rw [List.flatMap_cons, decode_literalChar, inductionHypothesis]
    rfl

/-- A written literal is read back as its text. -/
theorem unquote_literal (cs : List Char) : unquote (literal cs) = .ok cs := by
  have body : ∀ d ∈ cs.flatMap literalChar ++ [doubleQuote], d ≠ Char.ofNat 0 ∧ d ≠ '\r' := by
    intro d member
    rcases List.mem_append.mp member with inside | quote
    · obtain ⟨c, _, written⟩ := List.mem_flatMap.mp inside
      exact ne_of_mem_literalChar written
    · rw [List.mem_singleton.mp quote]
      decide
  have noNull : Char.ofNat 0 ∉ literal cs := by
    intro member
    rcases List.mem_cons.mp member with quote | inside
    · exact absurd quote (by decide)
    · exact (body _ inside).1 rfl
  have tail : (literal cs).tail = cs.flatMap literalChar ++ [doubleQuote] := rfl
  rw [unquote, if_neg noNull, tail, normalize_eq_self (fun d member => (body d member).2),
    List.dropLast_concat, decode_literalChars]

end Text

namespace RuleFile

open Text (literal literalChar literalChar_cases doubleQuote)

section QuoteEnd

variable {quote c : Char} (rest : List Char)

theorem quoteEnd?_quote : quoteEnd? quote (quote :: rest) = some 1 := by
  unfold quoteEnd?
  exact if_pos rfl

theorem quoteEnd?_pair (other : '\\' ≠ quote) :
    quoteEnd? quote ('\\' :: c :: rest) = (quoteEnd? quote rest).map (· + 2) := by
  conv => lhs; unfold quoteEnd?
  rw [if_neg other, if_pos rfl]

theorem quoteEnd?_plain (other : c ≠ quote) (plain : c ≠ '\\') :
    quoteEnd? quote (c :: rest) = (quoteEnd? quote rest).map (· + 1) := by
  conv => lhs; unfold quoteEnd?
  rw [if_neg other, if_neg plain]

end QuoteEnd

/-- No written character closes a literal. -/
theorem quoteEnd?_literalChar (c : Char) (rest : List Char) :
    quoteEnd? doubleQuote (literalChar c ++ rest) =
      (quoteEnd? doubleQuote rest).map (· + (literalChar c).length) := by
  have backslash : '\\' ≠ doubleQuote := by decide
  rcases literalChar_cases c with ⟨_, written⟩ | ⟨_, written⟩ | ⟨_, written⟩ | ⟨_, written⟩ |
      ⟨plain, quote, _, _, _, written⟩
  · rw [written]
    exact quoteEnd?_pair rest backslash
  · rw [written]
    exact quoteEnd?_pair rest backslash
  · rw [written]
    exact quoteEnd?_pair rest backslash
  · have digit : quoteEnd? doubleQuote ('0' :: '0' :: rest) =
        (quoteEnd? doubleQuote rest).map (· + 2) := by
      rw [quoteEnd?_plain _ (by decide) (by decide), quoteEnd?_plain _ (by decide) (by decide),
        Option.map_map]
      rfl
    have pair := quoteEnd?_pair (c := 'x') ('0' :: '0' :: rest) backslash
    rw [digit, Option.map_map] at pair
    rw [written]
    exact pair
  · rw [written]
    exact quoteEnd?_plain rest quote plain

theorem quoteEnd?_literalChars (cs rest : List Char) :
    quoteEnd? doubleQuote (cs.flatMap literalChar ++ doubleQuote :: rest) =
      some ((cs.flatMap literalChar).length + 1) := by
  induction cs with
  | nil => exact quoteEnd?_quote rest
  | cons c others inductionHypothesis =>
    rw [List.flatMap_cons, List.append_assoc, quoteEnd?_literalChar, inductionHypothesis,
      Option.map_some, List.length_append, Option.some.injEq]
    omega

/-- In front of any text a written literal is cut off as one lexeme. -/
theorem first?_literal (cs behind : List Char) :
    Kind.first? (literal cs ++ behind) = some (.doubleQuoted, (literal cs).length) := by
  have text : literal cs ++ behind =
      doubleQuote :: (cs.flatMap literalChar ++ doubleQuote :: behind) := by
    simp [literal]
  have matched : Kind.doubleQuoted.match?
      (doubleQuote :: (cs.flatMap literalChar ++ doubleQuote :: behind)) =
        some (literal cs).length := by
    have quote : Char.ofNat 34 = doubleQuote := rfl
    rw [Kind.match?, quote, quoted?, if_pos rfl, quoteEnd?_literalChars]
    simp [literal]
  rw [text]
  refine Kind.first?_of_only matched ?_
  intro other
  cases other <;> decide

end RuleFile

end Predictive
