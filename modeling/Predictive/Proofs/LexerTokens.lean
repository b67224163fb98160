import Predictive.Lexer.Basic

/-!
# The tokens of a text

Where no keyword is empty, every token that a lexicon takes is a piece of text that
is not empty. So each token leaves less text behind, and reading one token after
another comes to the end of the text or to a fault.

`Gives` lists the tokens that lie behind a place, one reading at a time. It speaks of
the lexicon and the text only; the fuel of a lexer and the token that it keeps are
left out, and the tokens of a lexer are shown to be those that its lexicon gives.
-/

namespace Predictive

namespace Lexicon

open Text (Position)

variable {lx : Lexicon} {before rest text : List Char} {kind : Symbol}

/-- No keyword is the empty text. -/
def Filled (lx : Lexicon) : Prop := ∀ keyword ∈ lx.keywords, keyword ≠ []

theorem Filled.keywordAt? (filled : lx.Filled) (found : lx.keywordAt? before rest = some text) :
    text ≠ [] :=
  filled text (List.mem_of_find?_eq_some found)

/-- A candidate that is not empty stays one when it meets a match. -/
theorem longer_ne_nil {best : Option (Symbol × List Char)} {name : Symbol}
    (each : ∀ b ∈ best, b.2 ≠ []) : ∀ b ∈ longer best name text, b.2 ≠ [] := by
  intro b chosen
  unfold longer at chosen
  split at chosen
  · rename_i longest
    obtain rfl : (name, text) = b := by simpa using chosen
    exact List.ne_nil_of_length_pos (Nat.lt_of_le_of_lt (Nat.zero_le _) longest)
  · exact each b chosen

/-- The match of a token rule is not empty. -/
theorem ruleAt?_ne_nil {rule : Symbol × List Char} (found : lx.ruleAt? before rest = some rule) :
    rule.2 ≠ [] := by
  have each : ∀ b ∈ lx.ruleAt? before rest, b.2 ≠ [] := by
    refine List.foldlRecOn (motive := fun (best : Option (Symbol × List Char)) =>
      ∀ b ∈ best, b.2 ≠ []) lx.tokens _ ?_ ?_
    · simp
    · intro best bestFilled rule _
      split
      · exact longer_ne_nil bestFilled
      · exact bestFilled
  exact each rule found

/-- A token is a piece of text that is not empty. -/
theorem Filled.tokenAt? (filled : lx.Filled) (found : lx.tokenAt? before rest = some (kind, text)) :
    text ≠ [] := by
  unfold Lexicon.tokenAt? at found
  split at found
  · rename_i keyword rule keywordFound ruleFound
    split at found
    · obtain ⟨_, rfl⟩ := Prod.mk.inj (Option.some.inj found)
      exact filled.keywordAt? keywordFound
    · obtain rfl := Option.some.inj found
      exact ruleAt?_ne_nil ruleFound
  · rename_i keyword keywordFound _
    obtain ⟨_, rfl⟩ := Prod.mk.inj (Option.some.inj found)
    exact filled.keywordAt? keywordFound
  · exact ruleAt?_ne_nil found

/-- Passing over ignored text leaves no more text behind. -/
theorem passFrom_length_le (skip : Nat) (before : List Char) (p : Position) (rest : List Char) :
    (lx.passFrom skip before p rest).rest.length ≤ rest.length := by
  induction rest generalizing skip before p with
  | nil => simp [passFrom]
  | cons c rest inductionHypothesis =>
    cases skip with
    | succ skip =>
      have shorter := inductionHypothesis skip (c :: before) (p.after c)
      simp only [passFrom, List.length_cons]
      omega
    | zero =>
      simp only [passFrom]
      split
      · exact Nat.le_refl _
      · rename_i length _
        have shorter := inductionHypothesis (length - 1) (c :: before) (p.after c)
        simp only [List.length_cons]
        omega

theorem pass_length_le (p : TextPlace) : (lx.pass p).rest.length ≤ p.rest.length :=
  passFrom_length_le 0 p.before p.position p.rest

/-- A token leaves less text behind than there was. -/
theorem Filled.read_length_lt (filled : lx.Filled) {p q : TextPlace} {t : Token}
    (reads : lx.read p = (.ok (some t), q)) : q.rest.length < p.rest.length := by
  have passed : (lx.pass p).rest.length ≤ p.rest.length := pass_length_le p
  simp only [read] at reads
  split at reads
  · simp at reads
  · rename_i c others more
    split at reads
    · simp at reads
    · rename_i kind text found
      obtain ⟨_, rfl⟩ := Prod.mk.inj reads
      have positive : 0 < text.length := List.length_pos_iff.mpr (filled.tokenAt? found)
      have whole : (lx.pass p).rest.length = others.length + 1 := by
        rw [more, List.length_cons]
      simp only [TextPlace.advance, List.length_drop]
      omega

/-- The tokens that lie behind a place, read one by one up to the end of the text or
to a fault. -/
inductive Gives (lx : Lexicon) : TextPlace → List Token → Option LexFault → Prop where
  | ended {p q : TextPlace} (reads : lx.read p = (.ok none, q)) : Gives lx p [] none
  | faulted {p q : TextPlace} {fault : LexFault} (reads : lx.read p = (.error fault, q)) :
      Gives lx p [] (some fault)
  | token {p q : TextPlace} {t : Token} {others : List Token} {fault : Option LexFault}
      (reads : lx.read p = (.ok (some t), q)) (behind : Gives lx q others fault) :
      Gives lx p (t :: others) fault

/-- There are no more tokens than characters. -/
theorem Gives.length_le (filled : lx.Filled) {p : TextPlace} {tokens : List Token}
    {fault : Option LexFault} (gives : lx.Gives p tokens fault) :
    tokens.length ≤ p.rest.length := by
  induction gives with
  | ended _ => exact Nat.zero_le _
  | faulted _ => exact Nat.zero_le _
  | token reads _ inductionHypothesis =>
    have shorter := filled.read_length_lt reads
    simp only [List.length_cons]
    omega

/-- A place gives one list of tokens. -/
theorem Gives.unique {p : TextPlace} {tokens others : List Token}
    {fault other : Option LexFault} (one : lx.Gives p tokens fault)
    (again : lx.Gives p others other) : tokens = others ∧ fault = other := by
  induction one generalizing others with
  | ended reads =>
    cases again with
    | ended _ => exact ⟨rfl, rfl⟩
    | faulted readsToo => simp [reads] at readsToo
    | token readsToo _ => simp [reads] at readsToo
  | faulted reads =>
    cases again with
    | ended readsToo => simp [reads] at readsToo
    | faulted readsToo =>
      rw [reads] at readsToo
      obtain ⟨same, _⟩ := Prod.mk.inj readsToo
      exact ⟨rfl, congrArg some (Except.error.inj same)⟩
    | token readsToo _ => simp [reads] at readsToo
  | token reads _ inductionHypothesis =>
    cases again with
    | ended readsToo => simp [reads] at readsToo
    | faulted readsToo => simp [reads] at readsToo
    | token readsToo behind =>
      rw [reads] at readsToo
      obtain ⟨same, rfl⟩ := Prod.mk.inj readsToo
      obtain rfl := Option.some.inj (Except.ok.inj same)
      obtain ⟨rfl, rfl⟩ := inductionHypothesis behind
      exact ⟨rfl, rfl⟩

end Lexicon

namespace Lexer

variable {l : Lexer}

theorem read_eq (l : Lexer) : l.read =
    ((l.lexicon.read l.place).1, { l with place := (l.lexicon.read l.place).2 }) := rfl

/-- With more fuel than characters, a lexer that keeps no token takes those that its
lexicon gives. -/
theorem drain_gives (filled : l.lexicon.Filled) {fuel : Nat} (fresh : l.ahead = none)
    (enough : l.place.rest.length < fuel) :
    l.lexicon.Gives l.place (drain fuel l).1 (drain fuel l).2.1 := by
  induction fuel generalizing l with
  | zero => omega
  | succ fuel inductionHypothesis =>
    have next : l.next = l.read := by simp [Lexer.next, fresh]
    rcases reads : l.lexicon.read l.place with ⟨fault | none | t, q⟩
    · simp only [drain, next, read_eq, reads]
      exact .faulted reads
    · simp only [drain, next, read_eq, reads]
      exact .ended reads
    · have shorter := filled.read_length_lt reads
      have behind := inductionHypothesis (l := { l with place := q }) filled fresh (by
        simp only
        omega)
      simp only [drain, next, read_eq, reads]
      exact .token reads behind

/-- The tokens of a lexer that keeps no token are those that its lexicon gives. -/
theorem tokens_gives (filled : l.lexicon.Filled) (fresh : l.ahead = none) {tokens : List Token}
    {fault : Option LexFault} {last : Lexer} (taken : l.tokens = (tokens, fault, last)) :
    l.lexicon.Gives l.place tokens fault := by
  have enough : l.place.rest.length < l.remaining + 1 := by
    simp only [remaining]
    omega
  have gives := drain_gives filled fresh enough
  unfold Lexer.tokens at taken
  rwa [taken] at gives

end Lexer

end Predictive
