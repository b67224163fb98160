import Predictive.Lexer.Calls
import Predictive.Proofs.TextOffsets

/-!
# What calls of a lexer answer

Between two calls a lexer stands somewhere in the text that it was last given, and it may
keep a token of that text. `Sound` says so, and every call leaves it so, whatever is
called. From there a reading passes over ignored text to an offset, and answers what is
found at that offset: the end, the token that the lexicon takes, or a fault.
-/

namespace Predictive

open Text (Position)

/-- A place lies in a text, at its offset. -/
structure TextPlace.IsIn (p : TextPlace) (text : List Char) : Prop where
  text_eq : text = p.before.reverse ++ p.rest
  offset_eq : p.position.offset = p.before.length

namespace TextPlace.IsIn

variable {p : TextPlace} {text piece : List Char}

theorem take_eq (inside : p.IsIn text) : text.take p.position.offset = p.before.reverse := by
  rw [inside.text_eq, inside.offset_eq, ← List.length_reverse, List.take_left]

theorem drop_eq (inside : p.IsIn text) : text.drop p.position.offset = p.rest := by
  rw [inside.text_eq, inside.offset_eq, ← List.length_reverse, List.drop_left]

theorem offset_le (inside : p.IsIn text) : p.position.offset ≤ text.length := by
  rw [inside.text_eq, inside.offset_eq, List.length_append, List.length_reverse]
  exact Nat.le_add_right _ _

/-- Only at the end of the text nothing is left. -/
theorem finished_iff (inside : p.IsIn text) : p.rest = [] ↔ p.position.offset = text.length := by
  rw [inside.text_eq, inside.offset_eq, List.length_append, List.length_reverse,
    ← List.length_eq_zero_iff]
  omega

/-- The place behind a piece of the text ahead. -/
theorem advance (inside : p.IsIn text) (stands : piece ++ p.rest.drop piece.length = p.rest) :
    (p.advance piece).IsIn text where
  text_eq := by
    rw [TextPlace.advance, List.reverse_append, List.reverse_reverse, List.append_assoc, stands]
    exact inside.text_eq
  offset_eq := by
    rw [TextPlace.advance, Position.advance_offset, inside.offset_eq, List.length_append,
      List.length_reverse, Nat.add_comm]

end TextPlace.IsIn

namespace Lexicon

variable {lx : Lexicon} {p q : TextPlace} {text piece : List Char} {start stop : Nat}

/-- A token is what the lexicon takes at the offset of the token, inside the text. -/
structure Takes (lx : Lexicon) (text : List Char) (t : Token) : Prop where
  inside : t.offset < text.length
  taken : lx.tokenAt? (text.take t.offset).reverse (text.drop t.offset) =
    some (t.kind, t.text.toList)

/-- Nothing is ignored at an offset. -/
def NothingIgnoredAt (lx : Lexicon) (text : List Char) (i : Nat) : Prop :=
  lx.NothingIgnored (text.take i).reverse (text.drop i)

/-- What is answered at an offset: that it is the end, the token there, or a fault at the
character there. -/
inductive Finds (lx : Lexicon) (text : List Char) (i : Nat) :
    Except LexFault (Option Token) → Prop where
  | ended (finished : i = text.length) : Finds lx text i (.ok none)
  | token {t : Token} (offset : t.offset = i) (takes : lx.Takes text t) :
      Finds lx text i (.ok (some t))
  | fault {f : LexFault} (offset : f.position.offset = i) (char : text[i]? = some f.char)
      (missing : lx.tokenAt? (text.take i).reverse (text.drop i) = none) :
      Finds lx text i (.error f)

/-- Passing over ignored text stays in the text. -/
theorem Passes.isIn (passes : lx.Passes p q piece) (inside : p.IsIn text) : q.IsIn text where
  text_eq := by
    rw [inside.text_eq, passes.rest_eq, passes.before_eq, List.reverse_append,
      List.reverse_reverse, List.append_assoc]
  offset_eq := by
    rw [passes.position_eq, passes.before_eq, Position.behind, inside.offset_eq,
      List.length_append, List.length_reverse, Nat.add_comm]

/-- What is passed over is ignored text, from one offset to the other. -/
theorem Passes.ignoredBetween (passes : lx.Passes p q piece) (inside : p.IsIn text) :
    lx.IgnoredBetween text p.position.offset q.position.offset := by
  have behind : q.position.offset = p.position.offset + piece.length := by
    rw [passes.position_eq]
    rfl
  constructor
  · rw [behind]
    exact Nat.le_add_right _ _
  · exact (passes.isIn inside).offset_le
  · rw [inside.take_eq, inside.drop_eq, (passes.isIn inside).drop_eq, List.reverse_reverse, behind,
      Nat.add_sub_cancel_left, passes.rest_eq, List.take_left]
    exact passes.ignored

/-- A reading passes over ignored text and answers what is found behind it. -/
theorem read_finds (lx : Lexicon) (inside : p.IsIn text) :
    (∃ stop, lx.IgnoredBetween text p.position.offset stop ∧
      (stop < text.length → lx.NothingIgnoredAt text stop) ∧ lx.Finds text stop (lx.read p).1) ∧
    (lx.read p).2.IsIn text := by
  obtain ⟨piece, passes⟩ := lx.exists_passes p
  -- The offset is the one behind the ignored text, where the pass has stopped.
  have between := passes.ignoredBetween inside
  have nothing : (lx.pass p).position.offset < text.length →
      lx.NothingIgnoredAt text (lx.pass p).position.offset := by
    intro more
    rw [NothingIgnoredAt, (passes.isIn inside).take_eq, (passes.isIn inside).drop_eq,
      List.reverse_reverse]
    refine passes.stops.resolve_left ?_
    rw [(passes.isIn inside).finished_iff]
    omega
  replace inside := passes.isIn inside
  unfold read
  generalize lx.pass p = q at between nothing inside
  have before : (text.take q.position.offset).reverse = q.before := by
    rw [inside.take_eq, List.reverse_reverse]
  dsimp only
  split
  · rename_i finished
    exact ⟨⟨_, between, nothing, .ended (inside.finished_iff.mp finished)⟩, inside⟩
  · rename_i c others more
    split
    · rename_i missing
      refine ⟨⟨_, between, nothing, .fault rfl ?_ ?_⟩, inside⟩
      · rw [← List.head?_drop, inside.drop_eq, more]
        rfl
      · rw [before, inside.drop_eq]
        exact missing
    · rename_i kind found taken
      refine ⟨⟨_, between, nothing, .token rfl ⟨?_, ?_⟩⟩, inside.advance ?_⟩
      · refine Nat.lt_of_le_of_ne inside.offset_le (fun finished => ?_)
        simp [inside.finished_iff.mpr finished] at more
      · rw [before, inside.drop_eq, String.toList_ofList]
        exact taken
      · exact (candidate_of_tokenAt? taken).drop_eq

end Lexicon

namespace Lexer

variable {l : Lexer}

/-- A lexer stands in its text, and a token that it keeps is one of the text. -/
structure Sound (l : Lexer) : Prop where
  inside : l.place.IsIn l.text
  ahead_takes : ∀ t ∈ l.ahead, l.lexicon.Takes l.text t

theorem sound_reset (l : Lexer) (text : List Char) (line column : Nat) :
    (l.reset text line column).Sound where
  inside := ⟨rfl, rfl⟩
  ahead_takes := by simp [reset]

theorem Sound.read_takes (sound : l.Sound) {t : Token}
    (answered : (l.lexicon.read l.place).1 = .ok (some t)) : l.lexicon.Takes l.text t := by
  obtain ⟨⟨stop, _, _, finds⟩, _⟩ := l.lexicon.read_finds sound.inside
  rw [answered] at finds
  cases finds with
  | token _ takes => exact takes

/-- No call changes the lexicon. -/
theorem lexicon_call (l : Lexer) (c : Call) : (l.call c).2.lexicon = l.lexicon := by
  cases c with
  | reset text line column => rfl
  | next =>
    simp only [call, next]
    split <;> rfl
  | peek =>
    simp only [call, peek, read_eq]
    split
    · rfl
    · cases (l.lexicon.read l.place).1 <;> rfl

/-- Looking at a token and taking it leave the text bound. -/
theorem text_peek (l : Lexer) : l.peek.2.text = l.text := by
  simp only [peek, read_eq]
  split
  · rfl
  · cases (l.lexicon.read l.place).1 <;> rfl

theorem text_next (l : Lexer) : l.next.2.text = l.text := by
  simp only [next]
  split <;> rfl

/-- A token that is answered is one of the text. -/
theorem Sound.answer_takes (sound : l.Sound) {c : Call} {t : Token}
    (answered : (l.call c).1 = some (.ok (some t))) : l.lexicon.Takes l.text t := by
  cases kept : l.ahead with
  | some u =>
    have same : u = t := by
      cases c with
      | reset text line column => simp [call] at answered
      | next => simpa [call, next, kept] using answered
      | peek => simpa [call, peek, kept] using answered
    exact sound.ahead_takes t (kept.trans (congrArg some same))
  | none =>
    refine sound.read_takes ?_
    cases c with
    | reset text line column => simp [call] at answered
    | next => simpa only [call, next, kept, read_eq, Option.some.injEq] using answered
    | peek =>
      simp only [call, peek, kept, read_eq, Option.some.injEq] at answered
      rcases answer : (l.lexicon.read l.place).1 with fault | look
      · simp [answer] at answered
      · simpa [answer] using answered

/-- Every call leaves a lexer sound. -/
theorem Sound.call (sound : l.Sound) (c : Call) : (l.call c).2.Sound := by
  obtain ⟨_, inside⟩ := l.lexicon.read_finds sound.inside
  cases c with
  | reset text line column => exact l.sound_reset text line column
  | next =>
    simp only [Lexer.call, next]
    split
    · exact ⟨sound.inside, by simp⟩
    · rename_i fresh
      exact ⟨inside, by simp [read_eq, fresh]⟩
  | peek =>
    simp only [Lexer.call, peek, read_eq]
    split
    · exact sound
    · rename_i fresh
      rcases answer : (l.lexicon.read l.place).1 with fault | look
      · exact ⟨inside, by simp [fresh]⟩
      · refine ⟨inside, ?_⟩
        intro t shown
        exact sound.read_takes (answer.trans (congrArg Except.ok shown))

/-- So do calls one after another. -/
theorem Sound.calls (sound : l.Sound) (cs : List Call) :
    (l.calls cs).2.Sound ∧ (l.calls cs).2.lexicon = l.lexicon := by
  induction cs generalizing l with
  | nil => exact ⟨sound, rfl⟩
  | cons c others inductionHypothesis =>
    obtain ⟨soundLast, lastLexicon⟩ := inductionHypothesis (sound.call c)
    exact ⟨soundLast, lastLexicon.trans (l.lexicon_call c)⟩

/-- A lexer that calls lead to is sound. -/
theorem Reached.sound {lx : Lexicon} (reached : Reached lx l) : l.Sound ∧ l.lexicon = lx := by
  obtain ⟨cs, rfl⟩ := reached
  have fresh : ({ lexicon := lx } : Lexer).Sound := ⟨⟨rfl, rfl⟩, by simp⟩
  exact fresh.calls cs

/-- A lexer that keeps no token answers either request by a reading. -/
theorem call_of_ahead_eq_none (fresh : l.ahead = none) :
    l.peek.1 = (l.lexicon.read l.place).1 ∧ l.next.1 = (l.lexicon.read l.place).1 := by
  constructor
  · simp only [peek, fresh, read_eq]
    cases (l.lexicon.read l.place).1 <;> rfl
  · simp only [next, fresh, read_eq]

end Lexer

end Predictive
