import Predictive.Proofs.DocumentReading
import Predictive.RuleFile.Fault

/-!
# What the faults of rule files are about

A reader of rule files gives up at the lexeme ahead or at one that it has just read. Whatever
it went through before, that lexeme is one of those that it was given, or the end behind
them. So what holds of all lexemes and of the end holds of every lexeme that a fault is
about, and the places that messages name are places of lexemes.
-/

namespace Predictive.RuleFile

open Text (Position)

namespace Fault

/-- The place that a message names and points at. Where a semicolon is missing, a message
names the lexeme found and points behind the one in front of it; an unknown mark and a bad
literal are not placed in words. -/
def place? : Fault → Option Position
  | strayChar stray => some stray.position
  | expected _ got => some got.start
  | expectedDirective got => some got.start
  | unknownDirective name => some name.start
  | emptyLiteral literal => some literal.start
  | operator sign => some sign.start
  | unknownMark _ | notClosed _ _ _ | badLiteral _ _ => none

/-- A fault about lexemes that are good. -/
def About (good : Lexeme → Prop) : Fault → Prop
  | strayChar _ => False
  | expected _ l | expectedDirective l | unknownDirective l | unknownMark l | emptyLiteral l
  | operator l | notClosed _ l _ | badLiteral l _ => good l

variable {f : Fault} {p : Position}

/-- A message names its place by line and column. -/
theorem headline_of_place? (placed : f.place? = some p) :
    ∃ front back, f.headline = front ++ " at " ++ p.shown ++ back := by
  cases f <;> cases placed
  case emptyLiteral literal => exact ⟨"Empty literal", "; use %empty for ε", rfl⟩
  case operator sign =>
    exact ⟨"EBNF operator " ++ Text.quoted sign.text,
      " is not supported; write the rule in plain BNF", rfl⟩
  -- All other messages end in the place.
  all_goals exact ⟨_, "", String.append_empty.symm⟩

/-- A message points at the place that it names. -/
theorem anchor?_of_place? (placed : f.place? = some p) : f.anchor? = some p.offset := by
  cases f <;> cases placed <;> rfl

/-- The place that a fault about lexemes names is that of a lexeme. -/
theorem About.exists_lexeme {good : Lexeme → Prop} (about : f.About good)
    (placed : f.place? = some p) : ∃ l, good l ∧ l.start = p := by
  cases f <;> cases placed
  · exact False.elim about
  all_goals exact ⟨_, about, rfl⟩

end Fault

section Readers

variable {α β : Type} (good : Lexeme → Prop)

/-- What is read holds, or the fault is about lexemes that are good. -/
def Upholds (holds : α → Prop) : Except Fault α → Prop
  | .ok a => holds a
  | .error fault => fault.About good

/-- All lexemes that are left to a cursor are good, and the end is. -/
structure Cursor.Within (c : Cursor) : Prop where
  rest : ∀ l ∈ c.rest, good l
  finish : good c.finish

variable {good} {holds : α → Prop} {holdsNext : β → Prop}

theorem Upholds.bind {first : Except Fault α} {next : α → Except Fault β}
    (here : Upholds good holds first) (later : ∀ a, holds a → Upholds good holdsNext (next a)) :
    Upholds good holdsNext (first >>= next) := by
  cases first with
  | error fault => exact here
  | ok a => exact later a here

theorem Upholds.map {first : Except Fault α} {f : α → β} (here : Upholds good holds first)
    (later : ∀ a, holds a → holdsNext (f a)) : Upholds good holdsNext (first.map f) := by
  cases first with
  | error fault => exact here
  | ok a => exact later a here

namespace Cursor

variable {c : Cursor}

theorem Within.ahead (within : c.Within good) : good c.ahead := by
  unfold Cursor.ahead
  cases rest : c.rest with
  | nil => exact within.finish
  | cons l others => exact within.rest l (by simp [rest])

theorem Within.skip (within : c.Within good) : c.skip.Within good where
  rest := fun l member => within.rest l (List.mem_of_mem_tail member)
  finish := within.finish

theorem Within.eat (within : c.Within good) (kind : Kind) :
    Upholds good (fun read => good read.1 ∧ read.2.Within good) (c.eat kind) := by
  unfold Cursor.eat
  split
  · exact ⟨within.ahead, within.skip⟩
  · exact within.ahead

theorem Within.close (within : c.Within good) (what : Closed) :
    Upholds good (·.Within good) (c.close what) := by
  unfold Cursor.close
  split
  · exact within.skip
  · exact within.ahead

end Cursor

namespace Document

variable {c : Cursor}

theorem upholds_readDirective (d : Document) (within : c.Within good) :
    Upholds good (·.2.Within good) (d.readDirective c) := by
  unfold readDirective
  split
  · exact within.ahead
  · dsimp only
    split
    · refine (within.skip.eat .identifier).bind ?_
      rintro ⟨name, c₁⟩ ⟨_, named⟩
      refine (named.eat .regex).bind ?_
      rintro ⟨regex, c₂⟩ ⟨_, matched⟩
      exact (matched.close .tokenDirective).bind (fun _ closed => closed)
    · split
      · refine (within.skip.eat .regex).bind ?_
        rintro ⟨regex, c₁⟩ ⟨_, matched⟩
        exact (matched.close .ignoreDirective).bind (fun _ closed => closed)
      · split
        · refine (within.skip.eat .identifier).bind ?_
          rintro ⟨name, c₁⟩ ⟨_, named⟩
          exact (named.close .startDirective).bind (fun _ closed => closed)
        · exact within.ahead

theorem upholds_readDirectives (fuel : Nat) (d : Document) (within : c.Within good) :
    Upholds good (·.2.Within good) (readDirectives fuel d c) := by
  induction fuel generalizing d c with
  | zero => exact within
  | succ fuel inductionHypothesis =>
    unfold readDirectives
    split
    · have one := upholds_readDirective d within.skip
      split
      · rename_i fault broken
        rwa [broken] at one
      · rename_i declared after read
        rw [read] at one
        exact inductionHypothesis declared one
    · exact within

theorem upholds_readLiteral {l : Lexeme} (here : good l) :
    Upholds good (fun _ => True) (readLiteral l) := by
  unfold readLiteral
  split
  · exact here
  · exact here
  · trivial

theorem upholds_readElements {lexemes : List Lexeme} {finish : Lexeme} (stop : Nat)
    (within : Cursor.Within good ⟨lexemes, finish, stop⟩) :
    Upholds good (·.2.Within good) (readElements lexemes finish stop) := by
  induction lexemes generalizing stop with
  | nil => exact within
  | cons l rest inductionHypothesis =>
    have here : good l := within.ahead
    have others := inductionHypothesis l.stop within.skip
    by_cases named : l.kind = .identifier
    · rw [readElements_name named]
      exact others.map (fun _ left => left)
    by_cases quoted : l.kind = .doubleQuoted ∨ l.kind = .singleQuoted
    · rw [readElements_literal quoted]
      exact (upholds_readLiteral here).bind (fun _ _ => others.map (fun _ left => left))
    · unfold readElements
      split
      · rename_i identifier
        exact absurd identifier named
      · rename_i double
        exact absurd (Or.inl double) quoted
      · rename_i single
        exact absurd (Or.inr single) quoted
      · exact here
      · exact within

theorem upholds_readAlternative (within : c.Within good) :
    Upholds good (·.2.Within good) (readAlternative c) := by
  unfold readAlternative
  split
  · refine (within.skip.eat .identifier).bind ?_
    rintro ⟨keyword, c₁⟩ ⟨worded, left⟩
    dsimp only
    split
    · exact left
    · exact worded
  · exact (upholds_readElements c.lastStop ⟨within.rest, within.finish⟩).bind (fun _ left => left)

theorem upholds_readAlternatives (fuel : Nat) (within : c.Within good) :
    Upholds good (·.2.Within good) (readAlternatives fuel c) := by
  induction fuel generalizing c with
  | zero =>
    have one := upholds_readAlternative within
    unfold readAlternatives
    split
    · rename_i fault broken
      rwa [broken] at one
    · rename_i alternative after read
      rw [read] at one
      exact one
  | succ fuel inductionHypothesis =>
    have one := upholds_readAlternative within
    unfold readAlternatives
    split
    · rename_i fault broken
      rwa [broken] at one
    · rename_i alternative after read
      rw [read] at one
      dsimp only
      split
      · have others := inductionHypothesis one.skip
        split
        · rename_i fault broken
          rwa [broken] at others
        · rename_i later last behind
          rw [behind] at others
          exact others
      · exact one

theorem upholds_readRule (within : c.Within good) :
    Upholds good (·.2.Within good) (readRule c) := by
  unfold readRule
  refine (within.eat .identifier).bind ?_
  rintro ⟨name, c₁⟩ ⟨_, named⟩
  refine (named.eat .colon).bind ?_
  rintro ⟨colon, c₂⟩ ⟨_, opened⟩
  refine (upholds_readAlternatives c₂.rest.length opened).bind ?_
  rintro ⟨alternatives, c₃⟩ left
  exact (left.close (.rule name.text)).bind (fun _ closed => closed)

theorem upholds_readRules (fuel : Nat) (within : c.Within good) :
    Upholds good (fun _ => True) (readRules fuel c) := by
  induction fuel generalizing c with
  | zero => trivial
  | succ fuel inductionHypothesis =>
    unfold readRules
    split
    · trivial
    · have one := upholds_readRule within
      split
      · rename_i fault broken
        rwa [broken] at one
      · rename_i rule after read
        rw [read] at one
        exact (inductionHypothesis one).map (fun _ _ => trivial)

/-- A fault of lexemes is about one of them, or about the end behind them. -/
theorem about_of_ofLexemes {lexemes : Lexemes} {fault : Fault}
    (each : ∀ l ∈ lexemes.list, good l) (finish : good lexemes.finish)
    (faults : ofLexemes lexemes = .error fault) : fault.About good := by
  have within : Cursor.Within good ⟨lexemes.list, lexemes.finish, 0⟩ := ⟨each, finish⟩
  have whole : Upholds good (fun _ => True) (ofLexemes lexemes) := by
    unfold ofLexemes
    refine (upholds_readDirectives _ {} within).bind ?_
    rintro ⟨d, c⟩ left
    exact (upholds_readRules _ left).bind (fun _ _ => trivial)
  rwa [faults] at whole

end Document

end Readers

end Predictive.RuleFile
