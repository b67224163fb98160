import Predictive.Lexer.Basic

/-!
# Calls of a lexer

A lexer may be asked for tokens and be given new texts in any order. A call is one
such request, and binding a text is a call without an answer. The lexers that calls
lead to, from one that was never used, are all that there are of a lexicon.
-/

namespace Predictive.Lexer

/-- What a lexer is asked to do. -/
inductive Call where
  | peek
  | next
  | reset (text : List Char) (line column : Nat)
deriving DecidableEq

/-- What a call answers; binding a text answers nothing. -/
abbrev Answer := Option (Except LexFault (Option Token))

/-- Carry out a call. -/
def call (l : Lexer) : Call → Answer × Lexer
  | .peek => (some l.peek.1, l.peek.2)
  | .next => (some l.next.1, l.next.2)
  | .reset text line column => (none, l.reset text line column)

/-- Carry out calls one after another: their answers, and the lexer left behind. -/
def calls (l : Lexer) : List Call → List Answer × Lexer
  | [] => ([], l)
  | c :: others =>
    match l.call c with
    | (answer, after) =>
      match after.calls others with
      | (answers, last) => (answer :: answers, last)

/-- A lexer that calls lead to from a fresh one. -/
def Reached (lx : Lexicon) (l : Lexer) : Prop :=
  ∃ cs, (({ lexicon := lx } : Lexer).calls cs).2 = l

end Predictive.Lexer
