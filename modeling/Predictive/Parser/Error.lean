import Predictive.Token.Basic
import Predictive.Grammar.Table

/-!
# Rejections

A parser rejects an input at one token, or at the end of input when no token is
left. The reason says whether a terminal stood on top of the stack, or a
nonterminal without a cell for the lookahead. Names that were expected are a
set; the message lists them in the given order, or by name. A rejection of a
text may end in an excerpt that shows the place.
-/

namespace Predictive

open Text (quoted)

/-- What could have stood at the place of a rejection. -/
structure Wanted where
  names : List Symbol
  nonterminal : Option Symbol := none
  order : Option (List Symbol) := none

/-- Why an input is rejected. -/
inductive Reason where
  | mismatch (terminal : Symbol)
  | noRule (wanted : Wanted)
  | inputEnded (wanted : Wanted)
  | unexpected (wanted : Wanted)

/-- The rejection of an input at a token, or at the end of input. -/
structure ParseError where
  found : Option Token
  reason : Reason
  excerpt : Option String := none

/-- The place of a token in a message, if it is known. -/
def placeShown : Option Token → String
  | none => ""
  | some t => if t.line = 0 then "" else " at " ++ toString t.line ++ ":" ++ toString t.column

/-- A token in a message: its kind, and its text where that says more. -/
def tokenShown : Option Token → String
  | none => "end of input"
  | some t =>
    if t.text ≠ "" ∧ t.text ≠ t.kind then quoted t.kind ++ " (" ++ quoted t.text ++ ")"
    else quoted t.kind

/-- A list of names in braces. -/
def setShown (names : List Symbol) : String := "\x7b" ++ ", ".intercalate names ++ "\x7d"

namespace Wanted

/-- The names in the order in which a message lists them. -/
def listed (w : Wanted) : List Symbol := w.order.getD (nameSet w.names)

/-- The nonterminal in a message. -/
def nonterminalShown (w : Wanted) : String := w.nonterminal.getD "None"

end Wanted

namespace Reason

/-- What was expected. -/
def wanted : Reason → Wanted
  | mismatch terminal => { names := [terminal] }
  | noRule w => w
  | inputEnded w => w
  | unexpected w => w

end Reason

namespace ParseError

/-- The expected names as a set, by name. -/
def expected (e : ParseError) : List Symbol := nameSet e.reason.wanted.names

/-- The expected names in the order of the message. -/
def listed (e : ParseError) : List Symbol := e.reason.wanted.listed

/-- The nonterminal that had no cell for the lookahead. -/
def nonterminal (e : ParseError) : Option Symbol := e.reason.wanted.nonterminal

/-- The wording without an excerpt. -/
def headline (e : ParseError) : String :=
  match e.reason with
  | .mismatch terminal =>
    "Parse error" ++ placeShown e.found ++ ": unexpected " ++ tokenShown e.found ++
      ", expected " ++ quoted terminal
  | .noRule w =>
    "Parse error" ++ placeShown e.found ++ ": no rule of " ++ w.nonterminalShown ++
      " starts with " ++ tokenShown e.found ++ ", expected one of " ++ setShown w.listed
  | .inputEnded w =>
    "Parse error: unexpected end of input while expanding " ++ w.nonterminalShown ++
      ", expected one of " ++ setShown (w.listed.filter (· ≠ endMarker))
  | .unexpected w =>
    "Parse error" ++ placeShown e.found ++ ": unexpected " ++ tokenShown e.found ++
      ", expected one of " ++ setShown w.listed

/-- The wording, with the excerpt on the lines below it. -/
def message (e : ParseError) : String :=
  match e.excerpt with
  | none => e.headline
  | some shown => e.headline ++ "\n" ++ shown

end ParseError

end Predictive
