import Predictive.RuleFile.Lexeme
import Predictive.Text.Literal
import Predictive.Text.Quoted

/-!
# Faults of rule files

A fault says what a reader expected and what it met. Its message shows the line
of the place it points at, with a caret below; only a literal without a value
has no such line.
-/

namespace Predictive.RuleFile

open Text (LiteralFault quoted excerpt)

/-- What is closed by a semicolon. -/
inductive Closed where
  | tokenDirective
  | ignoreDirective
  | startDirective
  | rule (name : String)

namespace Closed

/-- What is closed, in a message. -/
def shown : Closed → String
  | tokenDirective => "%token declaration"
  | ignoreDirective => "%ignore declaration"
  | startDirective => "%start declaration"
  | rule name => "rule '" ++ name ++ "'"

/-- A well-formed sample of what is closed. -/
def sample : Closed → String
  | tokenDirective => "%token NAME /regex/;"
  | ignoreDirective => "%ignore /\\s+/;"
  | startDirective => "%start StartSymbol;"
  | rule name => name ++ " : ... ;"

end Closed

/-- Why a text is no rule file. -/
inductive Fault where
  | strayChar (stray : StrayChar)
  | expected (kind : Kind) (got : Lexeme)
  | expectedDirective (got : Lexeme)
  | unknownDirective (name : Lexeme)
  | unknownMark (name : Lexeme)
  | emptyLiteral (literal : Lexeme)
  | operator (sign : Lexeme)
  | notClosed (what : Closed) (got : Lexeme) (anchor : Nat)
  | badLiteral (literal : Lexeme) (fault : LiteralFault)

namespace Fault

/-- The first lines of a message, up to the excerpt. -/
def headline : Fault → String
  | strayChar stray =>
    "Unexpected char " ++ quoted (String.singleton stray.char) ++ " at " ++ stray.position.shown
  | expected kind got =>
    "Expected " ++ kind.name ++ ", got " ++ got.kind.name ++ " at " ++ got.start.shown
  | expectedDirective got =>
    "Expected directive name after '%', got " ++ got.kind.name ++ " at " ++ got.start.shown
  | unknownDirective name => "Unknown directive %" ++ name.text ++ " at " ++ name.start.shown
  | unknownMark name =>
    "Unknown %directive %" ++ name.text ++ " inside a rule; did you mean '%empty'?"
  | emptyLiteral literal =>
    "Empty literal at " ++ literal.start.shown ++ "; use %empty for ε"
  | operator sign =>
    "EBNF operator " ++ quoted sign.text ++ " at " ++ sign.start.shown ++
      " is not supported; write the rule in plain BNF"
  | notClosed what got _ =>
    "Missing ';' after " ++ what.shown ++ " (semicolon is mandatory).\n- Found: " ++
      got.kind.name ++ " at " ++ got.start.shown ++ "\n- Example: " ++ what.sample ++ "\n"
  | badLiteral _ fault => fault.message

/-- The offset at which the excerpt of a message points; a bad literal has no
excerpt. -/
def anchor? : Fault → Option Nat
  | strayChar stray => some stray.position.offset
  | expected _ got => some got.start.offset
  | expectedDirective got => some got.start.offset
  | unknownDirective name => some name.start.offset
  | unknownMark name => some name.start.offset
  | emptyLiteral literal => some literal.start.offset
  | operator sign => some sign.start.offset
  | notClosed _ _ anchor => some anchor
  | badLiteral _ _ => none

/-- The whole message for a fault of a given text. -/
def message (source : List Char) (f : Fault) : String :=
  match f.anchor? with
  | some offset => f.headline ++ "\n" ++ excerpt source offset
  | none => f.headline

end Fault

end Predictive.RuleFile
