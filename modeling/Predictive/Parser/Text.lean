import Predictive.Parser.Basic
import Predictive.Lexer.Basic

/-!
# Parsing a text

A text is parsed through a lexer that is bound to it first, so nothing that the
lexer did before matters. A rejection is given an excerpt of the text that
points at the token found, or at the end of the text when none was left.
-/

namespace Predictive

/-- The offset that the excerpt of a rejection points at. -/
def ParseError.place (e : ParseError) (text : List Char) : Nat :=
  (e.found.map Token.offset).getD text.length

/-- Give a rejection its excerpt. -/
def ParseError.withExcerpt (e : ParseError) (text : List Char) : ParseError :=
  { e with excerpt := some (Text.excerpt text (e.place text)) }

/-- Give the rejection of a run its excerpt. -/
def Ending.withExcerpt {ε : Type} (ending : Ending ε) (text : List Char) : Ending ε :=
  match ending with
  | .rejected e => .rejected (e.withExcerpt text)
  | other => other

namespace Parser

/-- Parse a text. -/
def runText (p : Parser) (lexer : Lexer) (text : List Char) : Outcome Lexer LexFault :=
  match p.run (lexer.reset text 1 1) with
  | outcome => { outcome with ending := outcome.ending.withExcerpt text }

end Parser

end Predictive
