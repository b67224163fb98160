import Predictive.Grammar.Basic
import Predictive.Text.Literal
import Predictive.Text.Quoted

/-!
# Grammars written as rule files

The written form of a grammar names the start symbol and then gives one rule
for each left side, in order of first appearance, with its alternatives in that
order too. A nonterminal is written as its name, a terminal as a literal in
double quotes, and the empty alternative as `%empty`. Words of one line are
parted by one space, and every line is closed by a semicolon. A literal escapes
the backslash, the double quote, the two line ends and the null character; it
holds every other character as it is.
-/

namespace Predictive

namespace Text

/-- One character inside a written literal. -/
def literalChar (c : Char) : List Char :=
  if c = '\\' ∨ c = doubleQuote then ['\\', c]
  else if c = '\n' then ['\\', 'n']
  else if c = '\r' then ['\\', 'r']
  else if c = Char.ofNat 0 then ['\\', 'x', '0', '0']
  else [c]

/-- The literal of a text. -/
def literal (cs : List Char) : List Char :=
  doubleQuote :: cs.flatMap literalChar ++ [doubleQuote]

end Text

namespace Grammar

/-- A symbol of a body as a word. -/
def symbolWord (g : Grammar) (x : Symbol) : List Char :=
  if g.isTerminal x then Text.literal x.toList else x.toList

/-- The body of a production as words. -/
def bodyWords (g : Grammar) (p : Production) : List (List Char) :=
  if p.isEpsilon then ["%empty".toList] else p.rhs.map g.symbolWord

/-- Alternatives as words, with a bar between each two. -/
def alternativeWords (g : Grammar) : List Production → List (List Char)
  | [] => []
  | [p] => g.bodyWords p
  | p :: q :: rest => g.bodyWords p ++ ['|'] :: g.alternativeWords (q :: rest)

/-- The rule of a nonterminal as words. -/
def ruleWords (g : Grammar) (a : Symbol) : List (List Char) :=
  a.toList :: [':'] :: g.alternativeWords (g.productionsOf a) ++ [[';']]

/-- All lines as words: the start directive and then the rules. -/
def lineWords (g : Grammar) : List (List (List Char)) :=
  ["%start".toList, g.start.toList, [';']] :: g.leftSides.map g.ruleWords

/-- The words of a line with one space between each two, and a newline. -/
def writtenLine : List (List Char) → List Char
  | [] => ['\n']
  | [word] => word ++ ['\n']
  | word :: next :: rest => word ++ ' ' :: writtenLine (next :: rest)

/-- A grammar as the text of a rule file. -/
def written (g : Grammar) : List Char := g.lineWords.flatMap writtenLine

end Grammar

end Predictive
