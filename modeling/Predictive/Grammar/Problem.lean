import Predictive.Grammar.Production
import Predictive.Text.Value

/-!
# Problems of a grammar declaration

Every rule that a declaration breaks is one problem. All problems are reported
together, one line each, below a line that counts them.
-/

namespace Predictive

open Text (Value quoted)

/-- One broken rule of a declaration. -/
inductive Problem where
  | noTerminals
  | noNonterminals
  | declaredTwice (name : Symbol)
  | reservedTerminal (name : Symbol)
  | reservedNonterminal (name : Symbol)
  | startNotDeclared (name : Symbol)
  | bodiesAreText (lhs : Symbol) (text : String)
  | bodyIsText (lhs : Symbol) (text : String)
  | notAProduction (value : Value)
  | leftNotDeclared (production : Production)
  | epsilonNotAlone (production : Production)
  | symbolNotDeclared (production : Production) (name : Symbol)
  | noProductions (name : Symbol)
  | noRules
  | ruleNamedLikeToken (name : Symbol)
deriving DecidableEq

namespace Problem

/-- The wording of a problem. -/
def message : Problem → String
  | noTerminals => "terminal set is empty"
  | noNonterminals => "nonterminal set is empty"
  | declaredTwice name =>
    "symbol " ++ quoted name ++ " is declared both terminal and nonterminal"
  | reservedTerminal name => "terminal set contains reserved symbol " ++ quoted name
  | reservedNonterminal name => "nonterminal set contains reserved symbol " ++ quoted name
  | startNotDeclared name => "start symbol " ++ quoted name ++ " is not a declared nonterminal"
  | bodiesAreText lhs text =>
    "productions of " ++ quoted lhs ++ " must be a list of symbol sequences, got string " ++
      quoted text
  | bodyIsText lhs text =>
    "production body " ++ quoted text ++ " of " ++ quoted lhs ++
      " must be a sequence of symbols, not a string"
  | notAProduction value => "expected Production, got " ++ value.kind ++ ": " ++ value.shown
  | leftNotDeclared production =>
    "left-hand side of '" ++ production.shown ++ "' is not a declared nonterminal"
  | epsilonNotAlone production =>
    "'" ++ epsilon ++ "' must be the only symbol of its production: '" ++ production.shown ++ "'"
  | symbolNotDeclared production name =>
    "production '" ++ production.shown ++ "' uses undeclared symbol " ++ quoted name
  | noProductions name => "nonterminal " ++ quoted name ++ " has no productions"
  | noRules => "grammar file defines no rules"
  | ruleNamedLikeToken name => "rule " ++ quoted name ++ " has the same name as a %token"

/-- The report of a list of worded problems. -/
def report (texts : List String) : String :=
  "invalid grammar (" ++ toString texts.length ++ " problem(s)):\n" ++
    "\n".intercalate (texts.map ("  - " ++ ·))

end Problem

end Predictive
