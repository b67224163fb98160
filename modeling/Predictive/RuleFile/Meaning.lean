import Predictive.RuleFile.Document
import Predictive.Grammar.Basic

/-!
# The grammar of a rule file

Terminals are the declared token names and the values of all literals in rule
bodies; nonterminals are the names of rules. Rules of one name add up. Every
alternative becomes a production, and one without elements derives the empty
string. The start symbol is the declared one, or the name of the first rule.
A name that is neither a rule nor a token stays undeclared and is reported by
the checks of the grammar.
-/

namespace Predictive.RuleFile.Document

/-- The productions of a rule, in order. -/
def productionsOfRule (rule : Rule) : List Production :=
  rule.alternatives.map (fun alternative =>
    .of rule.name (alternative.elements.map Element.text))

/-- The name of the start symbol: the declared one, or the name of the first rule. The empty
name declares none. -/
def startName (d : Document) : String :=
  (d.start.filter (· ≠ "")).getD ((d.rules.head?.map Rule.name).getD "")

/-- A declared start symbol is the start symbol, if its name is not empty. -/
theorem startName_eq {d : Document} {name : String} (declared : d.start = some name)
    (filled : name ≠ "") : d.startName = name := by
  rw [startName, declared, Option.filter_some, if_pos (decide_eq_true filled), Option.getD_some]

/-- What the document declares. -/
def declaration (d : Document) : Declaration where
  terminals := d.tokenNames ++ d.keywords
  nonterminals := d.rules.map Rule.name
  rules := .listing ((d.rules.flatMap productionsOfRule).map .production)
  start := d.startName

/-- The problems that a document has before it is read as a declaration: it has
no rules, or names a rule like a token. -/
def namingProblems (d : Document) : List Problem :=
  if d.rules = [] then [.noRules]
  else
    (d.rules.filter (fun rule => rule.name ∈ d.tokenNames)).map
      (fun rule => .ruleNamedLikeToken rule.name)

/-- The grammar of a document. -/
def grammar? (d : Document) : Except (List Problem) Grammar :=
  match d.namingProblems with
  | [] => Grammar.ofDeclaration? d.declaration
  | first :: others => .error (first :: others)

/-- A document without naming problems is accepted as what it declares. -/
theorem ofDeclaration?_of_grammar? {d : Document} {g : Grammar} (meant : d.grammar? = .ok g) :
    Grammar.ofDeclaration? d.declaration = .ok g := by
  unfold grammar? at meant
  split at meant
  · exact meant
  · cases meant

/-- How many parts of each kind a document has. -/
structure Counts where
  tokens : Nat
  ignores : Nat
  keywords : Nat
  rules : Nat
  alternatives : Nat

/-- Count the parts of a document; equal keywords count once. -/
def counts (d : Document) : Counts where
  tokens := d.tokens.length
  ignores := d.ignores.length
  keywords := (Finite.distinct d.keywords).length
  rules := d.rules.length
  alternatives := (d.rules.flatMap Rule.alternatives).length

end Predictive.RuleFile.Document
