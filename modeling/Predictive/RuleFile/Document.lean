import Predictive.RuleFile.Lexeme

/-!
# Documents

A rule file is a list of directives followed by a list of rules. Directives
declare tokens and ignored text by regular expressions and may name the start
symbol. A rule is a name and alternatives; an alternative is a sequence of names
and quoted literals, or the empty one. Every part of a document remembers the
place of the lexeme it began with.
-/

namespace Predictive.RuleFile

open Text (Position)

/-- The place of a part of a document. -/
structure Span where
  start : Position
  stop : Nat
deriving DecidableEq

/-- The place of a lexeme. -/
def Lexeme.span (l : Lexeme) : Span := ⟨l.start, l.stop⟩

/-- A declared token. -/
structure TokenRule where
  name : String
  pattern : String
  flags : String
  span : Span
deriving DecidableEq

/-- A declaration of ignored text. -/
structure IgnoreRule where
  pattern : String
  flags : String
  span : Span
deriving DecidableEq

/-- A symbol of an alternative: a name, or the value of a quoted literal. -/
structure Element where
  text : String
  isLiteral : Bool
  span : Span
deriving DecidableEq

/-- One alternative; without elements it is the empty one. -/
structure Alternative where
  elements : List Element
  span : Span
deriving DecidableEq

/-- A name with its alternatives. -/
structure Rule where
  name : String
  alternatives : List Alternative
  span : Span
deriving DecidableEq

/-- A rule file as read. -/
structure Document where
  tokens : List TokenRule := []
  ignores : List IgnoreRule := []
  rules : List Rule := []
  start : Option String := none
deriving DecidableEq

namespace Document

/-- All elements of all rules, in order. -/
def elements (d : Document) : List Element :=
  d.rules.flatMap (fun rule => rule.alternatives.flatMap Alternative.elements)

/-- The values of all literals in rule bodies, in order, repetitions kept. -/
def keywords (d : Document) : List String :=
  (d.elements.filter Element.isLiteral).map Element.text

/-- The names of the declared tokens, in order. -/
def tokenNames (d : Document) : List String := d.tokens.map TokenRule.name

end Document

end Predictive.RuleFile
