import Predictive.RuleFile.Document
import Predictive.Text.Literal

/-!
# The form of rule files

What a document looks like as lexemes, said part by part and without reading:
a directive is a percent sign, its keyword, its operands and a semicolon; a rule
is a name, a colon, alternatives with bars between them, and a semicolon; a
document is directives and then rules. Each relation pairs the lexemes of a part
with the part itself, so it fixes what the part holds and which place it has.
-/

namespace Predictive.RuleFile

/-- A lexeme is a name with the given text. -/
def Lexeme.IsName (l : Lexeme) (text : String) : Prop := l.kind = .identifier ∧ l.text = text

/-- One directive of a document. -/
inductive Directive where
  | token (rule : TokenRule)
  | ignore (rule : IgnoreRule)
  | start (name : String)
deriving DecidableEq

namespace Directive

/-- The token that a directive declares. -/
def token? : Directive → Option TokenRule
  | token rule => some rule
  | _ => none

/-- The ignored text that a directive declares. -/
def ignore? : Directive → Option IgnoreRule
  | ignore rule => some rule
  | _ => none

/-- The start symbol that a directive names. -/
def start? : Directive → Option String
  | start name => some name
  | _ => none

/-- The lexemes of a directive. -/
inductive Spelled : List Lexeme → Directive → Prop where
  | token {sign keyword name regex close : Lexeme} (opens : sign.kind = .percent)
      (worded : keyword.IsName "token") (named : name.kind = .identifier)
      (matched : regex.kind = .regex) (closes : close.kind = .semicolon) :
      Spelled [sign, keyword, name, regex, close]
        (.token ⟨name.text, (splitRegex regex.text).1, (splitRegex regex.text).2, name.span⟩)
  | ignore {sign keyword regex close : Lexeme} (opens : sign.kind = .percent)
      (worded : keyword.IsName "ignore") (matched : regex.kind = .regex)
      (closes : close.kind = .semicolon) :
      Spelled [sign, keyword, regex, close]
        (.ignore ⟨(splitRegex regex.text).1, (splitRegex regex.text).2, regex.span⟩)
  | start {sign keyword name close : Lexeme} (opens : sign.kind = .percent)
      (worded : keyword.IsName "start") (named : name.kind = .identifier)
      (closes : close.kind = .semicolon) :
      Spelled [sign, keyword, name, close] (.start name.text)

/-- The lexemes of directives, one behind the other. -/
inductive AllSpelled : List Lexeme → List Directive → Prop where
  | nil : AllSpelled [] []
  | cons {front rest : List Lexeme} {directive : Directive} {others : List Directive}
      (first : directive.Spelled front) (later : AllSpelled rest others) :
      AllSpelled (front ++ rest) (directive :: others)

end Directive

/-- The lexeme of an element: a name, or a literal whose value is not empty. -/
inductive Element.Spelled : Lexeme → Element → Prop where
  | name {l : Lexeme} (named : l.kind = .identifier) : Spelled l ⟨l.text, false, l.span⟩
  | literal {l : Lexeme} {value : List Char}
      (quoted : l.kind = .doubleQuoted ∨ l.kind = .singleQuoted)
      (reads : Text.unquote l.text.toList = .ok value) (filled : value ≠ []) :
      Spelled l ⟨String.ofList value, true, l.span⟩

/-- The lexemes of elements, one for each. -/
inductive Element.AllSpelled : List Lexeme → List Element → Prop where
  | nil : AllSpelled [] []
  | cons {l : Lexeme} {rest : List Lexeme} {element : Element} {others : List Element}
      (first : element.Spelled l) (later : AllSpelled rest others) :
      AllSpelled (l :: rest) (element :: others)

/-- The lexemes of an alternative in front of the delimiter behind it. -/
inductive Alternative.Spelled (next : Lexeme) : List Lexeme → Alternative → Prop where
  | empty {sign keyword : Lexeme} (opens : sign.kind = .percent) (worded : keyword.IsName "empty") :
      Spelled next [sign, keyword] ⟨[], sign.span⟩
  | elements {lexemes : List Lexeme} {elements : List Element}
      (all : Element.AllSpelled lexemes elements) :
      Spelled next lexemes ⟨elements, (lexemes.headD next).span⟩

/-- The lexemes of alternatives with bars between them, in front of the delimiter
behind the last one. -/
inductive Alternative.AllSpelled (next : Lexeme) : List Lexeme → List Alternative → Prop where
  | single {lexemes : List Lexeme} {alternative : Alternative}
      (only : alternative.Spelled next lexemes) : AllSpelled next lexemes [alternative]
  | cons {front rest : List Lexeme} {bar : Lexeme} {alternative : Alternative}
      {others : List Alternative} (first : alternative.Spelled bar front)
      (parts : bar.kind = .bar) (later : AllSpelled next rest others) :
      AllSpelled next (front ++ bar :: rest) (alternative :: others)

/-- The lexemes of a rule. -/
inductive Rule.Spelled : List Lexeme → Rule → Prop where
  | rule {name colon close : Lexeme} {body : List Lexeme} {alternatives : List Alternative}
      (named : name.kind = .identifier) (opens : colon.kind = .colon)
      (all : Alternative.AllSpelled close body alternatives) (closes : close.kind = .semicolon) :
      Spelled (name :: colon :: body ++ [close]) ⟨name.text, alternatives, name.span⟩

/-- The lexemes of rules, one behind the other. -/
inductive Rule.AllSpelled : List Lexeme → List Rule → Prop where
  | nil : AllSpelled [] []
  | cons {front rest : List Lexeme} {rule : Rule} {others : List Rule}
      (first : rule.Spelled front) (later : AllSpelled rest others) :
      AllSpelled (front ++ rest) (rule :: others)

/-- The lexemes of a document: directives and then rules. The last start directive
names the start symbol; without one the first rule does. -/
inductive Document.Spelled : List Lexeme → Document → Prop where
  | document {front rest : List Lexeme} {directives : List Directive} {rules : List Rule}
      (declares : Directive.AllSpelled front directives) (defines : Rule.AllSpelled rest rules) :
      Spelled (front ++ rest)
        { tokens := directives.filterMap Directive.token?
          ignores := directives.filterMap Directive.ignore?
          rules := rules
          start := (directives.filterMap Directive.start?).getLast?.or
            (rules.head?.map Rule.name) }

end Predictive.RuleFile
