import Predictive.Regex.Reader
import Predictive.Regex.Matching
import Predictive.RuleFile.Document
import Predictive.Symbol

/-!
# Lexicons

A lexicon says what a text is cut into: keywords, which stand for themselves,
token rules, whose names are the kinds of the tokens they match, and rules for
ignored text. At a place of a text the candidates are one keyword and one token
rule. A keyword that holds an identifier character only stands where no such
character touches it on either side, and of the keywords the first one in their
list is taken. Of the token rules the one with the longest match is taken, the
first of several. The keyword gives way to a strictly longer match.

The keywords of a rule file are listed by length, longest first, so the first
keyword that stands at a place is also the longest.
-/

namespace Predictive

open Text (isIdentifierContinue)

/-- What a text is cut into. -/
structure Lexicon where
  keywords : List (List Char)
  tokens : List (Symbol × Regex.Node)
  ignores : List Regex.Node

/-- A pattern that is no regular expression. -/
structure PatternFault where
  pattern : String
  fault : Regex.Fault

/-- The wording of a fault. -/
def PatternFault.message (f : PatternFault) : String := f.fault.message f.pattern.toList

namespace Lexicon

/-- The expression of a pattern with its flags. -/
def expression (pattern flags : String) : Except PatternFault Regex.Node :=
  match Regex.ofPattern pattern.toList (.ofLetters flags.toList) with
  | .ok node => .ok node
  | .error fault => .error ⟨pattern, fault⟩

/-- The expressions of named patterns, in order. -/
def tokenRules : List (Symbol × String × String) → Except PatternFault (List (Symbol × Regex.Node))
  | [] => .ok []
  | (name, pattern, flags) :: rest =>
    match expression pattern flags with
    | .error fault => .error fault
    | .ok node => (tokenRules rest).map ((name, node) :: ·)

/-- The expressions of ignored patterns, in order. -/
def ignoreRules : List (String × String) → Except PatternFault (List Regex.Node)
  | [] => .ok []
  | (pattern, flags) :: rest =>
    match expression pattern flags with
    | .error fault => .error fault
    | .ok node => (ignoreRules rest).map (node :: ·)

/-- A lexicon of keywords and patterns in the given order. The first pattern that
is no regular expression is refused, token rules before ignored ones. -/
def ofRules (keywords : List String) (tokens : List (Symbol × String × String))
    (ignores : List (String × String)) : Except PatternFault Lexicon :=
  match tokenRules tokens with
  | .error fault => .error fault
  | .ok tokens =>
    (ignoreRules ignores).map (fun ignores => ⟨keywords.map String.toList, tokens, ignores⟩)

/-- Longer keywords first; keywords of one length in the order of their first
appearance. -/
def keywordOrder (keywords : List String) : List String :=
  Finite.ordered (fun a b => b.length ≤ a.length) (Finite.distinct keywords)

/-- The lexicon of a rule file. -/
def ofDocument (d : RuleFile.Document) : Except PatternFault Lexicon :=
  ofRules (keywordOrder d.keywords)
    (d.tokens.map (fun rule => (rule.name, rule.pattern, rule.flags)))
    (d.ignores.map (fun rule => (rule.pattern, rule.flags)))

/-- A keyword is a word when it holds an identifier character. -/
def isWordKeyword (keyword : List Char) : Bool := keyword.any isIdentifierContinue

/-- An identifier character touches the place from one side. -/
def touches (side : List Char) : Bool := side.head?.any isIdentifierContinue

/-- A keyword stands at a place. -/
def standsAt (before rest keyword : List Char) : Bool :=
  keyword.isPrefixOf rest &&
    !(isWordKeyword keyword && (touches before || touches (rest.drop keyword.length)))

/-- The keyword at a place: the first one that stands there. -/
def keywordAt? (lx : Lexicon) (before rest : List Char) : Option (List Char) :=
  lx.keywords.find? (standsAt before rest)

/-- The longer one of two candidates, the earlier one of equal length. Without an
earlier candidate the empty text is no candidate. -/
def longer (best : Option (Symbol × List Char)) (name : Symbol) (text : List Char) :
    Option (Symbol × List Char) :=
  if (best.map (fun b => b.2.length)).getD 0 < text.length then some (name, text) else best

/-- The token rule at a place: the longest match, the first of several. -/
def ruleAt? (lx : Lexicon) (before rest : List Char) : Option (Symbol × List Char) :=
  lx.tokens.foldl (fun best rule =>
    match rule.2.matched? before rest with
    | some text => longer best rule.1 text
    | none => best) none

/-- The kind and the text of the token at a place. -/
def tokenAt? (lx : Lexicon) (before rest : List Char) : Option (Symbol × List Char) :=
  match lx.keywordAt? before rest, lx.ruleAt? before rest with
  | some keyword, some rule =>
    if rule.2.length ≤ keyword.length then some (String.ofList keyword, keyword) else some rule
  | some keyword, none => some (String.ofList keyword, keyword)
  | none, rule => rule

/-- The length of the ignored text at a place: the first ignored pattern with a
match that is not empty. -/
def ignoredAt? (lx : Lexicon) (before rest : List Char) : Option Nat :=
  lx.ignores.findSome? (fun node =>
    match node.matched? before rest with
    | some (c :: text) => some (c :: text).length
    | _ => none)

end Lexicon

end Predictive
