import Predictive.Text.Position
import Predictive.Text.Property

/-!
# Lexemes of rule files

A rule file is cut into lexemes by an ordered list of alternatives; at every
place the first alternative that matches decides, not the longest. White space
and comments are matched like all other lexemes and then dropped.

A regular expression stands between slashes. Its units are a backslash with the
character behind it, or one character that is neither a slash nor a newline; a
lone backslash is such a character too, and is taken when reading it together
with the next character would leave no closing slash. Quoted literals have the
same pairs but never fall back on a lone backslash.
-/

namespace Predictive.RuleFile

open Text (Position isIdentifierStart isIdentifierContinue)

/-- The kinds of lexemes. -/
inductive Kind where
  | blank
  | newline
  | comment
  | blockComment
  | percent
  | colon
  | semicolon
  | bar
  | operator
  | regex
  | doubleQuoted
  | singleQuoted
  | identifier
  | finish
deriving DecidableEq

namespace Kind

/-- The name of a kind in messages and listings. -/
def name : Kind → String
  | blank => "WS"
  | newline => "NEWLINE"
  | comment => "COMMENT"
  | blockComment => "MCOMMENT"
  | percent => "PERCENT"
  | colon => "COLON"
  | semicolon => "SEMI"
  | bar => "OR"
  | operator => "EBNF"
  | regex => "REGEX"
  | doubleQuoted => "STRING"
  | singleQuoted => "SSTRING"
  | identifier => "IDENT"
  | finish => "EOF"

/-- Lexemes of these kinds only separate others. -/
def isGap : Kind → Bool
  | blank | newline | comment | blockComment => true
  | _ => false

end Kind

/-- A lexeme with its text, the place where it begins and the offset behind it. -/
structure Lexeme where
  kind : Kind
  text : String
  start : Position
  stop : Nat
deriving DecidableEq

/-! Alternatives. Each gives the length of its match at the front of a text. -/

/-- The length of the longest run of characters of a class, if there is one. -/
def run? (p : Char → Bool) (cs : List Char) : Option Nat :=
  if (cs.takeWhile p).length = 0 then none else some (cs.takeWhile p).length

/-- One character of a class. -/
def one? (p : Char → Bool) : List Char → Option Nat
  | c :: _ => if p c then some 1 else none
  | [] => none

/-- Two slashes and the rest of the line. -/
def comment? : List Char → Option Nat
  | '/' :: '/' :: rest => some (2 + (rest.takeWhile (· ≠ '\n')).length)
  | _ => none

/-- The length up to and with the first end of a block comment. -/
def blockEnd? : List Char → Option Nat
  | '*' :: '/' :: _ => some 2
  | _ :: rest => (blockEnd? rest).map (· + 1)
  | [] => none

/-- A block comment. -/
def blockComment? : List Char → Option Nat
  | '/' :: '*' :: rest => (blockEnd? rest).map (· + 2)
  | _ => none

/-- The length of the units of a regular expression up to and with its closing
slash, for a text and for its tail. At a backslash the pair is tried first. -/
def closings : List Char → Option Nat × Option Nat
  | [] => (none, none)
  | c :: rest =>
    match closings rest with
    | (here, next) =>
      (if c = '/' then some 1
        else if c = '\n' then none
        else if c = '\\' then (next.map (· + 2)).or (here.map (· + 1))
        else here.map (· + 1), here)

/-- The length up to and with the closing slash of a regular expression. -/
def closing? (cs : List Char) : Option Nat := (closings cs).1

/-- The letters that may stand behind the closing slash. -/
def isFlag (c : Char) : Bool := c ∈ ['i', 'm', 'x', 's', 'A', 'U']

/-- The number of flags in front. -/
def flagCount (cs : List Char) : Nat := (cs.takeWhile isFlag).length

/-- A regular expression of at least one unit, and its flags. -/
def regex? : List Char → Option Nat
  | '/' :: '/' :: _ => none
  | '/' :: rest => (closing? rest).map (fun n => 1 + n + flagCount (rest.drop n))
  | _ => none

/-- The length up to and with the closing quote of a literal. -/
def quoteEnd? (quote : Char) : List Char → Option Nat
  | [] => none
  | c :: rest =>
    if c = quote then some 1
    else if c = '\\' then
      match rest with
      | _ :: others => (quoteEnd? quote others).map (· + 2)
      | [] => none
    else (quoteEnd? quote rest).map (· + 1)

/-- A literal between two quotes of one kind. -/
def quoted? (quote : Char) : List Char → Option Nat
  | c :: rest => if c = quote then (quoteEnd? quote rest).map (· + 1) else none
  | [] => none

/-- The prime that may stand in a name. -/
def prime : Char := Char.ofNat 0x2032

/-- The characters that may begin a name. -/
def isNameStart (c : Char) : Bool := isIdentifierStart c || c == '_'

/-- The characters that may continue a name. -/
def isNameContinue (c : Char) : Bool := isIdentifierContinue c || c == prime

/-- A name. -/
def identifier? : List Char → Option Nat
  | c :: rest => if isNameStart c then some (1 + (rest.takeWhile isNameContinue).length) else none
  | [] => none

namespace Kind

/-- The length of the match of a kind at the front of a text. -/
def match? : Kind → List Char → Option Nat
  | blank => run? (fun c => c = ' ' || c = '\t' || c = Char.ofNat 12)
  | newline => one? (· = '\n')
  | comment => comment?
  | blockComment => blockComment?
  | percent => one? (· = '%')
  | colon => one? (· = ':')
  | semicolon => one? (· = ';')
  | bar => one? (· = '|')
  | operator => one? (· ∈ ['?', '*', '+', '(', ')'])
  | regex => regex?
  | doubleQuoted => quoted? (Char.ofNat 34)
  | singleQuoted => quoted? (Char.ofNat 39)
  | identifier => identifier?
  | finish => fun _ => none

/-- The kinds in the order in which they are tried. -/
def alternatives : List Kind :=
  [blank, newline, comment, blockComment, percent, colon, semicolon, bar, operator, regex,
   doubleQuoted, singleQuoted, identifier]

/-- The first alternative that matches, with the length of its match. -/
def first? (cs : List Char) : Option (Kind × Nat) :=
  alternatives.findSome? (fun kind => (kind.match? cs).map (kind, ·))

end Kind

/-- A character at which no alternative matches. -/
structure StrayChar where
  char : Char
  position : Position
deriving DecidableEq

/-- A rule file cut into lexemes, without gaps, and the end of the file. -/
structure Lexemes where
  list : List Lexeme
  finish : Lexeme
deriving DecidableEq

/-- Cut a text from a position on, inside a lexeme for the given number of
characters. -/
def scanFrom : Nat → Position → List Char → Except StrayChar Lexemes
  | _, p, [] => .ok ⟨[], ⟨.finish, "", p, p.offset⟩⟩
  | skip + 1, p, c :: rest => scanFrom skip (p.after c) rest
  | 0, p, c :: rest =>
    match Kind.first? (c :: rest) with
    | none => .error ⟨c, p⟩
    | some (kind, length) =>
      match scanFrom (length - 1) (p.after c) rest with
      | .error stray => .error stray
      | .ok after =>
        if kind.isGap then .ok after
        else
          .ok ⟨⟨kind, String.ofList ((c :: rest).take length), p, p.offset + length⟩ :: after.list,
            after.finish⟩

/-- Cut a whole text. -/
def scan (text : List Char) : Except StrayChar Lexemes := scanFrom 0 {} text

/-- The pattern and the flags of a regular expression between slashes: they part
at the last slash. -/
def splitRegex (lexeme : String) : String × String :=
  (String.ofList (((lexeme.toList.reverse.dropWhile (· ≠ '/')).drop 1).reverse.drop 1),
    String.ofList (lexeme.toList.reverse.takeWhile (· ≠ '/')).reverse)

end Predictive.RuleFile
