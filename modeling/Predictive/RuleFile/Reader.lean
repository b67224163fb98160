import Predictive.RuleFile.Document
import Predictive.RuleFile.Fault

/-!
# Reading documents

Reading goes through the lexemes once: directives while a percent sign is ahead,
and then rules up to the end. The first lexeme that does not fit is a fault.
Every directive and every rule takes at least one lexeme, so the number of
lexemes bounds both.
-/

namespace Predictive.RuleFile

/-- The lexemes still to be read, the end behind them, and the offset at which
the lexeme read last ended. -/
structure Cursor where
  rest : List Lexeme
  finish : Lexeme
  lastStop : Nat := 0

namespace Cursor

/-- The lexeme ahead; behind the last one stands the end, forever. -/
def ahead (c : Cursor) : Lexeme := c.rest.headD c.finish

/-- Step over the lexeme ahead. -/
def skip (c : Cursor) : Cursor :=
  { c with rest := c.rest.tail, lastStop := c.ahead.stop }

/-- Read a lexeme of a kind. -/
def eat (c : Cursor) (kind : Kind) : Except Fault (Lexeme × Cursor) :=
  if c.ahead.kind = kind then .ok (c.ahead, c.skip) else .error (.expected kind c.ahead)

/-- Read the semicolon that closes a declaration or a rule. -/
def close (c : Cursor) (what : Closed) : Except Fault Cursor :=
  if c.ahead.kind = .semicolon then .ok c.skip
  else .error (.notClosed what c.ahead c.lastStop)

end Cursor

namespace Document

/-- Read one directive behind its percent sign. -/
def readDirective (d : Document) (c : Cursor) : Except Fault (Document × Cursor) := do
  if c.ahead.kind ≠ .identifier then throw (.expectedDirective c.ahead)
  let keyword := c.ahead
  let c := c.skip
  if keyword.text = "token" then
    let (name, c) ← c.eat .identifier
    let (regex, c) ← c.eat .regex
    let (pattern, flags) := splitRegex regex.text
    let c ← c.close .tokenDirective
    return ({ d with tokens := d.tokens ++ [⟨name.text, pattern, flags, name.span⟩] }, c)
  else if keyword.text = "ignore" then
    let (regex, c) ← c.eat .regex
    let (pattern, flags) := splitRegex regex.text
    let c ← c.close .ignoreDirective
    return ({ d with ignores := d.ignores ++ [⟨pattern, flags, regex.span⟩] }, c)
  else if keyword.text = "start" then
    let (name, c) ← c.eat .identifier
    let c ← c.close .startDirective
    return ({ d with start := some name.text }, c)
  else throw (.unknownDirective keyword)

/-- Read directives while a percent sign is ahead. Fuel counts directives. -/
def readDirectives : Nat → Document → Cursor → Except Fault (Document × Cursor)
  | 0, d, c => .ok (d, c)
  | fuel + 1, d, c =>
    if c.ahead.kind = .percent then
      match d.readDirective c.skip with
      | .error fault => .error fault
      | .ok (d, c) => readDirectives fuel d c
    else .ok (d, c)

/-- The value of a literal, which may not be empty. -/
def readLiteral (l : Lexeme) : Except Fault Element :=
  match Text.unquote l.text.toList with
  | .error fault => .error (.badLiteral l fault)
  | .ok [] => .error (.emptyLiteral l)
  | .ok (c :: cs) => .ok ⟨String.ofList (c :: cs), true, l.span⟩

/-- Read names and literals up to any other lexeme, which must not be an
operator. -/
def readElements : List Lexeme → Lexeme → Nat → Except Fault (List Element × Cursor)
  | [], finish, lastStop => .ok ([], ⟨[], finish, lastStop⟩)
  | l :: rest, finish, lastStop =>
    match l.kind with
    | .identifier =>
      match readElements rest finish l.stop with
      | .error fault => .error fault
      | .ok (later, c) => .ok (⟨l.text, false, l.span⟩ :: later, c)
    | .doubleQuoted | .singleQuoted =>
      match readLiteral l with
      | .error fault => .error fault
      | .ok element =>
        match readElements rest finish l.stop with
        | .error fault => .error fault
        | .ok (later, c) => .ok (element :: later, c)
    | .operator => .error (.operator l)
    | _ => .ok ([], ⟨l :: rest, finish, lastStop⟩)

/-- Read one alternative. Its place is that of the lexeme it begins with, which
is the delimiter behind it when it has no elements. -/
def readAlternative (c : Cursor) : Except Fault (Alternative × Cursor) := do
  if c.ahead.kind = .percent then
    let (keyword, after) ← c.skip.eat .identifier
    if keyword.text = "empty" then return (⟨[], c.ahead.span⟩, after)
    else throw (.unknownMark keyword)
  else
    let (elements, after) ← readElements c.rest c.finish c.lastStop
    return (⟨elements, c.ahead.span⟩, after)

/-- Read alternatives while a bar stands between them. Fuel counts bars. -/
def readAlternatives : Nat → Cursor → Except Fault (List Alternative × Cursor)
  | fuel, c =>
    match readAlternative c with
    | .error fault => .error fault
    | .ok (alternative, after) =>
      match fuel with
      | 0 => .ok ([alternative], after)
      | fuel + 1 =>
        if after.ahead.kind = .bar then
          match readAlternatives fuel after.skip with
          | .error fault => .error fault
          | .ok (others, last) => .ok (alternative :: others, last)
        else .ok ([alternative], after)

/-- Read one rule. -/
def readRule (c : Cursor) : Except Fault (Rule × Cursor) := do
  let (name, c) ← c.eat .identifier
  let (_, c) ← c.eat .colon
  let (alternatives, c) ← readAlternatives c.rest.length c
  let c ← c.close (.rule name.text)
  return (⟨name.text, alternatives, name.span⟩, c)

/-- Read rules up to the end of the file. Fuel counts rules. -/
def readRules : Nat → Cursor → Except Fault (List Rule)
  | 0, _ => .ok []
  | fuel + 1, c =>
    if c.ahead.kind = .finish then .ok []
    else
      match readRule c with
      | .error fault => .error fault
      | .ok (rule, after) => (readRules fuel after).map (rule :: ·)

/-- Read a document from lexemes. Without a start directive the first rule names
the start symbol. -/
def ofLexemes (lexemes : Lexemes) : Except Fault Document := do
  let bound := lexemes.list.length + 1
  let (d, c) ← readDirectives bound {} ⟨lexemes.list, lexemes.finish, 0⟩
  let rules ← readRules bound c
  return { d with rules := rules, start := d.start.or (rules.head?.map Rule.name) }

/-- Read a document from text. -/
def ofText (source : List Char) : Except Fault Document :=
  match scan source with
  | .error stray => .error (.strayChar stray)
  | .ok lexemes => ofLexemes lexemes

end Document

end Predictive.RuleFile
