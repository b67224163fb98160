import Predictive.Lexer.Lexicon
import Predictive.Token.Source
import Predictive.Text.Position

/-!
# Lexers

A lexer goes through one text at a time. Before each token it passes over
ignored text for as long as there is any; then it takes the token at that
place, or, short of the end, faults at the first character that begins none. A
fault leaves the lexer at that character, so the next attempt meets the same
fault. A token that was looked at is kept until it is taken.
-/

namespace Predictive

open Text (Position quoted)

/-- A place in a text: the characters in front of it, nearest first, those behind
it, and where it is. -/
structure TextPlace where
  before : List Char
  rest : List Char
  position : Position
deriving DecidableEq

namespace TextPlace

/-- The start of a text whose first character counts as the given line and
column. -/
def start (text : List Char) (line column : Nat) : TextPlace := ⟨[], text, ⟨0, line, column⟩⟩

/-- The place behind a piece of the text ahead. -/
def advance (p : TextPlace) (piece : List Char) : TextPlace :=
  ⟨piece.reverse ++ p.before, p.rest.drop piece.length, p.position.advance piece⟩

end TextPlace

/-- A character at which no token begins. -/
structure LexFault where
  char : Char
  position : Position
deriving DecidableEq

/-- The wording of a fault. -/
def LexFault.message (f : LexFault) : String :=
  "Lexing error: unexpected character " ++ quoted (String.singleton f.char) ++ " at " ++
    f.position.shown

namespace Lexicon

/-- Pass over ignored text, inside a match of it for the given number of
characters. -/
def passFrom (lx : Lexicon) : Nat → List Char → Position → List Char → TextPlace
  | _, before, p, [] => ⟨before, [], p⟩
  | n + 1, before, p, c :: rest => lx.passFrom n (c :: before) (p.after c) rest
  | 0, before, p, c :: rest =>
    match lx.ignoredAt? before (c :: rest) with
    | none => ⟨before, c :: rest, p⟩
    | some n => lx.passFrom (n - 1) (c :: before) (p.after c) rest

/-- Pass over ignored text for as long as there is any. -/
def pass (lx : Lexicon) (p : TextPlace) : TextPlace := lx.passFrom 0 p.before p.position p.rest

/-- Read the next token from a place; none at the end of the text. -/
def read (lx : Lexicon) (p : TextPlace) : Except LexFault (Option Token) × TextPlace :=
  match lx.pass p with
  | place =>
    match place.rest with
    | [] => (.ok none, place)
    | c :: _ =>
      match lx.tokenAt? place.before place.rest with
      | none => (.error ⟨c, place.position⟩, place)
      | some (kind, text) =>
        (.ok (some { kind := kind, text := String.ofList text, line := place.position.line,
                     column := place.position.column, offset := place.position.offset }),
          place.advance text)

end Lexicon

/-- A lexer with its bound text, its place, and a token looked at but not taken. -/
structure Lexer where
  lexicon : Lexicon
  text : List Char := []
  place : TextPlace := .start [] 1 1
  ahead : Option Token := none

namespace Lexer

/-- Bind a text and start at its front. -/
def reset (l : Lexer) (text : List Char) (line column : Nat) : Lexer :=
  { lexicon := l.lexicon, text := text, place := .start text line column }

/-- Read the next token of the text. -/
def read (l : Lexer) : Except LexFault (Option Token) × Lexer :=
  match l.lexicon.read l.place with
  | (result, place) => (result, { l with place := place })

/-- Look at the next token. -/
def peek (l : Lexer) : Except LexFault (Option Token) × Lexer :=
  match l.ahead with
  | some t => (.ok (some t), l)
  | none =>
    match l.read with
    | (.ok look, after) => (.ok look, { after with ahead := look })
    | (.error fault, after) => (.error fault, after)

/-- Take the next token. -/
def next (l : Lexer) : Except LexFault (Option Token) × Lexer :=
  match l.ahead with
  | some t => (.ok (some t), { l with ahead := none })
  | none => l.read

/-- A lexer does nothing with reports. -/
def report (l : Lexer) (_found : Option Token) (_expected : List Symbol) :
    Except LexFault Unit × Lexer :=
  (.ok (), l)

/-- The characters ahead, and a token looked at but not yet taken. -/
def remaining (l : Lexer) : Nat :=
  l.place.rest.length + match l.ahead with
    | some _ => 1
    | none => 0

/-- Take tokens up to the end or a fault. Fuel counts tokens. -/
def drain : Nat → Lexer → List Token × Option LexFault × Lexer
  | 0, l => ([], none, l)
  | fuel + 1, l =>
    match l.next with
    | (.error fault, after) => ([], some fault, after)
    | (.ok none, after) => ([], none, after)
    | (.ok (some t), after) =>
      match drain fuel after with
      | (others, fault, last) => (t :: others, fault, last)

/-- The tokens up to the end of the text or a fault, the fault, and the lexer left
behind. -/
def tokens (l : Lexer) : List Token × Option LexFault × Lexer := drain (l.remaining + 1) l

end Lexer

instance : TokenSource Lexer LexFault where
  peek := Lexer.peek
  next := Lexer.next
  report := Lexer.report
  remaining := Lexer.remaining

end Predictive
