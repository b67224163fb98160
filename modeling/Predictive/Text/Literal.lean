import Predictive.Text.Newline

/-!
# Quoted literals

A literal stands between two equal quotes. Inside, a backslash begins an
escape: a line end, which vanishes; a backslash or a quote; one of the control
letters; one to three octal digits; two, four or eight hexadecimal digits; or a
named character. A backslash before any other character stands for itself. A
line end without a backslash breaks the literal, and so does an escape that is
cut short or names no character. A literal cannot hold the null character.

Decoding goes from character to character. The mode says what the characters
read last have begun.
-/

namespace Predictive.Text

/-- Why a literal has no value. -/
inductive LiteralFault where
  | nul
  | brokenLine
  | badEscape
deriving DecidableEq

/-- What the characters read last have begun. -/
inductive LiteralMode where
  | plain
  | escape
  | octal (due value : Nat)
  | hex (due value : Nat)
  | named
  | name (letters : List Char)

/-- The control letters and the characters that escape to themselves. -/
def simpleEscape? (c : Char) : Option Char :=
  if c = '\\' ∨ c = Char.ofNat 39 ∨ c = Char.ofNat 34 then some c
  else if c = 'a' then some (Char.ofNat 7)
  else if c = 'b' then some (Char.ofNat 8)
  else if c = 'f' then some (Char.ofNat 12)
  else if c = 'n' then some '\n'
  else if c = 'r' then some '\r'
  else if c = 't' then some '\t'
  else if c = 'v' then some (Char.ofNat 11)
  else none

/-- The value of an octal digit. -/
def octalValue? (c : Char) : Option Nat :=
  if 48 ≤ c.toNat ∧ c.toNat ≤ 55 then some (c.toNat - 48) else none

/-- The value of a hexadecimal digit in either case. -/
def hexValue? (c : Char) : Option Nat :=
  if 48 ≤ c.toNat ∧ c.toNat ≤ 57 then some (c.toNat - 48)
  else if 97 ≤ c.toNat ∧ c.toNat ≤ 102 then some (c.toNat - 87)
  else if 65 ≤ c.toNat ∧ c.toNat ≤ 70 then some (c.toNat - 55)
  else none

/-- The number of hexadecimal digits behind an escape letter. -/
def hexWidth? (c : Char) : Option Nat :=
  if c = 'x' then some 2 else if c = 'u' then some 4 else if c = 'U' then some 8 else none

/-- The characters that can be named. -/
def namedChars : List (String × Char) := [("BULLET", Char.ofNat 0x2022)]

/-- The character of a code point, unless it is a surrogate or out of range. -/
def scalar? (code : Nat) : Option Char :=
  if code.isValidChar then some (Char.ofNat code) else none

namespace LiteralMode

/-- A character outside any escape. -/
def stepPlain (c : Char) : Except LiteralFault (List Char × LiteralMode) :=
  if c = '\\' then .ok ([], escape)
  else if c = '\n' then .error .brokenLine
  else .ok ([c], plain)

/-- The character behind a backslash. -/
def stepEscape (c : Char) : Except LiteralFault (List Char × LiteralMode) :=
  if c = '\n' then .ok ([], plain)
  else
    match simpleEscape? c, octalValue? c, hexWidth? c with
    | some d, _, _ => .ok ([d], plain)
    | none, some digit, _ => .ok ([], octal 2 digit)
    | none, none, some width => .ok ([], hex width 0)
    | none, none, none => if c = 'N' then .ok ([], named) else .ok (['\\', c], plain)

/-- What one character writes, and the mode behind it. -/
def step : LiteralMode → Char → Except LiteralFault (List Char × LiteralMode)
  | plain, c => stepPlain c
  | escape, c => stepEscape c
  | octal due value, c =>
    match due, octalValue? c with
    | due + 1, some digit => .ok ([], octal due (value * 8 + digit))
    | _, _ => (stepPlain c).map (fun (written, mode) => (Char.ofNat value :: written, mode))
  | hex due value, c =>
    match hexValue? c with
    | none => .error .badEscape
    | some digit =>
      if due ≤ 1 then
        match scalar? (value * 16 + digit) with
        | some d => .ok ([d], plain)
        | none => .error .badEscape
      else .ok ([], hex (due - 1) (value * 16 + digit))
  | named, c => if c = '\x7b' then .ok ([], name []) else .error .badEscape
  | name letters, c =>
    if c = '\x7d' then
      match namedChars.lookup (String.ofList letters) with
      | some d => .ok ([d], plain)
      | none => .error .badEscape
    else .ok ([], name (letters ++ [c]))

/-- What the end of the literal writes. -/
def finish : LiteralMode → Except LiteralFault (List Char)
  | plain => .ok []
  | octal _ value => .ok [Char.ofNat value]
  | _ => .error .badEscape

/-- Decode characters from a mode on. -/
def decode : LiteralMode → List Char → Except LiteralFault (List Char)
  | mode, [] => mode.finish
  | mode, c :: rest =>
    match mode.step c with
    | .error fault => .error fault
    | .ok (written, next) => (next.decode rest).map (written ++ ·)

end LiteralMode

/-- The value of a literal that stands between its quotes. -/
def unquote (lexeme : List Char) : Except LiteralFault (List Char) :=
  if Char.ofNat 0 ∈ lexeme then .error .nul
  else LiteralMode.plain.decode (normalize lexeme.tail).dropLast

/-- The wording of a fault. -/
def LiteralFault.message : LiteralFault → String
  | .nul => "source code string cannot contain null bytes"
  | .brokenLine => "unterminated string literal"
  | .badEscape => "malformed escape in a string literal"

end Predictive.Text
