import Predictive.Regex.Fault
import Predictive.Text.Literal

/-!
# Signs of a pattern

A pattern is read as signs: a backslash with the character behind it is one
sign, every other character is one. Digits read as numbers to a base, and a name
begins like an identifier.
-/

namespace Predictive.Regex

open Text (hexValue? octalValue? isIdentifierStart isIdentifierContinue)

/-- A character of a pattern, alone or behind a backslash. -/
structure Sign where
  char : Char
  escaped : Bool
  offset : Nat
deriving DecidableEq

namespace Sign

/-- The sign is a character that stands alone. -/
def isPlain (s : Sign) (c : Char) : Bool := !s.escaped && s.char == c

/-- The sign as written. -/
def text (s : Sign) : String :=
  if s.escaped then String.ofList ['\\', s.char] else String.singleton s.char

/-- The signs of a pattern from an offset on. A backslash needs a character
behind it. -/
def ofChars : Nat → List Char → Except Fault (List Sign)
  | _, [] => .ok []
  | offset, c :: rest =>
    if c = '\\' then
      match rest with
      | [] => .error ⟨.escapeAtEnd, some offset⟩
      | d :: others => (ofChars (offset + 2) others).map (⟨d, true, offset⟩ :: ·)
    else (ofChars (offset + 1) rest).map (⟨c, false, offset⟩ :: ·)

end Sign

/-- A decimal digit of ASCII. -/
def isDigit (c : Char) : Bool := c.isDigit

/-- A hexadecimal digit. -/
def isHex (c : Char) : Bool := (hexValue? c).isSome

/-- An octal digit. -/
def isOctal (c : Char) : Bool := (octalValue? c).isSome

/-- The value of digits to a base. -/
def valueOf (base : Nat) (digits : List Char) : Nat :=
  digits.foldl (fun value c => value * base + (hexValue? c).getD 0) 0

/-- A name of letters, digits and underscores that begins with no digit. -/
def isName (name : String) : Bool :=
  match name.toList with
  | [] => false
  | c :: rest => (isIdentifierStart c || c == '_') && rest.all isIdentifierContinue

end Predictive.Regex
