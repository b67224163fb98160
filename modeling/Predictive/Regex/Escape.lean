import Predictive.Regex.Reading

/-!
# Escapes

An escape stands for one character or for a named class. Escapes by code point,
by name and by control letter mean the same inside and outside of sets; any
other letter or digit needs a meaning of its own at its place.
-/

namespace Predictive.Regex

open Text (namedChars)
open Read

/-- The control letters that mean a character both inside and outside a set. -/
def controlLetter? (c : Char) : Option Nat :=
  [('a', 7), ('f', 12), ('n', 10), ('r', 13), ('t', 9), ('v', 11), ('\\', 92)].lookup c

/-- The named classes and whether they are complemented. -/
def category? (c : Char) : Option (Category × Bool) :=
  [('d', (Category.digit, false)), ('D', (.digit, true)), ('s', (.blank, false)),
    ('S', (.blank, true)), ('w', (.word, false)), ('W', (.word, true))].lookup c

/-- Read the digits of an escape with a fixed number of hexadecimal digits. -/
def readHex (s : Sign) (width : Nat) : Read Nat := do
  let digits ← takeUpTo isHex width
  if digits.length = width then return valueOf 16 digits
  else refuse (.incompleteEscape (s.text ++ String.ofList digits)) (digits.length + 2)

/-- Read the name of an escape by name. -/
def readNamed : Read Nat := do
  if ← accept '\x7b' then
    let name ← takeName '\x7d' "character name"
    match namedChars.lookup name with
    | some c => return c.toNat
    | none => refuse (.undefinedCharacter name) (name.length + 4)
  else refuse .missingBrace 0

/-- Read an escape that means one character in the same way everywhere, if the
sign begins one. -/
def readCharEscape? (s : Sign) : Read (Option Nat) := do
  match controlLetter? s.char with
  | some code => return some code
  | none =>
    if s.char = 'x' then
      let code ← readHex s 2
      return some code
    else if s.char = 'u' then
      let code ← readHex s 4
      return some code
    else if s.char = 'U' then
      let code ← readHex s 8
      if code < 0x110000 then return some code
      else refuse (.badEscape s.text) 10
    else if s.char = 'N' then
      let code ← readNamed
      return some code
    else return none

/-- Read an escape that is a letter or any other character. Letters without a
meaning are refused. -/
def readPlainEscape (s : Sign) : Read Nat :=
  if s.char.isAlpha || s.char.isDigit then refuse (.badEscape s.text) 2
  else return s.char.toNat

end Predictive.Regex
