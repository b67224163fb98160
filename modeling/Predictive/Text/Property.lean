import Predictive.Text.Property.Unprintable
import Predictive.Text.Property.Word
import Predictive.Text.Property.Decimal
import Predictive.Text.Property.IdentifierStart
import Predictive.Text.Property.IdentifierContinue

/-!
# Character classes

Identifier classes, word characters, decimal digits, blanks and printable
characters over all of Unicode. The ASCII part of every class is a comparison
of code points; only other characters consult the ascending range tables, and a
search stops at the first range that ends at or behind the character.
-/

namespace Predictive.Text

/-- Membership of a code point in ascending closed ranges. -/
def inRanges (code : Nat) : List (Nat × Nat) → Bool
  | [] => false
  | (low, high) :: rest => if code ≤ high then low ≤ code else inRanges code rest

/-- The first code point outside ASCII. -/
def asciiLimit : Nat := 128

/-- A class is given by its ASCII part and by ranges for all other characters. -/
def inClass (ascii : Char → Bool) (ranges : List (Nat × Nat)) (c : Char) : Bool :=
  if c.toNat < asciiLimit then ascii c else inRanges c.toNat ranges

/-- Characters that may begin an identifier; the underscore is not one of them. -/
def isIdentifierStart (c : Char) : Bool := inClass Char.isAlpha identifierStartRanges c

/-- Characters that may continue an identifier, the underscore among them. -/
def isIdentifierContinue (c : Char) : Bool :=
  inClass (fun c => c.isAlphanum || c == '_') identifierContinueRanges c

/-- Letters, numbers and the underscore. -/
def isWord (c : Char) : Bool := inClass (fun c => c.isAlphanum || c == '_') wordRanges c

/-- Decimal digits of any script. -/
def isDecimal (c : Char) : Bool := inClass Char.isDigit decimalRanges c

/-- The blanks of ASCII: space, the controls U+0009 to U+000D and the four
information separators U+001C to U+001F. -/
def isAsciiBlank (c : Char) : Bool :=
  c == ' ' || (0x09 ≤ c.toNat && c.toNat ≤ 0x0d) || (0x1c ≤ c.toNat && c.toNat ≤ 0x1f)

/-- Code points from U+0080 on that are blank. -/
def blankRanges : List (Nat × Nat) :=
  [(0x85, 0x85), (0xa0, 0xa0), (0x1680, 0x1680), (0x2000, 0x200a), (0x2028, 0x2029),
   (0x202f, 0x202f), (0x205f, 0x205f), (0x3000, 0x3000)]

/-- Blanks of any script. -/
def isBlank (c : Char) : Bool := inClass isAsciiBlank blankRanges c

/-- Characters that a quoted text shows as themselves. The space is the only
printable blank. -/
def isPrintable (c : Char) : Bool :=
  if c.toNat < asciiLimit then 0x20 ≤ c.toNat && c.toNat < 0x7f
  else !inRanges c.toNat unprintableRanges

/-- Every white space character of the core library is a blank. -/
theorem isBlank_of_isWhitespace {c : Char} (white : c.isWhitespace = true) :
    isBlank c = true := by
  simp only [Char.isWhitespace, Bool.or_eq_true, decide_eq_true_eq] at white
  rcases white with ((rfl | rfl) | rfl) | rfl <;> decide

end Predictive.Text
