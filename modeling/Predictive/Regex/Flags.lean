import Predictive.Regex.Syntax

/-!
# Flags

Flags decide how letters compare, whether anchors respect lines, whether a dot
matches a newline, whether blanks count, and whether classes are confined to
ASCII. They stand behind a pattern, in a group at its front, or in a group of
their own, each with letters of its own.
-/

namespace Predictive.Regex

open Text (LetterMode)

/-- The flags under which a part of a pattern is read. -/
structure Flags where
  ignoreCase : Bool := false
  multiline : Bool := false
  dotAll : Bool := false
  verbose : Bool := false
  ascii : Bool := false
deriving DecidableEq

namespace Flags

/-- The flags behind a pattern. Other letters are ignored. -/
def ofLetters (letters : List Char) : Flags where
  ignoreCase := 'i' ∈ letters
  multiline := 'm' ∈ letters
  dotAll := 's' ∈ letters
  verbose := 'x' ∈ letters
  ascii := 'A' ∈ letters

/-- How letters compare under the flags. -/
def letters (f : Flags) : LetterMode :=
  if f.ignoreCase then if f.ascii then .ascii else .unicode else .exact

/-- The test of one character under the flags. -/
def char (f : Flags) (code : Nat) : Node := .one (.set [.range code code] false f.letters)

/-- The test of a named class under the flags. -/
def category (f : Flags) (kind : Category) (complement : Bool) : SetItem :=
  .category kind f.ascii complement

end Flags

/-- The letters of flags inside a pattern. -/
def isFlagLetter (c : Char) : Bool := c ∈ ['i', 'L', 'm', 's', 'x', 'a', 'u']

/-- The letters that choose between ASCII and Unicode. -/
def isTypeLetter (c : Char) : Bool := c ∈ ['L', 'a', 'u']

/-- Set or clear the flags of letters. -/
def Flags.put (flags : Flags) (letters : List Char) (value : Bool) : Flags where
  ignoreCase := if 'i' ∈ letters then value else flags.ignoreCase
  multiline := if 'm' ∈ letters then value else flags.multiline
  dotAll := if 's' ∈ letters then value else flags.dotAll
  verbose := if 'x' ∈ letters then value else flags.verbose
  ascii := if 'a' ∈ letters then true else if 'u' ∈ letters then false else flags.ascii

/-- The anchor of a circumflex under the flags. -/
def Flags.startAnchor (f : Flags) : Anchor := if f.multiline then .lineStart else .textStart

/-- The anchor of a dollar sign under the flags. -/
def Flags.endAnchor (f : Flags) : Anchor := if f.multiline then .lineEnd else .lastLineEnd

end Predictive.Regex
