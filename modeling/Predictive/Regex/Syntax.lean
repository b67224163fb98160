import Predictive.Text.Property
import Predictive.Text.LetterCase

/-!
# Regular expressions

The tree of a regular expression with all flags resolved: each test carries how
letters compare, each anchor whether it respects lines, and each class whether
it is confined to ASCII. Groups that capture are numbered from one.

The width of an expression is the number of characters that a match can have,
as a least and, if there is one, a greatest number. Look-behind needs the two to
be equal.
-/

namespace Predictive.Regex

open Text (LetterMode)

/-- The named classes of characters. -/
inductive Category where
  | digit
  | blank
  | word
deriving DecidableEq

/-- An item of a character set: an inclusive range of code points, or a named
class, possibly complemented. -/
inductive SetItem where
  | range (low high : Nat)
  | category (kind : Category) (ascii complement : Bool)
deriving DecidableEq

/-- A test of one character. -/
inductive CharTest where
  | any
  | notNewline
  | set (items : List SetItem) (complement : Bool) (letters : LetterMode)
deriving DecidableEq

/-- A condition on a place in the text. -/
inductive Anchor where
  | textStart
  | lineStart
  | textEnd
  | lastLineEnd
  | lineEnd
  | wordBoundary (ascii complement : Bool)
deriving DecidableEq

/-- How a repetition chooses its number of rounds. -/
inductive Eagerness where
  | greedy
  | lazy
  | possessive
deriving DecidableEq

/-- A regular expression. -/
inductive Node where
  | empty
  | one (test : CharTest)
  | anchor (place : Anchor)
  | seq (first second : Node)
  | alt (first second : Node)
  | rep (eagerness : Eagerness) (least : Nat) (most : Option Nat) (body : Node)
  | group (index : Nat) (body : Node)
  | atomic (body : Node)
  | lookAhead (negative : Bool) (body : Node)
  | lookBehind (negative : Bool) (width : Nat) (body : Node)
  | backReference (index : Nat) (letters : LetterMode)
  | ifGroup (index : Nat) (present absent : Node)

/-- The numbers of characters that a match can have; no greatest one means that
there is no bound. -/
structure Width where
  least : Nat
  most : Option Nat
deriving DecidableEq

namespace Width

/-- The width of one text behind another. -/
def add (a b : Width) : Width :=
  ⟨a.least + b.least, a.most.bind (fun m => b.most.map (m + ·))⟩

/-- The width of one text or another. -/
def join (a b : Width) : Width :=
  ⟨min a.least b.least, a.most.bind (fun m => b.most.map (max m ·))⟩

/-- The width of repeated texts. -/
def times (w : Width) (least : Nat) (most : Option Nat) : Width :=
  ⟨w.least * least,
    match most with
    | some n => w.most.map (· * n)
    | none => if w.most = some 0 then some 0 else none⟩

/-- The one width that is possible, if there is only one. -/
def fixed? (w : Width) : Option Nat := if w.most = some w.least then some w.least else none

end Width

/-- The width of an expression, given the widths of the groups it refers to. -/
def Node.width (groups : List (Nat × Width)) : Node → Width
  | .empty => ⟨0, some 0⟩
  | .one _ => ⟨1, some 1⟩
  | .anchor _ => ⟨0, some 0⟩
  | .seq first second => (first.width groups).add (second.width groups)
  | .alt first second => (first.width groups).join (second.width groups)
  | .rep _ least most body => (body.width groups).times least most
  | .group _ body => body.width groups
  | .atomic body => body.width groups
  | .lookAhead _ _ => ⟨0, some 0⟩
  | .lookBehind _ _ _ => ⟨0, some 0⟩
  | .backReference index _ => (groups.lookup index).getD ⟨0, some 0⟩
  | .ifGroup _ present absent => (present.width groups).join (absent.width groups)

end Predictive.Regex
