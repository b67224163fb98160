import Predictive.Regex.Escape

/-!
# Parts of a sequence

A sequence is made of parts. An anchor cannot be repeated, a repeated part
cannot be repeated again, and every other part can. The bounds of a repetition
stand behind the part, and a further sign makes it lazy or possessive.
-/

namespace Predictive.Regex

open Read

/-- A group may be referred to once it is closed, and inside a look-behind only if
it stands in front of it. -/
def checkReference (index back : Nat) : Read Unit := do
  let r ← get
  if (r.widths.lookup index).isNone then refuse .openGroup back
  if r.behind.any (· ≤ index) then refuse .groupOfSameLookBehind 0

/-- A part of a sequence: what can be repeated, what cannot, and what has been
repeated already. -/
inductive Piece where
  | plain (node : Node)
  | anchored (node : Node)
  | repeated (node : Node)

/-- The expression of a part. -/
def Piece.node : Piece → Node
  | plain node => node
  | anchored node => node
  | repeated node => node

/-- The expression of a sequence of parts. -/
def sequenceOf (pieces : List Piece) : Node :=
  pieces.foldr (fun piece rest => .seq piece.node rest) .empty

/-- The anchor of an escape letter. -/
def anchor? (flags : Flags) (c : Char) : Option Anchor :=
  [('A', Anchor.textStart), ('Z', .textEnd), ('b', .wordBoundary flags.ascii false),
    ('B', .wordBoundary flags.ascii true)].lookup c

/-- Read a number behind a backslash: an octal code of three digits, or else the
number of a group. -/
def readNumber (flags : Flags) (s : Sign) : Read Piece := do
  let more ← takeUpTo isDigit 1
  let last ← if isOctal s.char && more.any isOctal then takeUpTo isOctal 1 else pure []
  if last.isEmpty then
    let index := valueOf 10 (s.char :: more)
    let r ← get
    if index < r.nextGroup then
      checkReference index (more.length + 2)
      return .plain (.backReference index flags.letters)
    else refuse (.invalidGroup index) (more.length + 1)
  else
    let code := valueOf 8 (s.char :: more ++ last)
    if code > 255 then
      refuse (.octalTooLarge (s.text ++ String.ofList (more ++ last))) 4
    else return .plain (flags.char code)

/-- Read an escape outside of sets. -/
def readEscape (flags : Flags) (s : Sign) : Read Piece := do
  match anchor? flags s.char, category? s.char with
  | some anchor, _ => return .anchored (.anchor anchor)
  | none, some (kind, complement) =>
    return .plain (.one (.set [flags.category kind complement] false .exact))
  | none, none =>
    match ← readCharEscape? s with
    | some code => return .plain (flags.char code)
    | none =>
      if s.char = '0' then
        let digits ← takeUpTo isOctal 2
        return .plain (flags.char (valueOf 8 digits))
      else if s.char.isDigit then readNumber flags s
      else
        let code ← readPlainEscape s
        return .plain (flags.char code)

/-- The least number of rounds that is refused. -/
def roundLimit : Nat := 4294967295

/-- The bounds of a repetition whose sign has been read. A brace that begins no
bounds gives none and is left as a character. -/
def readBounds? (s : Sign) : Read (Option (Nat × Option Nat)) := do
  let here ← offset
  if s.char = '?' then return some (0, some 1)
  else if s.char = '*' then return some (0, none)
  else if s.char = '+' then return some (1, none)
  else if ← sees '\x7d' then return none
  else
    let saved ← get
    let low ← takeAll isDigit
    let high ← if ← accept ',' then takeAll isDigit else pure low
    if ← accept '\x7d' then
      if valueOf 10 low ≥ roundLimit ∨ valueOf 10 high ≥ roundLimit then
        throw ⟨.tooManyRounds, none⟩
      let most := if high.isEmpty then none else some (valueOf 10 high)
      if most.any (· < valueOf 10 low) then refuseAt .leastAboveMost here
      return some (valueOf 10 low, most)
    else
      set saved
      return none

/-- Read the sign that makes a repetition lazy or possessive. -/
def readEagerness : Read Eagerness := do
  if ← accept '?' then return .lazy
  if ← accept '+' then return .possessive
  return .greedy

/-- Repeat the last part of a sequence. -/
def readRepetition (s : Sign) (bounds : Nat × Option Nat) (pieces : List Piece) :
    Read (List Piece) := do
  match pieces.getLast? with
  | none => refuseAt .nothingToRepeat s.offset
  | some (.anchored _) => refuseAt .nothingToRepeat s.offset
  | some (.repeated _) => refuseAt .multipleRepeat s.offset
  | some (.plain node) =>
    let eagerness ← readEagerness
    return pieces.dropLast ++ [.repeated (.rep eagerness bounds.1 bounds.2 node)]

end Predictive.Regex
