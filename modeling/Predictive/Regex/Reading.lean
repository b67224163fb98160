import Predictive.Regex.Sign
import Predictive.Regex.Flags

/-!
# The state of reading

Reading goes through the signs of a pattern once. The state holds what groups
and look-behinds have left behind so far; the steps take signs one by one or by
class, or refuse the pattern at an offset.
-/

namespace Predictive.Regex

/-- The state of reading: the signs ahead, the offset behind the pattern, the
flags of the whole pattern, the number that the next group gets, the names and
widths of groups, the first group of the outermost look-behind under way, the
groups that conditions mention with their offsets, and whether a look-behind has
no single width. -/
structure Reading where
  rest : List Sign
  finish : Nat
  flags : Flags
  nextGroup : Nat := 1
  names : List (String × Nat) := []
  widths : List (Nat × Width) := []
  behind : Option Nat := none
  mentioned : List (Nat × Nat) := []
  varies : Bool := false

/-- Steps of reading. -/
abbrev Read := StateT Reading (Except Fault)

namespace Read

/-- The offset of the sign ahead. -/
def offset : Read Nat := do
  let r ← get
  return (r.rest.head?.map Sign.offset).getD r.finish

/-- Refuse the pattern at an offset. -/
def refuseAt {α : Type} (cause : Cause) (offset : Nat) : Read α :=
  throw ⟨cause, some offset⟩

/-- Refuse the pattern a number of characters in front of the sign ahead. -/
def refuse {α : Type} (cause : Cause) (back : Nat) : Read α := do
  let here ← offset
  refuseAt cause (here - back)

/-- The sign ahead. -/
def ahead : Read (Option Sign) := do
  let r ← get
  return r.rest.head?

/-- Take the sign ahead. -/
def take : Read (Option Sign) := do
  let r ← get
  set { r with rest := r.rest.tail }
  return r.rest.head?

/-- The sign ahead is a given character. -/
def sees (c : Char) : Read Bool := do
  let s ← ahead
  return s.any (·.isPlain c)

/-- Take the sign ahead if it is a given character. -/
def accept (c : Char) : Read Bool := do
  if ← sees c then
    let _ ← take
    return true
  else return false

/-- Take signs of a class, at most the given number. -/
def takeUpTo (p : Char → Bool) (most : Nat) : Read (List Char) := do
  let r ← get
  let signs := (r.rest.take most).takeWhile (fun s => !s.escaped && p s.char)
  set { r with rest := r.rest.drop signs.length }
  return signs.map Sign.char

/-- Take all signs of a class. -/
def takeAll (p : Char → Bool) : Read (List Char) := do
  let r ← get
  takeUpTo p r.rest.length

/-- Take a name up to its terminator. -/
def takeName (terminator : Char) (what : String) : Read String := do
  let r ← get
  let signs := r.rest.takeWhile (fun s => !s.isPlain terminator)
  let name := String.join (signs.map Sign.text)
  let behind := r.rest.drop signs.length
  set { r with rest := behind.tail }
  if behind.isEmpty then
    if name.isEmpty then refuse (.missingName what) 0
    else refuse (.unterminatedName terminator) name.length
  else if name.isEmpty then refuse (.missingName what) 1
  else return name

end Read

end Predictive.Regex
