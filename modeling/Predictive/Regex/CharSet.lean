import Predictive.Regex.Escape

/-!
# Character sets

A set stands between brackets and lists characters, ranges and named classes.
A bracket right behind the opening one is an item, and a dash at the end is too.
-/

namespace Predictive.Regex

open Read

/-- An item of a set while it is read: a code point, or a named class. -/
inductive SetPart where
  | code (value : Nat)
  | named (kind : Category) (complement : Bool)

/-- Read an escape inside a set. -/
def readSetEscape (s : Sign) : Read SetPart := do
  if s.char = 'b' then return .code 8
  match category? s.char with
  | some (kind, complement) => return .named kind complement
  | none =>
    match ← readCharEscape? s with
    | some code => return .code code
    | none =>
      if isOctal s.char then
        let digits ← takeUpTo isOctal 2
        let code := valueOf 8 (s.char :: digits)
        if code > 255 then
          refuse (.octalTooLarge (s.text ++ String.ofList digits)) (digits.length + 2)
        else return .code code
      else
        let code ← readPlainEscape s
        return .code code

/-- Read a part of a set that begins with a sign. -/
def readSetPart (s : Sign) : Read SetPart :=
  if s.escaped then readSetEscape s else return .code s.char.toNat

/-- The item of a part that is no end of a range. -/
def SetPart.item (flags : Flags) : SetPart → SetItem
  | code value => .range value value
  | named kind complement => flags.category kind complement

/-- Read the items of a set up to its closing bracket. A bracket that would close
an empty set is an item. -/
def readSetItems (flags : Flags) (start : Nat) : Nat → List SetItem → Read (List SetItem)
  | 0, _ => refuseAt .unterminatedSet start
  | fuel + 1, items => do
    match ← take with
    | none => refuseAt .unterminatedSet start
    | some s =>
      if s.isPlain ']' && !items.isEmpty then return items
      let first ← readSetPart s
      if ← accept '-' then
        match ← take with
        | none => refuseAt .unterminatedSet start
        | some t =>
          if t.isPlain ']' then
            return items ++ [first.item flags, .range 45 45]
          let second ← readSetPart t
          match first, second with
          | .code low, .code high =>
            if low ≤ high then
              readSetItems flags start fuel (items ++ [.range low high])
            else refuseAt (.badRange s.text t.text) s.offset
          | _, _ => refuseAt (.badRange s.text t.text) s.offset
      else readSetItems flags start fuel (items ++ [first.item flags])

/-- Read a set behind its opening bracket. -/
def readSet (flags : Flags) (start : Nat) : Read Node := do
  let complement ← accept '^'
  let r ← get
  let items ← readSetItems flags start (r.rest.length + 1) []
  return .one (.set items complement flags.letters)

end Predictive.Regex
