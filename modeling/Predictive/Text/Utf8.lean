import Predictive.Text.Newline

/-!
# Strict UTF-8

Bytes are read one at a time. A lead byte fixes how many continuation bytes
follow and the range of the first of them, which excludes overlong forms,
surrogates and code points past U+10FFFF. A fault names the bytes that were
read in vain: a byte that cannot lead, a lead byte with the continuations
before a byte that does not fit, or the same at the end of the data.

A byte-order mark at the front of a file is not part of its text. A file that
ends within its byte-order mark reads as empty.
-/

namespace Predictive.Text

/-- Why bytes are not UTF-8. -/
inductive Utf8Cause where
  | invalidStart
  | invalidContinuation
  | unexpectedEnd
deriving DecidableEq

/-- Bytes read in vain: the first one, its value, how many there are and why. -/
structure Utf8Fault where
  position : Nat
  lead : UInt8
  length : Nat
  cause : Utf8Cause
deriving DecidableEq

/-- A sequence under way: where it began, its lead byte, the continuation bytes
still due, the range of the next one and the bits read so far. -/
structure Utf8Pending where
  position : Nat
  lead : UInt8
  due : Nat
  low : Nat
  high : Nat
  value : Nat

/-- What a byte outside any sequence does. -/
inductive Utf8Lead where
  | single (c : Char)
  | opens (due low high value : Nat)
  | invalid

/-- The role of a byte outside any sequence. -/
def Utf8Lead.of (b : UInt8) : Utf8Lead :=
  let n := b.toNat
  if n < 0x80 then .single (Char.ofNat n)
  else if n < 0xc2 then .invalid
  else if n < 0xe0 then .opens 1 0x80 0xbf (n - 0xc0)
  else if n = 0xe0 then .opens 2 0xa0 0xbf 0
  else if n = 0xed then .opens 2 0x80 0x9f 0x0d
  else if n < 0xf0 then .opens 2 0x80 0xbf (n - 0xe0)
  else if n = 0xf0 then .opens 3 0x90 0xbf 0
  else if n < 0xf4 then .opens 3 0x80 0xbf (n - 0xf0)
  else if n = 0xf4 then .opens 3 0x80 0x8f 4
  else .invalid

/-- Read bytes from a position on, with a sequence possibly under way. -/
def decodeFrom : Option Utf8Pending → Nat → List UInt8 → Except Utf8Fault (List Char)
  | none, _, [] => .ok []
  | some p, here, [] => .error ⟨p.position, p.lead, here - p.position, .unexpectedEnd⟩
  | none, here, b :: rest =>
    match Utf8Lead.of b with
    | .single c => (decodeFrom none (here + 1) rest).map (c :: ·)
    | .opens due low high value =>
      decodeFrom (some ⟨here, b, due, low, high, value⟩) (here + 1) rest
    | .invalid => .error ⟨here, b, 1, .invalidStart⟩
  | some p, here, b :: rest =>
    if p.low ≤ b.toNat ∧ b.toNat ≤ p.high then
      if p.due = 1 then
        (decodeFrom none (here + 1) rest).map
          (Char.ofNat (p.value * 64 + (b.toNat - 0x80)) :: ·)
      else
        decodeFrom
          (some { p with due := p.due - 1, low := 0x80, high := 0xbf,
                         value := p.value * 64 + (b.toNat - 0x80) }) (here + 1) rest
    else .error ⟨p.position, p.lead, here - p.position, .invalidContinuation⟩

/-- The text of a list of bytes. -/
def decodeUtf8 (bytes : List UInt8) : Except Utf8Fault (List Char) := decodeFrom none 0 bytes

/-- The bytes of a byte-order mark. -/
def byteOrderMark : List UInt8 := [0xef, 0xbb, 0xbf]

/-- The bytes of a file behind its byte-order mark, if it has one. -/
def withoutMark (bytes : List UInt8) : List UInt8 :=
  if byteOrderMark.isPrefixOf bytes then bytes.drop byteOrderMark.length
  else if bytes.isPrefixOf byteOrderMark then []
  else bytes

/-- The text of a file: its bytes behind a byte-order mark, with all line ends as
newlines. -/
def loadText (bytes : List UInt8) : Except Utf8Fault (List Char) :=
  (decodeUtf8 (withoutMark bytes)).map normalize

/-- The wording of a cause. -/
def Utf8Cause.message : Utf8Cause → String
  | .invalidStart => "invalid start byte"
  | .invalidContinuation => "invalid continuation byte"
  | .unexpectedEnd => "unexpected end of data"

/-- Two lower-case hexadecimal digits of a byte. -/
def byteHex (b : UInt8) : String :=
  String.ofList (Nat.toDigits 16 (b.toNat / 16) ++ Nat.toDigits 16 (b.toNat % 16))

/-- The wording of a fault. -/
def Utf8Fault.message (f : Utf8Fault) : String :=
  (if f.length = 1 then
    "'utf-8' codec can't decode byte 0x" ++ byteHex f.lead ++ " in position " ++
      toString f.position
  else
    "'utf-8' codec can't decode bytes in position " ++ toString f.position ++ "-" ++
      toString (f.position + f.length - 1)) ++ ": " ++ f.cause.message

end Predictive.Text
