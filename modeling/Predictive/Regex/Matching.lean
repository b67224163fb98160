import Predictive.Regex.Syntax

/-!
# Matching with backtracking

A match begins at a place in a text and tries choices in order: the first
branch before the second, one more round of a greedy repetition before leaving
it, leaving a lazy one before one more round. What follows an expression is
given as a continuation, and the first choice under which the continuation
succeeds decides. The text in front of the place stays visible to anchors and
look-behind.

A repetition first makes its least number of rounds. A further round starts
only where the round before it did not start, so rounds over the empty string
end the repetition; the length of the remaining text therefore bounds the
number of further rounds. Possessive repetition, atomic groups and look-around
take the first way in which their body matches and never reconsider it.
-/

namespace Predictive.Regex

open Text (LetterMode isAsciiBlank isBlank isWord isDecimal)

/-- A place in a text: the characters in front of it, nearest first, those
behind it, and the texts captured so far, latest first. -/
structure Place where
  before : List Char
  rest : List Char
  groups : List (Nat × List Char) := []

/-- What follows an expression. -/
abbrev Continuation := Place → Option Place

namespace Category

/-- The characters of a class. -/
def holds (kind : Category) (ascii : Bool) (c : Char) : Bool :=
  match kind, ascii with
  | digit, true => c.isDigit
  | digit, false => isDecimal c
  | blank, true => isAsciiBlank c
  | blank, false => isBlank c
  | word, true => c.isAlphanum || c == '_'
  | word, false => isWord c

end Category

/-- An item holds a character. -/
def SetItem.holds (item : SetItem) (c : Char) : Bool :=
  match item with
  | range low high => low ≤ c.toNat && c.toNat ≤ high
  | category kind ascii complement => kind.holds ascii c != complement

/-- A test accepts a character. A set that disregards case accepts a character
when it holds any character of the same letter. -/
def CharTest.accepts (test : CharTest) (c : Char) : Bool :=
  match test with
  | any => true
  | notNewline => c != '\n'
  | set items complement letters =>
    ((letters.variants c.toNat).any (fun code =>
      items.any (·.holds (Char.ofNat code)))) != complement

namespace Place

/-- Step over one character. -/
def step (p : Place) (c : Char) (rest : List Char) : Place :=
  { p with before := c :: p.before, rest := rest }

/-- Go back over a number of characters. -/
def back? : Nat → Place → Option Place
  | 0, p => some p
  | n + 1, p =>
    match p.before with
    | [] => none
    | c :: before => back? n { p with before := before, rest := c :: p.rest }

/-- The text between an earlier place and this one. -/
def since (p start : Place) : List Char :=
  start.rest.take (start.rest.length - p.rest.length)

/-- A word stands on exactly one side of the place. An empty text has no
boundaries and no other places either. -/
def atWordBoundary (p : Place) (ascii complement : Bool) : Bool :=
  let isWordAt (cs : List Char) : Bool := cs.head?.any (Category.word.holds ascii)
  if p.before.isEmpty && p.rest.isEmpty then false
  else (isWordAt p.before != isWordAt p.rest) != complement

end Place

/-- An anchor holds at a place. -/
def Anchor.holds (anchor : Anchor) (p : Place) : Bool :=
  match anchor with
  | textStart => p.before.isEmpty
  | lineStart => p.before.isEmpty || p.before.head? == some '\n'
  | textEnd => p.rest.isEmpty
  | lastLineEnd => p.rest.isEmpty || p.rest == ['\n']
  | lineEnd => p.rest.isEmpty || p.rest.head? == some '\n'
  | wordBoundary ascii complement => p.atWordBoundary ascii complement

/-- Step over a given text. -/
def sameText (letters : LetterMode) : List Char → Place → Option Place
  | [], p => some p
  | c :: cs, p =>
    match p.rest with
    | [] => none
    | d :: rest =>
      if letters.lower c.toNat = letters.lower d.toNat then sameText letters cs (p.step d rest)
      else none

/-- A number of rounds, with what follows them. -/
def rounds (body : Place → Continuation → Option Place) : Nat → Place → Continuation → Option Place
  | 0, p, next => next p
  | n + 1, p, next => body p (fun q => rounds body n q next)

/-- Further rounds, as many as possible first. The length of the text at the
start of the last round tells whether the place has moved since. -/
def greedyRounds (body : Place → Continuation → Option Place) :
    Nat → Option Nat → Place → Continuation → Option Place
  | 0, _, p, next => next p
  | n + 1, last, p, next =>
    if last = some p.rest.length then next p
    else
      match body p (fun q => greedyRounds body n (some p.rest.length) q next) with
      | some result => some result
      | none => next p

/-- Further rounds, as few as possible first. -/
def lazyRounds (body : Place → Continuation → Option Place) :
    Nat → Option Nat → Place → Continuation → Option Place
  | 0, _, p, next => next p
  | n + 1, last, p, next =>
    match next p with
    | some result => some result
    | none =>
      if last = some p.rest.length then none
      else body p (fun q => lazyRounds body n (some p.rest.length) q next)

/-- Each round taken in the first way in which it matches. -/
def firstRounds (body : Place → Continuation → Option Place) : Nat → Place → Option Place
  | 0, p => some p
  | n + 1, p =>
    match body p some with
    | none => none
    | some q => firstRounds body n q

/-- As many further rounds as possible, each in the first way in which it
matches. -/
def possessiveRounds (body : Place → Continuation → Option Place) :
    Nat → Option Nat → Place → Place
  | 0, _, p => p
  | n + 1, last, p =>
    if last = some p.rest.length then p
    else
      match body p some with
      | none => p
      | some q => possessiveRounds body n (some p.rest.length) q

/-- The greatest number of further rounds that can matter. -/
def furtherRounds (least : Nat) (most : Option Nat) (p : Place) : Nat :=
  match most with
  | some n => min (n - least) (p.rest.length + 1)
  | none => p.rest.length + 1

/-- A repetition of a body. -/
def repetition (body : Place → Continuation → Option Place) (eagerness : Eagerness) (least : Nat)
    (most : Option Nat) (p : Place) (next : Continuation) : Option Place :=
  match eagerness with
  | .greedy =>
    rounds body least p (fun q => greedyRounds body (furtherRounds least most q) none q next)
  | .lazy =>
    rounds body least p (fun q => lazyRounds body (furtherRounds least most q) none q next)
  | .possessive =>
    match firstRounds body least p with
    | none => none
    | some q => next (possessiveRounds body (furtherRounds least most q) none q)

/-- Match an expression at a place, and what follows behind it. -/
def Node.run : Node → Place → Continuation → Option Place
  | .empty, p, next => next p
  | .one test, p, next =>
    match p.rest with
    | [] => none
    | c :: rest => if test.accepts c then next (p.step c rest) else none
  | .anchor place, p, next => if place.holds p then next p else none
  | .seq first second, p, next => first.run p (fun q => second.run q next)
  | .alt first second, p, next =>
    match first.run p next with
    | some result => some result
    | none => second.run p next
  | .rep eagerness least most body, p, next =>
    repetition (fun q after => body.run q after) eagerness least most p next
  | .group index body, p, next =>
    body.run p (fun q => next { q with groups := (index, q.since p) :: q.groups })
  | .atomic body, p, next =>
    match body.run p some with
    | some q => next q
    | none => none
  | .lookAhead negative body, p, next =>
    match body.run p some, negative with
    | some q, false => next { p with groups := q.groups }
    | none, true => next p
    | _, _ => none
  | .lookBehind negative width body, p, next =>
    match (p.back? width).bind (fun q => body.run q some), negative with
    | some q, false => next { p with groups := q.groups }
    | none, true => next p
    | _, _ => none
  | .backReference index letters, p, next =>
    match p.groups.lookup index with
    | none => none
    | some text =>
      match sameText letters text p with
      | some q => next q
      | none => none
  | .ifGroup index present absent, p, next =>
    match p.groups.lookup index with
    | some _ => present.run p next
    | none => absent.run p next

/-- The text that an expression matches at a place, given the characters in
front of the place, nearest first, and those behind it. -/
def Node.matched? (node : Node) (before rest : List Char) : Option (List Char) :=
  (node.run ⟨before, rest, []⟩ some).map (fun q => q.since ⟨before, rest, []⟩)

/-- A match is a text that stands at the front of the rest. -/
theorem Node.matched?_eq_some {node : Node} {before rest text : List Char}
    (found : node.matched? before rest = some text) : text ++ rest.drop text.length = rest := by
  obtain ⟨q, _, same⟩ := Option.map_eq_some_iff.mp found
  have slice : text = rest.take (rest.length - q.rest.length) := same.symm
  have length : text.length = rest.length - q.rest.length := by
    rw [slice, List.length_take]
    omega
  rw [length, slice, List.take_append_drop]

end Predictive.Regex
