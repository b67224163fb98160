import Predictive.Token.Basic

/-!
# Token sources

A parser reads tokens from a source: it looks at the next token, takes it, and
reports what it expected just before it gives up. Each of the three may fail
with a fault of the source, and each leaves a source behind, also when it
fails. `remaining` bounds the number of tokens that can still be taken.

An item stream is a source over a finite list. Looking at an item converts it
and keeps the token until it is taken. Conversion happens when the item has
already left the list, so an item that cannot be converted is reported once, and
the next look sees the item behind it. A stream records the reports of the
parser, or refuses them if it was made to do so.
-/

namespace Predictive

open Text (Value quoted quotedList)

/-- A source of tokens whose operations may fail with faults of type `ε`. -/
class TokenSource (σ : Type) (ε : outParam Type) where
  /-- The next token, which stays in the source; none at the end. -/
  peek : σ → Except ε (Option Token) × σ
  /-- The next token, which leaves the source; none at the end. -/
  next : σ → Except ε (Option Token) × σ
  /-- Hear what the parser found and what it expected. -/
  report : σ → Option Token → List Symbol → Except ε Unit × σ
  /-- A bound on the number of tokens that can still be taken. -/
  remaining : σ → Nat

/-- What a parser reported: the token it found and the names it expected. -/
structure Report where
  found : Option Token
  expected : List Symbol
deriving DecidableEq

/-- A fault of an item stream. -/
inductive StreamFault where
  | notAToken (value : Value)
  | refused (report : Report)

namespace StreamFault

/-- The wording of a fault. -/
def message : StreamFault → String
  | notAToken value =>
    "cannot use " ++ value.shown ++ " as a token (expected LexTok, (type, value) or str)"
  | refused report =>
    "found " ++ ((report.found.map Token.kind).getD "None") ++ ", expected " ++
      quotedList report.expected

end StreamFault

/-- What a stream does with a report. -/
inductive ReportPolicy where
  | record
  | refuse
deriving DecidableEq

/-- A stream of items. The look-ahead is absent until a look succeeds; a look at
the end of the items succeeds with no token. -/
structure ItemStream where
  items : List Item
  ahead : Option (Option Token) := none
  reports : List Report := []
  policy : ReportPolicy := .record

namespace ItemStream

/-- Look at the next token. -/
def peek (s : ItemStream) : Except StreamFault (Option Token) × ItemStream :=
  match s.ahead with
  | some look => (.ok look, s)
  | none =>
    match s.items with
    | [] => (.ok none, { s with ahead := some none })
    | item :: rest =>
      match item.toToken? with
      | .ok t => (.ok (some t), { s with items := rest, ahead := some (some t) })
      | .error value => (.error (.notAToken value), { s with items := rest })

/-- Take the next token. -/
def next (s : ItemStream) : Except StreamFault (Option Token) × ItemStream :=
  match s.peek with
  | (.ok look, after) => (.ok look, { after with ahead := none })
  | (.error fault, after) => (.error fault, after)

/-- Hear a report. The expected names are kept as a set, by name. -/
def report (s : ItemStream) (found : Option Token) (expected : List Symbol) :
    Except StreamFault Unit × ItemStream :=
  match s.policy with
  | .record => (.ok (), { s with reports := s.reports ++ [⟨found, nameSet expected⟩] })
  | .refuse => (.error (.refused ⟨found, nameSet expected⟩), s)

/-- The items not yet looked at, and a token looked at but not yet taken. -/
def remaining (s : ItemStream) : Nat :=
  s.items.length + match s.ahead with
    | some (some _) => 1
    | _ => 0

end ItemStream

instance : TokenSource ItemStream StreamFault where
  peek := ItemStream.peek
  next := ItemStream.next
  report := ItemStream.report
  remaining := ItemStream.remaining

end Predictive
