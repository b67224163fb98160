import Predictive.Token.Source

/-!
# Requests to an item stream

A stream may be looked at and asked for tokens in any order. Looks can be put into such a
run, and the answers to its own requests are then set apart from what the looks meet.

A look at an item that stands for no token is answered by a fault, and the item is gone.
`Without` compares the items of a stream with those that are left when such items are taken
out of it.
-/

namespace Predictive

open Text (Value)

/-- The second list holds the items of the first one without some that stand for no token,
whose values are listed. -/
inductive Item.Without : List Value → List Item → List Item → Prop where
  | nil : Without [] [] []
  | keep {values : List Value} {items kept : List Item} (item : Item)
      (others : Without values items kept) : Without values (item :: items) (item :: kept)
  | drop {value : Value} {values : List Value} {item : Item} {items kept : List Item}
      (stray : item.toToken? = .error value) (others : Without values items kept) :
      Without (value :: values) (item :: items) kept

namespace ItemStream

/-- What a stream is asked for. -/
inductive Request where
  | peek
  | next
deriving DecidableEq

/-- What a request answers: a token, the end, or a fault. -/
abbrev Answer := Except StreamFault (Option Token)

/-- Meet a request. -/
def request (s : ItemStream) : Request → Answer × ItemStream
  | .peek => s.peek
  | .next => s.next

/-- Meet requests one after another: their answers, and the stream left behind. -/
def requests (s : ItemStream) : List Request → List Answer × ItemStream
  | [] => ([], s)
  | r :: others =>
    match s.request r with
    | (answer, after) =>
      match after.requests others with
      | (answers, last) => (answer :: answers, last)

/-- A step of a run: a request of its own, or a look that is put in. -/
inductive Step where
  | own (r : Request)
  | look
deriving DecidableEq

/-- The request of a step that is not put in. -/
def Step.own? : Step → Option Request
  | own r => some r
  | look => none

/-- The answers to the requests of a run that are its own. -/
def ownAnswers (s : ItemStream) : List Step → List Answer
  | [] => []
  | .own r :: others => (s.request r).1 :: (s.request r).2.ownAnswers others
  | .look :: others => s.peek.2.ownAnswers others

/-- The faults that the looks put into a run are answered by. -/
def lookFaults (s : ItemStream) : List Step → List StreamFault
  | [] => []
  | .own r :: others => (s.request r).2.lookFaults others
  | .look :: others =>
    match s.peek with
    | (.ok _, after) => after.lookFaults others
    | (.error fault, after) => fault :: after.lookFaults others

end ItemStream

end Predictive
