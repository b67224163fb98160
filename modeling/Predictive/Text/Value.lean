import Predictive.Text.Quoted

/-!
# Stray values

A list of rules or of tokens may hold something that is neither. Such a value
is never used; it is kept only so that the message that refuses it can name its
kind and show it.
-/

namespace Predictive.Text

/-- A value that is no rule and no token. -/
inductive Value where
  | none
  | truth (value : Bool)
  | number (value : Int)
  | text (value : String)
  | list (items : List Value)
deriving Inhabited

namespace Value

/-- The name of a value's kind. -/
def kind : Value → String
  | none => "NoneType"
  | truth _ => "bool"
  | number _ => "int"
  | text _ => "str"
  | list _ => "list"

mutual

/-- A value as messages show it. -/
def shown : Value → String
  | none => "None"
  | truth true => "True"
  | truth false => "False"
  | number value => toString value
  | text value => quoted value
  | list items => "[" ++ ", ".intercalate (shownAll items) ++ "]"

/-- The items of a list value, one by one. -/
def shownAll : List Value → List String
  | [] => []
  | item :: rest => shown item :: shownAll rest

end

mutual

/-- Values compare by kind first, and lists item by item. -/
def decideEq : (first second : Value) → Decidable (first = second)
  | none, none => isTrue rfl
  | truth a, truth b => decidable_of_iff (a = b) (by simp)
  | number a, number b => decidable_of_iff (a = b) (by simp)
  | text a, text b => decidable_of_iff (a = b) (by simp)
  | list first, list second =>
    match decideAllEq first second with
    | isTrue same => isTrue (congrArg list same)
    | isFalse different => isFalse (fun same => different (list.inj same))
  | none, truth _ | none, number _ | none, text _ | none, list _ => isFalse nofun
  | truth _, none | truth _, number _ | truth _, text _ | truth _, list _ => isFalse nofun
  | number _, none | number _, truth _ | number _, text _ | number _, list _ => isFalse nofun
  | text _, none | text _, truth _ | text _, number _ | text _, list _ => isFalse nofun
  | list _, none | list _, truth _ | list _, number _ | list _, text _ => isFalse nofun

/-- Lists of values compare item by item. -/
def decideAllEq : (first second : List Value) → Decidable (first = second)
  | [], [] => isTrue rfl
  | [], _ :: _ | _ :: _, [] => isFalse nofun
  | a :: others, b :: rest =>
    match decideEq a b with
    | isFalse different => isFalse (fun same => different (List.cons.inj same).1)
    | isTrue head =>
      match decideAllEq others rest with
      | isFalse different => isFalse (fun same => different (List.cons.inj same).2)
      | isTrue tail => isTrue (head ▸ tail ▸ rfl)

end

instance : DecidableEq Value := decideEq

end Value

end Predictive.Text
