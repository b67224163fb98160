import Predictive.Symbol
import Predictive.Text.Value

/-!
# Tokens and the items that stand for them

A token names a terminal and carries its text and place. A stream may also be
given looser items: a bare name stands for the token of that terminal whose
text is the name, and a pair of kind and text stands for a token without a
place. Every other item is refused.
-/

namespace Predictive

open Text (Value quoted)

/-- A token. Line zero means that the place is not known; otherwise lines and
columns count from one and the offset counts characters from zero. -/
structure Token where
  kind : Symbol
  text : String
  line : Nat := 0
  column : Nat := 0
  offset : Nat := 0
deriving DecidableEq

/-- What a token stream may be given. -/
inductive Item where
  | token (t : Token)
  | name (kind : Symbol)
  | pair (kind : Symbol) (text : String)
  | stray (value : Value)

namespace Item

/-- The token that an item stands for; a stray value stands for none. -/
def toToken? : Item → Except Value Token
  | token t => .ok t
  | name kind => .ok { kind := kind, text := kind }
  | pair kind text => .ok { kind := kind, text := text }
  | stray value => .error value

end Item

end Predictive
