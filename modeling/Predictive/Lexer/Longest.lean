import Predictive.Lexer.Basic

/-!
# The longest candidate at an offset

Which token begins at an offset of a text can be said of the rule file and the text
alone. The candidates are the literals that stand there and the matches of token rules.
The token is a longest one of them. Of several longest ones it is the literal, and
without a literal the one whose rule is declared first.

Nothing here speaks of a lexer: there is no order of keywords, no best candidate so far
and no place that moves along the text.
-/

namespace Predictive.RuleFile

open Text (isIdentifierContinue)

/-- A pattern has a match in a text at an offset that is not empty. The text in front of
the offset may have a say in it. -/
def PatternAt (pattern flags : String) (text : List Char) (i : Nat) (piece : List Char) : Prop :=
  piece ≠ [] ∧ ∃ node, Lexicon.expression pattern flags = .ok node ∧
    node.matched? (text.take i).reverse (text.drop i) = some piece

/-- A literal stands in a text at an offset. If it holds an identifier character, there is
none directly in front of it and none directly behind it. -/
structure LiteralAt (text : List Char) (i : Nat) (literal : List Char) : Prop where
  occurs : literal <+: text.drop i
  free_before : (∃ c ∈ literal, isIdentifierContinue c = true) →
    ∀ j c, j + 1 = i → text[j]? = some c → isIdentifierContinue c = false
  free_behind : (∃ c ∈ literal, isIdentifierContinue c = true) →
    ∀ c, text[i + literal.length]? = some c → isIdentifierContinue c = false

namespace Document

/-- No pattern of ignored text has a match at an offset that is not empty. -/
def NothingIgnoredAt (d : Document) (text : List Char) (i : Nat) : Prop :=
  ∀ rule ∈ d.ignores, ∀ piece, ¬ PatternAt rule.pattern rule.flags text i piece

/-- What may be taken at an offset: a literal of a rule body, or the match of a token
rule. -/
inductive CandidateAt (d : Document) (text : List Char) (i : Nat) : Symbol → List Char → Prop where
  | literal {k : String} (member : k ∈ d.keywords) (stands : LiteralAt text i k.toList) :
      CandidateAt d text i k k.toList
  | rule {rule : TokenRule} {piece : List Char} (member : rule ∈ d.tokens)
      (matched : PatternAt rule.pattern rule.flags text i piece) :
      CandidateAt d text i rule.name piece

/-- The token at an offset, by its kind and its text. -/
inductive LongestAt (d : Document) (text : List Char) (i : Nat) : Symbol → List Char → Prop where
  | literal {k : String} (member : k ∈ d.keywords) (stands : LiteralAt text i k.toList)
      (longest : ∀ kind piece, d.CandidateAt text i kind piece → piece.length ≤ k.length) :
      LongestAt d text i k k.toList
  | rule {front back : List TokenRule} {rule : TokenRule} {piece : List Char}
      (split : d.tokens = front ++ rule :: back)
      (matched : PatternAt rule.pattern rule.flags text i piece)
      (longest : ∀ kind other, d.CandidateAt text i kind other → other.length ≤ piece.length)
      (literals : ∀ k ∈ d.keywords, LiteralAt text i k.toList → k.length < piece.length)
      (earlier : ∀ other ∈ front, ∀ found, PatternAt other.pattern other.flags text i found →
        found.length < piece.length) :
      LongestAt d text i rule.name piece

end Document

end Predictive.RuleFile
