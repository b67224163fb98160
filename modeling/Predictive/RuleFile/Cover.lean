import Predictive.RuleFile.Lexeme

/-!
# How lexemes cover a text

A gap is a piece of text that white space and comments make up, one match
behind the other. Lexemes cover a text up to a rest of it when each of them is the
match of its alternative at its own place, and when only gaps lie in front of,
between and behind them. The rest is empty for a rule file that is cut as a whole;
otherwise it begins with a character at which no alternative matches.
-/

namespace Predictive.RuleFile

open Text (Position)

/-- A piece of text in front of another one that separating lexemes make up. -/
inductive IsGap : List Char → List Char → Prop where
  | nil (behind : List Char) : IsGap [] behind
  | cons {lexeme piece behind : List Char} {kind : Kind} (filled : lexeme ≠ [])
      (first : Kind.first? (lexeme ++ (piece ++ behind)) = some (kind, lexeme.length))
      (separates : kind.isGap = true) (rest : IsGap piece behind) : IsGap (lexeme ++ piece) behind

/-- Lexemes cover the front of a text that begins at a position, up to a rest. -/
inductive Covers : Position → List Char → List Lexeme → List Char → Prop where
  | stop {p : Position} {gap rest : List Char} (blank : IsGap gap rest) :
      Covers p (gap ++ rest) [] rest
  | cons {p : Position} {gap text behind rest : List Char} {kind : Kind} {later : List Lexeme}
      (blank : IsGap gap (text ++ behind)) (filled : text ≠ [])
      (first : Kind.first? (text ++ behind) = some (kind, text.length))
      (stands : kind.isGap = false)
      (covered : Covers ((p.behind gap).behind text) behind later rest) :
      Covers p (gap ++ (text ++ behind))
        (⟨kind, String.ofList text, p.behind gap, (p.behind gap).offset + text.length⟩ :: later)
        rest

end Predictive.RuleFile
