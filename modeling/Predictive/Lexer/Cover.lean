import Predictive.Lexer.Basic

/-!
# How tokens cover a text

A match of an ignored pattern may depend on the text in front of it, so a piece
of ignored text is described at its place: the characters in front, nearest
first, the piece, and the text behind. Tokens cover a text when each of them is
what the lexicon takes at its own place, and when only ignored text lies in
front of, between and behind them.

The candidates at a place are the keywords that stand there and the matches of
the token rules that are not empty.
-/

namespace Predictive.Lexicon

open Text (Position)

/-- A piece of text that matches of ignored patterns make up, none of them empty. -/
inductive IsIgnored (lx : Lexicon) : List Char → List Char → List Char → Prop where
  | nil (before behind : List Char) : IsIgnored lx before [] behind
  | cons {before text piece behind : List Char} {node : Regex.Node} (member : node ∈ lx.ignores)
      (filled : text ≠ [])
      (matched : node.matched? before (text ++ (piece ++ behind)) = some text)
      (rest : IsIgnored lx (text.reverse ++ before) piece behind) :
      IsIgnored lx before (text ++ piece) behind

/-- No ignored pattern has a match here that is not empty. -/
def NothingIgnored (lx : Lexicon) (before rest : List Char) : Prop :=
  ∀ node ∈ lx.ignores, ∀ text, node.matched? before rest = some text → text = []

/-- A keyword that stands at a place, or a match of a token rule there. -/
inductive Candidate (lx : Lexicon) (before rest : List Char) : Symbol → List Char → Prop where
  | keyword {text : List Char} (member : text ∈ lx.keywords)
      (stands : standsAt before rest text = true) :
      Candidate lx before rest (String.ofList text) text
  | rule {name : Symbol} {node : Regex.Node} {text : List Char} (member : (name, node) ∈ lx.tokens)
      (filled : text ≠ []) (matched : node.matched? before rest = some text) :
      Candidate lx before rest name text

/-- The token of a kind and a text at a position. -/
def tokenOf (kind : Symbol) (text : List Char) (p : Position) : Token :=
  { kind := kind, text := String.ofList text, line := p.line, column := p.column
    offset := p.offset }

/-- Tokens cover a text up to its end, or up to a character at which nothing is
ignored and no candidate stands. -/
inductive Covers (lx : Lexicon) :
    List Char → Position → List Char → List Token → Option LexFault → Prop where
  | finish {before piece : List Char} {p : Position} (ignored : lx.IsIgnored before piece []) :
      Covers lx before p piece [] none
  | stray {before piece rest : List Char} {c : Char} {p : Position}
      (ignored : lx.IsIgnored before piece (c :: rest))
      (stops : lx.NothingIgnored (piece.reverse ++ before) (c :: rest))
      (none : ∀ kind text, ¬ lx.Candidate (piece.reverse ++ before) (c :: rest) kind text) :
      Covers lx before p (piece ++ c :: rest) [] (some ⟨c, p.behind piece⟩)
  | token {before piece text rest : List Char} {p : Position} {kind : Symbol}
      {later : List Token} {fault : Option LexFault}
      (ignored : lx.IsIgnored before piece (text ++ rest))
      (stops : lx.NothingIgnored (piece.reverse ++ before) (text ++ rest)) (filled : text ≠ [])
      (taken : lx.Candidate (piece.reverse ++ before) (text ++ rest) kind text)
      (covered : Covers lx (text.reverse ++ (piece.reverse ++ before))
        ((p.behind piece).behind text) rest later fault) :
      Covers lx before p (piece ++ (text ++ rest)) (tokenOf kind text (p.behind piece) :: later)
        fault

end Predictive.Lexicon
