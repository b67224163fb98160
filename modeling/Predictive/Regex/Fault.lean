import Predictive.Text.Quoted

/-!
# Faults of regular expressions

A pattern that is no regular expression is refused at one offset, most often
the one at which the offending part began.
-/

namespace Predictive.Regex

open Text (quoted)

/-- Why a pattern is no regular expression. -/
inductive Cause where
  | escapeAtEnd
  | incompleteEscape (text : String)
  | badEscape (text : String)
  | octalTooLarge (text : String)
  | missingBrace
  | undefinedCharacter (name : String)
  | unterminatedSet
  | badRange (low high : String)
  | nothingToRepeat
  | multipleRepeat
  | leastAboveMost
  | tooManyRounds
  | unexpectedEnd
  | unknownExtension (text : String)
  | unterminatedComment
  | unterminatedGroup
  | unbalancedParenthesis
  | missingName (what : String)
  | unterminatedName (terminator : Char)
  | badGroupName (name : String)
  | unknownGroupName (name : String)
  | redefinedGroup (name : String) (index earlier : Nat)
  | badGroupNumber
  | invalidGroup (index : Nat)
  | openGroup
  | groupOfSameLookBehind
  | variableLookBehind
  | tooManyBranches
  | lateGlobalFlags
  | unknownFlag
  | missing (what : String)
  | badInlineFlags (what : String)
  | incompatibleFlags

namespace Cause

/-- The wording of a cause. -/
def message : Cause → String
  | escapeAtEnd => "bad escape (end of pattern)"
  | incompleteEscape text => "incomplete escape " ++ text
  | badEscape text => "bad escape " ++ text
  | octalTooLarge text => "octal escape value " ++ text ++ " outside of range 0-0o377"
  | missingBrace => "missing \x7b"
  | undefinedCharacter name => "undefined character name " ++ quoted name
  | unterminatedSet => "unterminated character set"
  | badRange low high => "bad character range " ++ low ++ "-" ++ high
  | nothingToRepeat => "nothing to repeat"
  | multipleRepeat => "multiple repeat"
  | leastAboveMost => "min repeat greater than max repeat"
  | tooManyRounds => "the repetition number is too large"
  | unexpectedEnd => "unexpected end of pattern"
  | unknownExtension text => "unknown extension ?" ++ text
  | unterminatedComment => "missing ), unterminated comment"
  | unterminatedGroup => "missing ), unterminated subpattern"
  | unbalancedParenthesis => "unbalanced parenthesis"
  | missingName what => "missing " ++ what
  | unterminatedName terminator =>
    "missing " ++ String.singleton terminator ++ ", unterminated name"
  | badGroupName name => "bad character in group name " ++ quoted name
  | unknownGroupName name => "unknown group name " ++ quoted name
  | redefinedGroup name index earlier =>
    "redefinition of group name " ++ quoted name ++ " as group " ++ toString index ++
      "; was group " ++ toString earlier
  | badGroupNumber => "bad group number"
  | invalidGroup index => "invalid group reference " ++ toString index
  | openGroup => "cannot refer to an open group"
  | groupOfSameLookBehind =>
    "cannot refer to group defined in the same lookbehind subpattern"
  | variableLookBehind => "look-behind requires fixed-width pattern"
  | tooManyBranches => "conditional backref with more than two branches"
  | lateGlobalFlags => "global flags not at the start of the expression"
  | unknownFlag => "unknown flag"
  | missing what => "missing " ++ what
  | badInlineFlags what => "bad inline flags: " ++ what
  | incompatibleFlags => "ASCII and UNICODE flags are incompatible"

end Cause

/-- A refused pattern: the cause, and the offset if there is one. -/
structure Fault where
  cause : Cause
  offset : Option Nat

namespace Fault

/-- The place of an offset in a pattern of several lines. -/
def linePlace (pattern : List Char) (offset : Nat) : String :=
  if '\n' ∈ pattern then
    " (line " ++ toString ((pattern.take offset).count '\n' + 1) ++ ", column " ++
      toString (((pattern.take offset).reverse.takeWhile (· ≠ '\n')).length + 1) ++ ")"
  else ""

/-- The wording of a fault of a given pattern. -/
def message (pattern : List Char) (f : Fault) : String :=
  match f.offset with
  | none => f.cause.message
  | some offset =>
    f.cause.message ++ " at position " ++ toString offset ++ linePlace pattern offset

end Fault

end Predictive.Regex
