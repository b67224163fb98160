import Predictive.Command.Files
import Predictive.RuleFile.Fault
import Predictive.Grammar.Table
import Predictive.Lexer.Lexicon

/-!
# Failures of commands

A command fails when a file has no text, when the text is no rule file, when its
grammar has problems or conflicts, or when a pattern is no regular expression.
Commands word one failure in two ways: most name its kind on one line, while a
failure of form keeps its excerpt on lines of its own.
-/

namespace Predictive.Command

/-- Why a command cannot do its work. -/
inductive Failure where
  | file (fault : FileFault)
  | ruleFile (source : List Char) (fault : RuleFile.Fault)
  | grammar (problems : List Problem)
  | notLL1 (conflicts : List Conflict)
  | pattern (fault : PatternFault)

namespace Failure

/-- A failure of the rule file's form, as opposed to one of any other kind. -/
def isForm : Failure → Bool
  | ruleFile _ _ => true
  | _ => false

/-- The kind of a failure in a report. -/
def kind : Failure → String
  | file fault => fault.kind
  | ruleFile _ _ => "SyntaxError"
  | grammar _ => "GrammarError"
  | notLL1 _ => "TableConflictError"
  | pattern ⟨_, ⟨.tooManyRounds, _⟩⟩ => "OverflowError"
  | pattern ⟨_, ⟨.incompatibleFlags, _⟩⟩ => "ValueError"
  | pattern _ => "error"

/-- The wording of a failure. -/
def message : Failure → String
  | file fault => fault.message
  | ruleFile source fault => fault.message source
  | grammar problems => Problem.report (problems.map Problem.message)
  | notLL1 conflicts => Conflict.report conflicts
  | pattern fault => fault.message

/-- The line for a failure that is not one of form. -/
def line (f : Failure) : String := "[ERROR] " ++ f.kind ++ " " ++ f.message

/-- The lines for a failure of `check` and `parse`. -/
def lines (f : Failure) : List String :=
  if f.isForm then ["[SYNTAX ERROR]", f.message] else [f.line]

/-- The line for a failure of `lex`. -/
def lexLine (f : Failure) : String := if f.isForm then "[LEX ERROR] " ++ f.message else f.line

end Failure

end Predictive.Command
