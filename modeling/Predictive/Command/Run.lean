import Predictive.Command.Request
import Predictive.Command.Analysis
import Predictive.Parser.Text

/-!
# Commands

`check` reads a rule file, analyses its grammar and says whether it is LL(1).
`parse` also builds a lexer and parses an input. `lex` only lists the tokens of
an input. The exit code is zero for success, one for a grammar with conflicts,
and two for any fault of the rule file or the input. A command is a function of
the files it can open; its report holds the lines of both outputs.
-/

namespace Predictive.Command

open Text (quoted)

/-- The exit code and the lines of the standard and the error output. -/
structure Report where
  exit : Nat
  out : List String := []
  err : List String := []
deriving DecidableEq

/-- The text of output lines. -/
def linesText (lines : List String) : String := String.join (lines.map (· ++ "\n"))

/-- Check a rule file. -/
def check (files : Files) (name : String) (debug : Bool) : Report :=
  match load files name with
  | (stages, .error failure) =>
    { exit := 2, err := onlyIf debug stages ++ failure.lines }
  | (stages, .ok a) =>
    let shown := onlyIf debug (stages ++ detailLines a)
    let counts := "start=" ++ a.grammar.start ++ " prods=" ++
      toString a.grammar.allProductions.length
    if a.table.conflicts = [] then
      { exit := 0, err := shown
        out := ["[CHECK OK] " ++ counts ++ " cells=" ++ toString a.table.cells.length ++
          " conflicts=0"] }
    else
      { exit := 1, err := shown ++ ["[NOT LL(1)]", Conflict.listing a.table.conflicts]
        out := ["[CHECK FAIL] " ++ counts ++ " conflicts=" ++
          toString a.table.conflicts.length] }

/-- The text of an input. -/
def inputText (files : Files) : Input → Except Failure (List Char)
  | .text value => .ok value.toList
  | .file name =>
    match readInputFile files name with
    | .ok text => .ok text
    | .error fault => .error (.file fault)

/-- The parser, the lexer and the input of a command. A grammar with conflicts is
refused before the patterns are read, and a pattern before the input is. -/
def prepare (files : Files) (input : Input) (a : Analysis) :
    Except Failure (Parser × Lexicon × List Char) :=
  match Parser.ofGrammar? a.grammar with
  | .error conflicts => .error (.notLL1 conflicts)
  | .ok parser =>
    match Lexicon.ofDocument a.document with
    | .error fault => .error (.pattern fault)
    | .ok lexicon => (inputText files input).map (parser, lexicon, ·)

/-- The report of a run, given the lines in front of it. -/
def runReport (outcome : Outcome Lexer LexFault) (trace : Bool) (shown : List String) : Report :=
  let traced := onlyIf trace
    ("[DERIVATION]" :: outcome.applied.map (fun production => "  " ++ production.shown))
  match outcome.ending with
  | .accepted =>
    { exit := 0, err := shown
      out := traced ++ ["[ACCEPT] tokens=" ++ toString outcome.consumed ++ " steps=" ++
        toString outcome.applied.length] }
  | .rejected error => { exit := 2, out := traced, err := shown ++ ["[PARSE ERROR]", error.message] }
  | .faulted fault => { exit := 2, out := traced, err := shown ++ ["[LEX ERROR] " ++ fault.message] }
  | .unfinished => { exit := 2, out := traced, err := shown }

/-- Parse an input by a rule file. -/
def parse (files : Files) (name : String) (input : Input) (trace debug : Bool) : Report :=
  match load files name with
  | (stages, .error failure) =>
    { exit := 2, err := onlyIf debug stages ++ failure.lines }
  | (stages, .ok a) =>
    match prepare files input a with
    | .error failure => { exit := 2, err := onlyIf debug stages ++ failure.lines }
    | .ok (parser, lexicon, text) =>
      runReport (parser.runText { lexicon := lexicon } text) trace (onlyIf debug stages)

/-- A text with spaces behind up to a width. -/
def alignLeft (width : Nat) (s : String) : String :=
  s ++ String.ofList (List.replicate (width - s.length) ' ')

/-- A number with zeros in front up to a width. -/
def zeroPadded (width n : Nat) : String :=
  String.ofList (List.replicate (width - (toString n).length) '0') ++ toString n

/-- The line of a token in a listing. -/
def tokenLine (index : Nat) (t : Token) : String :=
  zeroPadded 3 index ++ ": " ++ alignLeft 12 t.kind ++ " " ++ quoted t.text ++ "  @" ++
    toString t.line ++ ":" ++ toString t.column

/-- The lines of tokens, numbered on from an index. -/
def tokenLines : Nat → List Token → List String
  | _, [] => []
  | index, t :: rest => tokenLine index t :: tokenLines (index + 1) rest

/-- The lexicon of a rule file, and the input. -/
def prepareLex (files : Files) (name : String) (input : Input) :
    Except Failure (Lexicon × List Char) :=
  match readDocument files name with
  | .error failure => .error failure
  | .ok document =>
    match Lexicon.ofDocument document with
    | .error fault => .error (.pattern fault)
    | .ok lexicon => (inputText files input).map (lexicon, ·)

/-- List the tokens of an input. -/
def lex (files : Files) (name : String) (input : Input) : Report :=
  match prepareLex files name input with
  | .error failure => { exit := 2, err := [failure.lexLine] }
  | .ok (lexicon, text) =>
    match (Lexer.reset { lexicon := lexicon } text 1 1).tokens with
    | (tokens, none, _) => { exit := 0, out := tokenLines 0 tokens }
    | (tokens, some fault, _) =>
      { exit := 2, out := tokenLines 0 tokens, err := ["[LEX ERROR] " ++ fault.message] }

/-- Do what is asked for. -/
def run (files : Files) : Request → Report
  | .check file debug => check files file debug
  | .parse file input trace debug => parse files file input trace debug
  | .lex file input => lex files file input

end Predictive.Command
