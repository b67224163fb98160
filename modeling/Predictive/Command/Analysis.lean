import Predictive.Command.Failure
import Predictive.RuleFile.Meaning
import Predictive.RuleFile.Reader
import Predictive.Parser.Error

/-!
# Analysed rule files

A rule file is read, its grammar is checked, and FIRST, FOLLOW and the
predictive table are computed. Each stage that is reached has a line for those
who ask, also when a later one fails; the whole analysis can be listed.
-/

namespace Predictive.Command

open RuleFile (Document)

/-- A rule file with the analysis of its grammar. -/
structure Analysis where
  document : Document
  grammar : Grammar
  first : SymbolSets
  follow : SymbolSets
  table : Table

/-- The document of a rule file. -/
def readDocument (files : Files) (name : String) : Except Failure Document :=
  match readRuleFile files name with
  | .error fault => .error (.file fault)
  | .ok source =>
    match Document.ofText source with
    | .error fault => .error (.ruleFile source fault)
    | .ok document => .ok document

/-- Analyse the grammar of a document. -/
def analyse (document : Document) (g : Grammar) : Analysis :=
  let first := g.first
  let follow := g.followOf first
  ⟨document, g, first, follow, g.tableOf first follow⟩

/-- The line that follows the reading of a document. -/
def documentLine (document : Document) : String :=
  let n := document.counts
  "[DEBUG] AST ready | tokens=" ++ toString n.tokens ++ ", ignores=" ++ toString n.ignores ++
    ", keywords=" ++ toString n.keywords ++ ", rules=" ++ toString n.rules ++
    ", alternatives=" ++ toString n.alternatives

/-- The lines that follow the analysis of a grammar. -/
def analysisLines (a : Analysis) : List String :=
  ["[DEBUG] Grammar ready | terms=" ++ toString a.grammar.terminals.length ++ " nonterms=" ++
      toString a.grammar.nonterminals.length ++ " prods=" ++
      toString a.grammar.allProductions.length ++ " start=" ++ a.grammar.start,
    "[DEBUG] FIRST/FOLLOW computed",
    "[DEBUG] LL(1) table built | cells=" ++ toString a.table.cells.length ++ " conflicts=" ++
      toString a.table.conflicts.length]

/-- The analysis of a rule file, and the lines that report its stages. -/
def load (files : Files) (name : String) : List String × Except Failure Analysis :=
  match readDocument files name with
  | .error failure => ([], .error failure)
  | .ok document =>
    match document.grammar? with
    | .error problems => ([documentLine document], .error (.grammar problems))
    | .ok g =>
      (documentLine document :: analysisLines (analyse document g), .ok (analyse document g))

/-- Lines that are only shown when asked for. -/
def onlyIf (asked : Bool) (lines : List String) : List String := if asked then lines else []

/-- A text with spaces in front up to a width. -/
def alignRight (width : Nat) (s : String) : String :=
  String.ofList (List.replicate (width - s.length) ' ') ++ s

/-- The lines of a family of sets, one nonterminal each. -/
def setLines (g : Grammar) (sets : SymbolSets) : List String :=
  let width := g.nonterminals.foldl (fun longest a => max longest a.length) 0
  (g.symbols.arrange g.nonterminals).map (fun a =>
    "  " ++ alignRight width a ++ " : " ++ setShown (g.symbols.arrange (sets.get a)))

/-- The lines of a table: its cells row by row. -/
def cellLines (order : SymbolOrder) (t : Table) : List String :=
  (t.rows order).flatMap (fun row => row.2.map (fun cell =>
    "  M[" ++ row.1 ++ ", " ++ cell.1 ++ "] = " ++ cell.2.shown))

/-- The lines of an analysis: FIRST, FOLLOW, the table and its conflicts. -/
def detailLines (a : Analysis) : List String :=
  ["\n[FIRST(nonterminals)]"] ++ setLines a.grammar a.first ++
  ["\n[FOLLOW(nonterminals)]"] ++ setLines a.grammar a.follow ++
  ["\n[LL(1) Table]"] ++ cellLines a.grammar.symbols a.table ++
  ["\nConflicts: " ++ toString a.table.conflicts.length] ++
  if a.table.conflicts = [] then []
  else ["\n[Conflicts Detail]", Conflict.listing a.table.conflicts]

end Predictive.Command
