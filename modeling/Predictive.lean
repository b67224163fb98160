import Predictive.Main
import Predictive.Grammar.Derivation
import Predictive.RuleFile.Written
import Predictive.RuleFile.Spelling
import Predictive.RuleFile.Cover
import Predictive.Lexer.Cover
import Predictive.Lexer.Calls
import Predictive.Lexer.Longest
import Predictive.Proofs.EarlyRejection
import Predictive.Proofs.LeftRecursion
import Predictive.Proofs.Clashes
import Predictive.Proofs.Expectations
import Predictive.Proofs.LexerTokens
import Predictive.Proofs.LexingFirst
import Predictive.Proofs.DocumentReading
import Predictive.Proofs.WrittenLiterals
import Predictive.Proofs.WrittenWords
import Predictive.Proofs.WrittenRules
import Predictive.Proofs.Redeclaration
import Predictive.Proofs.RoundTrip
import Predictive.Proofs.TextCover
import Predictive.Proofs.TextOffsets
import Predictive.Proofs.Validation
import Predictive.Proofs.Rearrangement
import Predictive.Proofs.RearrangedRuns
import Predictive.Proofs.BlankPattern
import Predictive.Proofs.LiteralSentences
import Predictive.Proofs.Overlaps
import Predictive.Proofs.LexerCalls
import Predictive.Proofs.MaximalMunch
import Predictive.Proofs.DeclaredKinds
import Predictive.Proofs.ExitCodes
import Predictive.Proofs.BrokenRules
import Predictive.Proofs.UndeclaredNames
import Predictive.Proofs.Looks
import Predictive.Proofs.StreamState
import Predictive.Proofs.StreamLooks
import Predictive.Grammar.Passes
import Predictive.Proofs.BoundedPasses
import Predictive.Proofs.LexemeOffsets
import Predictive.Proofs.Excerpts
import Predictive.Proofs.FaultPlaces
import Predictive.Proofs.Carets
import Predictive.Proofs.SymbolRanks
import Predictive.Proofs.Newlines
import Predictive.Proofs.RegexLexemes
import Predictive.Proofs.TableViews
import Predictive.Proofs.MergedRules
