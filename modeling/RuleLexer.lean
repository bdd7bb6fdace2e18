import RuleLexer.CharSet
import RuleLexer.CommandLine
import RuleLexer.Error
import RuleLexer.Literal.Table
import RuleLexer.Literal.Trie
import RuleLexer.Main
import RuleLexer.Numeral.Binary64
import RuleLexer.Numeral.Decimal
import RuleLexer.Numeral.Integer
import RuleLexer.Numeral.Shortest
import RuleLexer.Options
import RuleLexer.Pattern.Basic
import RuleLexer.Pattern.Class
import RuleLexer.Pattern.Footprint
import RuleLexer.Pattern.Lexeme
import RuleLexer.Pattern.Look
import RuleLexer.Pattern.Match
import RuleLexer.Pattern.Mode
import RuleLexer.Pattern.Parser
import RuleLexer.Pattern.Trivia
import RuleLexer.Proofs.CommandLine.Output
import RuleLexer.Proofs.CommandLine.Permuting
import RuleLexer.Proofs.CommandLine.Spelling
import RuleLexer.Proofs.Literal.Claims
import RuleLexer.Proofs.Literal.Faults
import RuleLexer.Proofs.Literal.Longest
import RuleLexer.Proofs.Literal.Lookup
import RuleLexer.Proofs.Rule.Anchoring
import RuleLexer.Proofs.Rule.CharLiteral
import RuleLexer.Proofs.Rule.Integers
import RuleLexer.Proofs.Rule.Numbers
import RuleLexer.Proofs.Scan.EmptyMatches
import RuleLexer.Proofs.Scan.EqualRules
import RuleLexer.Proofs.Scan.IgnoredSet
import RuleLexer.Proofs.Scan.InvalidToken
import RuleLexer.Proofs.Scan.LineEnds
import RuleLexer.Proofs.Scan.Lines
import RuleLexer.Proofs.Scan.Loop
import RuleLexer.Proofs.Scan.Pieces
import RuleLexer.Proofs.Scan.Priority
import RuleLexer.Proofs.Scan.Reordering
import RuleLexer.Proofs.Scan.Segmentation
import RuleLexer.Proofs.Scan.Sentinel
import RuleLexer.Proofs.Scan.Separated
import RuleLexer.Proofs.Scan.Singles
import RuleLexer.Proofs.Scan.StringLiterals
import RuleLexer.Proofs.Scan.Suppression
import RuleLexer.Proofs.Scan.Trace
import RuleLexer.Proofs.Scan.WholeText
import RuleLexer.Proofs.Text.Terminators
import RuleLexer.Report
import RuleLexer.Rule.Basic
import RuleLexer.Rule.Group
import RuleLexer.Rule.Library
import RuleLexer.Scan.Segment
import RuleLexer.Scan.Tokenizer
import RuleLexer.Symbol
import RuleLexer.Text.Lines
import RuleLexer.Text.Position
import RuleLexer.Text.Quoted
import RuleLexer.Text.Utf8
import RuleLexer.Token
import RuleLexer.Unicode.Additions
import RuleLexer.Unicode.Binary
import RuleLexer.Unicode.BinaryTable
import RuleLexer.Unicode.CaseFold
import RuleLexer.Unicode.Category
import RuleLexer.Unicode.CategoryTable
import RuleLexer.Unicode.Property
import RuleLexer.Unicode.Run
import RuleLexer.Unicode.Script
import RuleLexer.Unicode.ScriptTable
import RuleLexer.Unicode.Segmentation
import RuleLexer.Unicode.Version
import RuleLexer.Value
