import CallSites.Fault
import CallSites.Location
import CallSites.Match
import CallSites.Matcher
import CallSites.Number.Decimal
import CallSites.Number.Double
import CallSites.Number.Extended
import CallSites.Options
import CallSites.Parameter
import CallSites.Proofs.Outcome
import CallSites.Proofs.Tree.Depth
import CallSites.Proofs.Tree.Equality
import CallSites.Report.Columns
import CallSites.Report.Config
import CallSites.Report.Line
import CallSites.Report.Markup
import CallSites.Report.Overview
import CallSites.Report.Table
import CallSites.Report.Wrap
import CallSites.Scan
import CallSites.Signature
import CallSites.Source.Blame
import CallSites.Source.Blame.Phrase
import CallSites.Source.Blame.Reading
import CallSites.Source.Blame.Rules.Expression
import CallSites.Source.Blame.Rules.Mistake
import CallSites.Source.Blame.Rules.Parameter
import CallSites.Source.Blame.Rules.Pattern
import CallSites.Source.Blame.Rules.Statement
import CallSites.Source.Blame.Shape
import CallSites.Source.Expr
import CallSites.Source.Formatted
import CallSites.Source.Grammar.Expression
import CallSites.Source.Grammar.Pattern
import CallSites.Source.Grammar.Statement
import CallSites.Source.Lexer
import CallSites.Source.Literal
import CallSites.Source.Parse
import CallSites.Source.Parser
import CallSites.Source.Position
import CallSites.Source.Stmt
import CallSites.Source.ToTree
import CallSites.Source.Token
import CallSites.Text.Character
import CallSites.Text.Cells
import CallSites.Text.CharacterName
import CallSites.Text.CharacterName.Beyond
import CallSites.Text.CharacterName.Further
import CallSites.Text.CharacterName.Letters
import CallSites.Text.CharacterName.Symbols
import CallSites.Text.Emoji
import CallSites.Text.Emoji.Earlier
import CallSites.Text.Emoji.Last
import CallSites.Text.Emoji.Later
import CallSites.Text.Identifier
import CallSites.Text.Normal
import CallSites.Text.Normal.Composition
import CallSites.Text.Normal.Decomposition
import CallSites.Text.Printable
import CallSites.Text.Quoted
import CallSites.Tree.Depth
import CallSites.Tree.Display
import CallSites.Tree.Equality
import CallSites.Tree.Kind
import CallSites.Tree.Plain
import CallSites.Tree.Printer
import CallSites.Tree.Printer.Expression
import CallSites.Tree.Printer.Level
import CallSites.Tree.Printer.Output
import CallSites.Tree.Printer.Pattern
import CallSites.Tree.Printer.Quote
import CallSites.Tree.Printer.Statement
import CallSites.Tree.TraversalKeys
import CallSites.Tree.Value
import CallSites.Tree.Walk
import CallSites.Proofs.Construction
import CallSites.Proofs.Acceptance
import CallSites.Proofs.Filling
import CallSites.Proofs.Reporting
import CallSites.Proofs.Classification
import CallSites.Proofs.Regularity
import CallSites.Proofs.Source.ParsedTree
import CallSites.Proofs.Validation
import CallSites.Proofs.AcceptedSet
import CallSites.Proofs.Tree.Printer.Agreement
import CallSites.Proofs.Tree.Printer.Expression
import CallSites.Proofs.Tree.SourceText
import CallSites.Proofs.Positions
import CallSites.Proofs.SourceOrder
import CallSites.Proofs.Report.Verbatim
import CallSites.Proofs.Number.Comparison
import CallSites.Proofs.Location
import CallSites.Proofs.Source.ParsedFile
import CallSites.Proofs.Returning
import CallSites.Proofs.Answers
import CallSites.Proofs.Source.CallLine
import CallSites.Proofs.Source.CallText
import CallSites.Proofs.Tree.Dotted
import CallSites.Proofs.Tree.Printer.Signature
import CallSites.Proofs.RoundTrip
import CallSites.Proofs.Tree.Content
import CallSites.Proofs.Tree.AccessPath
import CallSites.Proofs.Tree.Purified
import CallSites.Proofs.Lookup
import CallSites.Proofs.Tree.Fields
import CallSites.Proofs.Tree.Occurrence
import CallSites.Proofs.Tree.Traversal
