import KeyedText.Character.Blank
import KeyedText.Character.CaseSpan
import KeyedText.Character.Decimal
import KeyedText.Character.Fold
import KeyedText.Character.Identifier
import KeyedText.Character.Lower
import KeyedText.Character.Printable
import KeyedText.Character.Range
import KeyedText.Character.Width
import KeyedText.Character.Word
import KeyedText.Command.Arguments
import KeyedText.Command.Order
import KeyedText.Command.Run
import KeyedText.Decimal.Shortest
import KeyedText.Event
import KeyedText.Files.Discovery
import KeyedText.Files.Host
import KeyedText.Files.Path
import KeyedText.Files.Tree
import KeyedText.Files.World
import KeyedText.Glob.Match
import KeyedText.Glob.Pattern
import KeyedText.Json.Fault
import KeyedText.Json.Printer
import KeyedText.Json.Reader
import KeyedText.Json.Scan
import KeyedText.Json.Shape
import KeyedText.Json.Value
import KeyedText.Key.Generator
import KeyedText.Key.Normal
import KeyedText.Key.Place
import KeyedText.Key.Slug
import KeyedText.Keying.Call
import KeyedText.Keying.Conversion
import KeyedText.Keying.Edit
import KeyedText.Keying.Ledger
import KeyedText.Main
import KeyedText.Proofs.Character.Lower
import KeyedText.Proofs.Character.Range
import KeyedText.Proofs.Command.Frame
import KeyedText.Proofs.Command.Setup
import KeyedText.Proofs.Command.Stage
import KeyedText.Proofs.Files.Discovery
import KeyedText.Proofs.Files.Exclusion
import KeyedText.Proofs.Files.Expansion
import KeyedText.Proofs.Files.Include
import KeyedText.Proofs.Files.Observation
import KeyedText.Proofs.Files.Parent
import KeyedText.Proofs.Files.Place
import KeyedText.Proofs.Files.Proper
import KeyedText.Proofs.Files.Selection
import KeyedText.Proofs.Files.Spelling
import KeyedText.Proofs.Files.Step
import KeyedText.Proofs.Files.Tree
import KeyedText.Proofs.Files.Upwards
import KeyedText.Proofs.Glob.Reading
import KeyedText.Proofs.Json.Agreement
import KeyedText.Proofs.Json.Ignoring
import KeyedText.Proofs.Json.Reading
import KeyedText.Proofs.Json.Scanning
import KeyedText.Proofs.Json.Spelling
import KeyedText.Proofs.Key.Bound
import KeyedText.Proofs.Key.Decoding
import KeyedText.Proofs.Key.Derivation
import KeyedText.Proofs.Key.Expression
import KeyedText.Proofs.Key.Fragment
import KeyedText.Proofs.Key.Group
import KeyedText.Proofs.Key.Images
import KeyedText.Proofs.Key.Mode
import KeyedText.Proofs.Key.Normal
import KeyedText.Proofs.Key.Pattern
import KeyedText.Proofs.Key.Permission
import KeyedText.Proofs.Key.Phrase
import KeyedText.Proofs.Key.Relocation
import KeyedText.Proofs.Key.Repetition
import KeyedText.Proofs.Key.Slug
import KeyedText.Proofs.Key.Words
import KeyedText.Proofs.Keying.Course
import KeyedText.Proofs.Keying.Denotation
import KeyedText.Proofs.Keying.Display
import KeyedText.Proofs.Keying.Extent
import KeyedText.Proofs.Keying.Filler
import KeyedText.Proofs.Keying.Fusion
import KeyedText.Proofs.Keying.Idempotence
import KeyedText.Proofs.Keying.Ledger
import KeyedText.Proofs.Keying.Lines
import KeyedText.Proofs.Keying.Padding
import KeyedText.Proofs.Keying.Passage
import KeyedText.Proofs.Keying.Placeholders
import KeyedText.Proofs.Keying.Quoting
import KeyedText.Proofs.Keying.Recognition
import KeyedText.Proofs.Keying.Relocation
import KeyedText.Proofs.Keying.Rendering
import KeyedText.Proofs.Keying.Retention
import KeyedText.Proofs.Keying.Rewriting
import KeyedText.Proofs.Keying.Splicing
import KeyedText.Proofs.Report.Diff
import KeyedText.Proofs.Report.Ranking
import KeyedText.Proofs.Report.Shortening
import KeyedText.Proofs.Run.Change
import KeyedText.Proofs.Run.Conversion
import KeyedText.Proofs.Run.Finding
import KeyedText.Proofs.Run.Log
import KeyedText.Proofs.Run.Project
import KeyedText.Proofs.Run.Search
import KeyedText.Proofs.Run.Setup
import KeyedText.Proofs.Run.Survey
import KeyedText.Proofs.Run.Unseen
import KeyedText.Proofs.Settings.Restoration
import KeyedText.Proofs.Site.Admission
import KeyedText.Proofs.Site.Filler
import KeyedText.Proofs.Site.Naming
import KeyedText.Proofs.Site.Order
import KeyedText.Proofs.Site.Outline
import KeyedText.Proofs.Site.Path
import KeyedText.Proofs.Site.Prose
import KeyedText.Proofs.Site.Sentence
import KeyedText.Proofs.Site.Span
import KeyedText.Proofs.Site.Visitor.Forms
import KeyedText.Proofs.Source.Continuation
import KeyedText.Proofs.Source.Gap
import KeyedText.Proofs.Source.Member
import KeyedText.Proofs.Source.Reading
import KeyedText.Proofs.Source.Reference
import KeyedText.Proofs.Source.Scanning
import KeyedText.Proofs.Source.Shape
import KeyedText.Proofs.Source.Subtree
import KeyedText.Proofs.Source.Tree
import KeyedText.Proofs.Text.Collapse
import KeyedText.Proofs.Text.Display
import KeyedText.Proofs.Text.Excerpt
import KeyedText.Proofs.Text.Occurrence
import KeyedText.Proofs.Text.Pieces
import KeyedText.Proofs.Text.Run
import KeyedText.Proofs.Text.Segment
import KeyedText.Proofs.Text.Spacing
import KeyedText.Proofs.Text.Word
import KeyedText.Report.Conversion
import KeyedText.Report.Diff
import KeyedText.Report.Ranking
import KeyedText.Report.Style
import KeyedText.Report.Survey
import KeyedText.Run.Conversion
import KeyedText.Run.Failure
import KeyedText.Run.Project
import KeyedText.Run.Setup
import KeyedText.Run.Survey
import KeyedText.Settings.Basic
import KeyedText.Settings.Check
import KeyedText.Settings.Shape
import KeyedText.Site.Basic
import KeyedText.Site.Collect
import KeyedText.Site.Kind
import KeyedText.Site.Situation
import KeyedText.Source.Entity
import KeyedText.Source.Escape
import KeyedText.Source.Fault
import KeyedText.Source.Grammar.Class
import KeyedText.Source.Grammar.Declaration
import KeyedText.Source.Grammar.Element
import KeyedText.Source.Grammar.Expression
import KeyedText.Source.Grammar.Function
import KeyedText.Source.Grammar.Module
import KeyedText.Source.Grammar.Parameter
import KeyedText.Source.Grammar.Pattern
import KeyedText.Source.Grammar.Statement
import KeyedText.Source.Grammar.Type
import KeyedText.Source.Node
import KeyedText.Source.Position
import KeyedText.Source.Program
import KeyedText.Source.Reader
import KeyedText.Source.Scan
import KeyedText.Source.Token
import KeyedText.Text.Pieces
import KeyedText.Text.Quoted
import KeyedText.Text.Runs
import KeyedText.Text.Search
import KeyedText.Text.Segment
import KeyedText.Verdict
