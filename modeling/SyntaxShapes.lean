import SyntaxShapes.Arena.Basic
import SyntaxShapes.Arena.Builder
import SyntaxShapes.Arena.Json
import SyntaxShapes.Arena.View
import SyntaxShapes.Command.Arguments
import SyntaxShapes.Command.Run
import SyntaxShapes.Command.Session
import SyntaxShapes.Decimal.Binary64
import SyntaxShapes.Decimal.Numeral
import SyntaxShapes.Decimal.Shortest
import SyntaxShapes.Json.Lexeme
import SyntaxShapes.Json.Number
import SyntaxShapes.Json.Parser
import SyntaxShapes.Json.Printer
import SyntaxShapes.Json.ReadError
import SyntaxShapes.Json.Reader
import SyntaxShapes.Json.Record
import SyntaxShapes.Json.Text
import SyntaxShapes.Json.Value
import SyntaxShapes.Keyword
import SyntaxShapes.Load.Basic
import SyntaxShapes.Load.Guard
import SyntaxShapes.Log.Directive
import SyntaxShapes.Log.Filter
import SyntaxShapes.Log.Format
import SyntaxShapes.Log.Level
import SyntaxShapes.Log.Line
import SyntaxShapes.Main
import SyntaxShapes.Named
import SyntaxShapes.Node.Access
import SyntaxShapes.Node.Basic
import SyntaxShapes.Node.Field
import SyntaxShapes.Node.Index
import SyntaxShapes.Node.Json
import SyntaxShapes.Node.Kind
import SyntaxShapes.Node.Payload
import SyntaxShapes.Power
import SyntaxShapes.Proofs.Arena.Adoption
import SyntaxShapes.Proofs.Arena.Forest
import SyntaxShapes.Proofs.Arena.Nesting
import SyntaxShapes.Proofs.Arena.Renumbering
import SyntaxShapes.Proofs.Arena.Span
import SyntaxShapes.Proofs.Command.Arrangement
import SyntaxShapes.Proofs.Command.Groups
import SyntaxShapes.Proofs.Command.Selection
import SyntaxShapes.Proofs.Decimal.Overflow
import SyntaxShapes.Proofs.Decimal.Rounding
import SyntaxShapes.Proofs.Json.Grammar
import SyntaxShapes.Proofs.Json.KeyOrder
import SyntaxShapes.Proofs.Json.Range
import SyntaxShapes.Proofs.Json.Record
import SyntaxShapes.Proofs.Json.RoundTrip
import SyntaxShapes.Proofs.Json.Text
import SyntaxShapes.Proofs.Load.Alignment
import SyntaxShapes.Proofs.Load.Containment
import SyntaxShapes.Proofs.Load.Loop
import SyntaxShapes.Proofs.Load.Narration
import SyntaxShapes.Proofs.Load.Reload
import SyntaxShapes.Proofs.Load.Strictness
import SyntaxShapes.Proofs.Node.Children
import SyntaxShapes.Proofs.Node.Grammar
import SyntaxShapes.Proofs.Node.KeyOrder
import SyntaxShapes.Proofs.Node.RoundTrip
import SyntaxShapes.Proofs.Node.Wording
import SyntaxShapes.Proofs.Report.Agreement
import SyntaxShapes.Proofs.Report.Callbacks
import SyntaxShapes.Proofs.Report.Conservation
import SyntaxShapes.Proofs.Report.Exactness
import SyntaxShapes.Proofs.Report.Lines
import SyntaxShapes.Proofs.Report.Loop
import SyntaxShapes.Proofs.Report.Renumbering
import SyntaxShapes.Proofs.Report.Respelling
import SyntaxShapes.Proofs.Report.Tally
import SyntaxShapes.Proofs.Report.Unambiguous
import SyntaxShapes.Proofs.Shape.Coherence
import SyntaxShapes.Proofs.Shape.Exclusion
import SyntaxShapes.Proofs.Shape.Footprint
import SyntaxShapes.Proofs.Shape.Parts
import SyntaxShapes.Proofs.Shape.Renumbering
import SyntaxShapes.Report.Basic
import SyntaxShapes.Report.Json
import SyntaxShapes.Report.Text
import SyntaxShapes.Shape.Basic
import SyntaxShapes.Shape.Classify
import SyntaxShapes.Shape.View
import SyntaxShapes.Text.Alphanumeric
import SyntaxShapes.Text.Blank
import SyntaxShapes.Text.CharSet
import SyntaxShapes.Text.Pattern.Basic
import SyntaxShapes.Text.Pattern.Bracket
import SyntaxShapes.Text.Pattern.Escape
import SyntaxShapes.Text.Pattern.Machine
import SyntaxShapes.Text.Pattern.Nested
import SyntaxShapes.Text.Pattern.Parser
import SyntaxShapes.Text.Pattern.Settings
import SyntaxShapes.Text.Printable
import SyntaxShapes.Text.Quoted
import SyntaxShapes.Token.Basic
import SyntaxShapes.Token.Operator
