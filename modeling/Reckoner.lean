import Reckoner.Batch.Request
import Reckoner.Batch.Run
import Reckoner.Calculation
import Reckoner.Command.Arguments
import Reckoner.Command.Run
import Reckoner.Command.Settings
import Reckoner.Command.Switch
import Reckoner.Cursor
import Reckoner.Decimal.Basic
import Reckoner.Decimal.Layout
import Reckoner.Decimal.Shortest
import Reckoner.Double.Arithmetic
import Reckoner.Double.Basic
import Reckoner.Double.Division
import Reckoner.Double.Fingerprint
import Reckoner.Expr.Basic
import Reckoner.Expr.Equality
import Reckoner.Expr.Parser
import Reckoner.Expr.Simplify
import Reckoner.Folder.Archive
import Reckoner.Folder.Basic
import Reckoner.Folder.Path
import Reckoner.Folder.Reading
import Reckoner.Form.Expression
import Reckoner.Form.Field
import Reckoner.Form.Integer
import Reckoner.Form.Problem
import Reckoner.Form.Value
import Reckoner.Log
import Reckoner.Main
import Reckoner.Numeral
import Reckoner.Operator
import Reckoner.ParseError
import Reckoner.Proofs.Agreement
import Reckoner.Proofs.AllOrNothing
import Reckoner.Proofs.ArchiveChoice
import Reckoner.Proofs.ArchiveReading
import Reckoner.Proofs.Batch
import Reckoner.Proofs.BitPattern
import Reckoner.Proofs.BlankInsertion
import Reckoner.Proofs.Chain
import Reckoner.Proofs.ContentLines
import Reckoner.Proofs.CursorHistory
import Reckoner.Proofs.DecimalOrder
import Reckoner.Proofs.DecimalText
import Reckoner.Proofs.Decoding
import Reckoner.Proofs.Equality
import Reckoner.Proofs.FedBack
import Reckoner.Proofs.Feed
import Reckoner.Proofs.FieldCheck
import Reckoner.Proofs.FirstFault
import Reckoner.Proofs.FixedPoint
import Reckoner.Proofs.Grammar
import Reckoner.Proofs.Grouping
import Reckoner.Proofs.Lexeme
import Reckoner.Proofs.LineText
import Reckoner.Proofs.LiteralValue
import Reckoner.Proofs.Mode
import Reckoner.Proofs.NearestDouble
import Reckoner.Proofs.Number
import Reckoner.Proofs.NumeralText
import Reckoner.Proofs.OpenTerm
import Reckoner.Proofs.Outcome
import Reckoner.Proofs.Overflow
import Reckoner.Proofs.Precedence
import Reckoner.Proofs.Quotient
import Reckoner.Proofs.Reduction
import Reckoner.Proofs.Rejection
import Reckoner.Proofs.Rendering
import Reckoner.Proofs.ResultsPath
import Reckoner.Proofs.RoundTrip
import Reckoner.Proofs.Rounding
import Reckoner.Proofs.RoundingError
import Reckoner.Proofs.RoundingOrder
import Reckoner.Proofs.ScanInvariant
import Reckoner.Proofs.Sign
import Reckoner.Proofs.Spelling
import Reckoner.Proofs.Stack
import Reckoner.Proofs.Unpacking
import Reckoner.Proofs.Viability
import Reckoner.Proofs.Walk
import Reckoner.Proofs.WholeDouble
import Reckoner.Proofs.WholeReading
import Reckoner.Proofs.WholeText
import Reckoner.Proofs.WholeValue
import Reckoner.Proofs.Wording
import Reckoner.Proofs.Writing
import Reckoner.Sheet.Atom
import Reckoner.Sheet.Basic
import Reckoner.Sheet.Draft
import Reckoner.Sheet.Field
import Reckoner.Sheet.Simplify
import Reckoner.Text.Blank
import Reckoner.Text.DecimalDigit
import Reckoner.Text.Lines
import Reckoner.Text.Printable
import Reckoner.Text.Quoted
import Reckoner.Text.Ranges
import Reckoner.Text.Utf8
