import PigLatin.Binary64.Basic
import PigLatin.Binary64.Shortest
import PigLatin.BinaryOperator
import PigLatin.BuildError
import PigLatin.Chararray
import PigLatin.CommandLine.Argument
import PigLatin.CommandLine.Assignment
import PigLatin.CommandLine.Command
import PigLatin.CommandLine.Environment
import PigLatin.CommandLine.Outcome
import PigLatin.CommandLine.Usage
import PigLatin.DataType
import PigLatin.Decimal
import PigLatin.Decimal.Reader
import PigLatin.Dictionary
import PigLatin.Document.Error
import PigLatin.Document.Events
import PigLatin.Document.Expression
import PigLatin.Document.Lines
import PigLatin.Document.Literal
import PigLatin.Document.Member
import PigLatin.Document.Statement
import PigLatin.Expr
import PigLatin.Json.Basic
import PigLatin.Json.Fault
import PigLatin.Json.Number
import PigLatin.Json.Number.Reader
import PigLatin.Json.Printer
import PigLatin.Json.Reader
import PigLatin.Json.Text
import PigLatin.Literal
import PigLatin.Main
import PigLatin.Name
import PigLatin.Name.Form
import PigLatin.OperatorText
import PigLatin.Proofs.Binary64.Grid
import PigLatin.Proofs.Binary64.Shortest
import PigLatin.Proofs.Chararray
import PigLatin.Proofs.CommandLine.Argument
import PigLatin.Proofs.CommandLine.Assignment
import PigLatin.Proofs.CommandLine.Command
import PigLatin.Proofs.CommandLine.Outcome
import PigLatin.Proofs.Decimal
import PigLatin.Proofs.Decimal.Conversion
import PigLatin.Proofs.Decimal.Reader
import PigLatin.Proofs.Decimal.Rounding
import PigLatin.Proofs.Dictionary
import PigLatin.Proofs.Digits
import PigLatin.Proofs.Document.Description
import PigLatin.Proofs.Document.ErrorText
import PigLatin.Proofs.Document.Events
import PigLatin.Proofs.Document.Expression
import PigLatin.Proofs.Document.Grammar
import PigLatin.Proofs.Document.Items
import PigLatin.Proofs.Document.LeadingType
import PigLatin.Proofs.Document.Lines
import PigLatin.Proofs.Document.Member
import PigLatin.Proofs.Document.Number
import PigLatin.Proofs.Document.Parts
import PigLatin.Proofs.Document.Registrations
import PigLatin.Proofs.Document.Retyping
import PigLatin.Proofs.Document.Statement
import PigLatin.Proofs.Document.UnknownMembers
import PigLatin.Proofs.Document.WholeNumber
import PigLatin.Proofs.Except
import PigLatin.Proofs.Expr.Alike
import PigLatin.Proofs.Expr.Basic
import PigLatin.Proofs.Expr.BuilderMade
import PigLatin.Proofs.Expr.Fusion
import PigLatin.Proofs.Expr.LeadingType
import PigLatin.Proofs.Expr.Nesting
import PigLatin.Proofs.Expr.NormalForm
import PigLatin.Proofs.Expr.Quotation
import PigLatin.Proofs.Expr.ReadBack
import PigLatin.Proofs.Expr.Reader
import PigLatin.Proofs.Expr.Sound
import PigLatin.Proofs.Expr.Untyped
import PigLatin.Proofs.Json.Basic
import PigLatin.Proofs.Json.Edit
import PigLatin.Proofs.Json.Numeral
import PigLatin.Proofs.Json.Reader
import PigLatin.Proofs.Keyword
import PigLatin.Proofs.Lexical
import PigLatin.Proofs.Literal
import PigLatin.Proofs.Literal.Opposite
import PigLatin.Proofs.Literal.Reader
import PigLatin.Proofs.Literal.Value
import PigLatin.Proofs.Name
import PigLatin.Proofs.Name.Pieces
import PigLatin.Proofs.Parse
import PigLatin.Proofs.Pieces
import PigLatin.Proofs.Scan
import PigLatin.Proofs.Scientific
import PigLatin.Proofs.Statement
import PigLatin.Proofs.Statement.Decoding
import PigLatin.Proofs.Storage
import PigLatin.Proofs.Storage.Overview
import PigLatin.Proofs.Storage.Run
import PigLatin.Proofs.Word
import PigLatin.Scientific
import PigLatin.Statement
import PigLatin.Storage
import PigLatin.Text.Blank
import PigLatin.Text.Bytes
import PigLatin.Text.Digits
import PigLatin.Text.Keyword
import PigLatin.Text.Quoted
import PigLatin.Unicode.Alphabetic
import PigLatin.Unicode.Number
import PigLatin.Unicode.Printable
import PigLatin.Unicode.RangeTable
import PigLatin.Unicode.WhiteSpace
