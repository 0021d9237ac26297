import SqlGateway.Main
import SqlGateway.Request.Codec
import SqlGateway.Statement.Codec
import SqlGateway.Store.Basic
import SqlGateway.Proofs.Checks
import SqlGateway.Proofs.Identifier
import SqlGateway.Proofs.Text.Prefix
import SqlGateway.Proofs.Text.Split
import SqlGateway.Proofs.Request.Columns
import SqlGateway.Proofs.Store.Cells
import SqlGateway.Proofs.Request.OfStatement
import SqlGateway.Proofs.Request.Names
import SqlGateway.Proofs.Plan
import SqlGateway.Proofs.Store.Meaning
import SqlGateway.Proofs.Store.Execute
import SqlGateway.Proofs.Store.Run
import SqlGateway.Proofs.Store.Repeat
import SqlGateway.Proofs.Http.Address
import SqlGateway.Proofs.Outcome
import SqlGateway.Proofs.Sql.Escaped
import SqlGateway.Proofs.Text.Doubled
import SqlGateway.Proofs.Sql.Closed
import SqlGateway.Proofs.Sql.Lexes
import SqlGateway.Proofs.Shape.Core
import SqlGateway.Proofs.Shape.Kept
import SqlGateway.Proofs.Shape.Normalize
import SqlGateway.Proofs.Sql.Parser.Basic
import SqlGateway.Proofs.Sql.Parser.DataType
import SqlGateway.Proofs.Sql.Parser.Operand
import SqlGateway.Proofs.Sql.Parser.Clause
import SqlGateway.Proofs.Sql.Parser.Command
import SqlGateway.Proofs.Shape.Keyword
import SqlGateway.Proofs.Shape.Plain
import SqlGateway.Proofs.Shape.Values
import SqlGateway.Proofs.Shape.Fragments
import SqlGateway.Proofs.Shape.Condition
import SqlGateway.Proofs.Shape.Pattern
import SqlGateway.Proofs.Shape.Agreement
import SqlGateway.Proofs.Shape.Change
import SqlGateway.Proofs.Decimal.Text
import SqlGateway.Proofs.Shape.Print
import SqlGateway.Proofs.Shape.Reread
import SqlGateway.Proofs.Shape.Items
import SqlGateway.Proofs.Shape.Boundary
import SqlGateway.Proofs.Shape.RoundTrip
import SqlGateway.Proofs.Store.Readback
import SqlGateway.Proofs.Request.Params
import SqlGateway.Proofs.Request.Clause
import SqlGateway.Proofs.Request.Insertion
import SqlGateway.Proofs.Request.Operands
import SqlGateway.Proofs.Json.Scalar
import SqlGateway.Proofs.Json.Text
import SqlGateway.Proofs.Json.Record
import SqlGateway.Proofs.Statement.Codec
import SqlGateway.Proofs.Request.Codec
import SqlGateway.Proofs.Sql.States
import SqlGateway.Proofs.Decimal.Nearest
import SqlGateway.Proofs.Preorder
import SqlGateway.Proofs.Store.Order
import SqlGateway.Proofs.Store.Pages
import SqlGateway.Proofs.Shape.Integers
import SqlGateway.Proofs.Shape.Segments
import SqlGateway.Proofs.Store.Like
import SqlGateway.Proofs.Sql.Lowering
import SqlGateway.Proofs.Shape.Grammar
import SqlGateway.Proofs.Shape.Single
import SqlGateway.Proofs.Shape.Fallback
import SqlGateway.Proofs.Sql.Negation
import SqlGateway.Proofs.Shape.Fields
import SqlGateway.Proofs.Shape.SelectList
import SqlGateway.Proofs.Shape.Strings
import SqlGateway.Proofs.Shape.Blanks
