import RowSql.Arithmetic
import RowSql.Avro.Container
import RowSql.Avro.Datum
import RowSql.Avro.Scan
import RowSql.Avro.Schema
import RowSql.Bytes.Inflate
import RowSql.Bytes.Streams
import RowSql.Calendar.Date
import RowSql.Calendar.Layout
import RowSql.Calendar.Letters
import RowSql.Calendar.Reader
import RowSql.Calendar.Writer
import RowSql.Codec
import RowSql.Codec.AvroRows
import RowSql.Codec.Csv
import RowSql.Codec.Document
import RowSql.Codec.Fault
import RowSql.Codec.KeyValue
import RowSql.Codec.Options
import RowSql.Codec.Rows
import RowSql.Command
import RowSql.Config
import RowSql.Config.Node
import RowSql.Context
import RowSql.Expr
import RowSql.Expr.Eval
import RowSql.Fault
import RowSql.Field
import RowSql.Files
import RowSql.Function
import RowSql.Function.Arrays
import RowSql.Function.Builtin
import RowSql.Function.Conditions
import RowSql.Function.Matches
import RowSql.Function.Numbers
import RowSql.Function.Registry
import RowSql.Function.Texts
import RowSql.Function.Times
import RowSql.Json
import RowSql.Json.Cursor
import RowSql.Json.Path
import RowSql.Json.Reader
import RowSql.Json.Values
import RowSql.Main
import RowSql.Number.Binary
import RowSql.Number.CubeRoot
import RowSql.Number.Decimal
import RowSql.Number.DecimalText
import RowSql.Number.FloatText
import RowSql.Number.Shortest
import RowSql.Number.Whole
import RowSql.Operator
import RowSql.Page
import RowSql.Pattern.CharSet
import RowSql.Pattern.Like
import RowSql.Pattern.Program
import RowSql.Pattern.Reader
import RowSql.Pattern.Replace
import RowSql.Pattern.Search
import RowSql.Pattern.Tree
import RowSql.Plan
import RowSql.Position
import RowSql.Proofs.Avro.Datum
import RowSql.Proofs.Bytes.Streams
import RowSql.Proofs.Calendar.Days
import RowSql.Proofs.Calendar.Letters
import RowSql.Proofs.Calendar.Texts
import RowSql.Proofs.Codec.Borders
import RowSql.Proofs.Codec.Bounds
import RowSql.Proofs.Codec.Csv
import RowSql.Proofs.Codec.Document
import RowSql.Proofs.Codec.Escapes
import RowSql.Proofs.Codec.KeyValue
import RowSql.Proofs.Codec.LineEnds
import RowSql.Proofs.Codec.Rows
import RowSql.Proofs.Codec.Scan
import RowSql.Proofs.Codec.Stops
import RowSql.Proofs.Expr.Alike
import RowSql.Proofs.Expr.Branches
import RowSql.Proofs.Expr.Connectives
import RowSql.Proofs.Expr.Faults
import RowSql.Proofs.Expr.Like
import RowSql.Proofs.Expr.Membership
import RowSql.Proofs.Expr.Nulls
import RowSql.Proofs.Expr.Operands
import RowSql.Proofs.Expr.Reads
import RowSql.Proofs.Function.ArrayLookup
import RowSql.Proofs.Function.ArraySets
import RowSql.Proofs.Function.ArraySlices
import RowSql.Proofs.Function.Extremes
import RowSql.Proofs.Function.Occurrences
import RowSql.Proofs.Function.Pieces
import RowSql.Proofs.Function.Registry
import RowSql.Proofs.Function.Rounding
import RowSql.Proofs.Function.Substrings
import RowSql.Proofs.Function.Times
import RowSql.Proofs.Json.Cuts
import RowSql.Proofs.Json.Numbers
import RowSql.Proofs.Json.Objects
import RowSql.Proofs.Json.Paths
import RowSql.Proofs.Json.Reader
import RowSql.Proofs.Json.Tokens
import RowSql.Proofs.Json.Values
import RowSql.Proofs.Keys
import RowSql.Proofs.Number.Decimal
import RowSql.Proofs.Number.DecimalArith
import RowSql.Proofs.Number.DecimalLayouts
import RowSql.Proofs.Number.DecimalText
import RowSql.Proofs.Number.Digits
import RowSql.Proofs.Number.Division
import RowSql.Proofs.Number.Finite
import RowSql.Proofs.Number.FloatText
import RowSql.Proofs.Number.Magnitude
import RowSql.Proofs.Number.Notation
import RowSql.Proofs.Number.Rounding
import RowSql.Proofs.Outcome
import RowSql.Proofs.Page
import RowSql.Proofs.Pattern.Like
import RowSql.Proofs.Pattern.Program
import RowSql.Proofs.Position
import RowSql.Proofs.Run.Lines
import RowSql.Proofs.Sql.Binding
import RowSql.Proofs.Sql.Clauses
import RowSql.Proofs.Sql.Columns
import RowSql.Proofs.Sql.Modifiers
import RowSql.Proofs.Sql.Operands
import RowSql.Proofs.Sql.Parentheses
import RowSql.Proofs.Text.Joins
import RowSql.Proofs.Text.Offsets
import RowSql.Proofs.Text.Parts
import RowSql.Proofs.Text.Utf8
import RowSql.Proofs.Transform.Alone
import RowSql.Proofs.Transform.Clock
import RowSql.Proofs.Transform.Layers
import RowSql.Proofs.Transform.Outputs
import RowSql.Proofs.Transform.Policies
import RowSql.Proofs.Transform.Rows
import RowSql.Proofs.Value.Arithmetic
import RowSql.Proofs.Value.Bounds
import RowSql.Proofs.Value.Coercion
import RowSql.Proofs.Value.Narrowing
import RowSql.Proofs.Value.Order
import RowSql.Proofs.Value.Sameness
import RowSql.Proofs.Value.Words
import RowSql.Run
import RowSql.Sql.Binding
import RowSql.Sql.Grammar.Basic
import RowSql.Sql.Grammar.Command
import RowSql.Sql.Grammar.DataType
import RowSql.Sql.Grammar.Query
import RowSql.Sql.Grammar.Relation
import RowSql.Sql.Grammar.Statement
import RowSql.Sql.Grammar.Term
import RowSql.Sql.Syntax
import RowSql.Sql.Text
import RowSql.Sql.Token
import RowSql.Text.Base64
import RowSql.Text.Digits
import RowSql.Text.Offsets
import RowSql.Text.Parts
import RowSql.Text.Quoted
import RowSql.Text.Space
import RowSql.Text.Utf8
import RowSql.Toml
import RowSql.Toml.Quoted
import RowSql.Toml.Scalar
import RowSql.Toml.Table
import RowSql.Transform
import RowSql.Unicode.Case
import RowSql.Unicode.Category
import RowSql.Unicode.Script
import RowSql.Unicode.Table
import RowSql.Value
