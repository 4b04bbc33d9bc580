import RowSql.Codec.Fault
import RowSql.Field
import RowSql.Text.Utf8
/-!
# Rows — what codecs read and write

A decoded record is a list of rows of cells.  A record to be written is a list of named values, of which the
declared fields of a sink are taken by name.
-/
namespace RowSql

/-- **The rows of a decoded record**, and the number of fields that they are read for. -/
structure Rows where
  width : Nat
  rows : List (List Value)
deriving Inhabited

/-- The rows of a record that is one row. -/
def Rows.single (row : List Value) : Rows := ⟨row.length, [row]⟩

/-- The raw cell of a row. -/
def Rows.cell? (r : Rows) (row column : Nat) : Option Value := r.rows[row]?.bind (·[column]?)

/-- **Named values, in order.** -/
abbrev NamedRow := List (String × Value)

namespace NamedRow

/-- The first value of a name; nothing if there is none. -/
def get (row : NamedRow) (name : String) : Value := (row.lookup name).getD .null

/-- The values of declared fields, by name. -/
def project (row : NamedRow) (fields : List Field) : NamedRow := fields.map fun f => (f.name, row.get f.name)

/-- The values that are written: those of the declared fields, or all if no fields are declared. -/
def written (row : NamedRow) (fields : List Field) : NamedRow := if fields.isEmpty then row else row.project fields

end NamedRow

namespace Codec

/-- The text of a record that has to be one. -/
def textOf (codec : Format) (bytes : List UInt8) : Except CodecFault (List Char) :=
  match Text.decode bytes with
  | .ok cs => .ok cs
  | .error valid => .error (.notUtf8 codec (.byte valid))

/-- A line end or a part of one. -/
def isLineEnd (c : Char) : Bool := c == '\r' || c == '\n'

/-- The line without the line ends after it. -/
def trimLineEnds (cs : List Char) : List Char := (cs.reverse.dropWhile isLineEnd).reverse

end Codec
end RowSql
