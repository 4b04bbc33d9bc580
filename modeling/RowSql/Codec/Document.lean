import RowSql.Codec.Options
import RowSql.Codec.Rows
import RowSql.Json.Path
import RowSql.Json.Reader
import RowSql.Json.Values
/-!
# Document — rows of JSON documents

A record is a document.  It is one row, or the elements of an array inside it are its rows.
-/
namespace RowSql
namespace Document

/-- **Where the cells of rows are found in a document**, and where the rows are if there can be several. -/
structure Layout where
  paths : List Json.Path
  rows : Option Json.Path
deriving Inhabited

namespace Layout

/-- **The layout for declared fields and options.** -/
def ofOptions (declared : List Field) (o : Options) : Except CodecFault Layout := do
  let paths ← declared.mapM fun f => Json.Path.parse f.path
  let rows ← match o.text? "rows_path" with
    | some s => some <$> Json.Path.parse s
    | none => pure none
  return ⟨paths, rows⟩

/-- The row of one element of a document. -/
def row (l : Layout) (whole element : Json) : List Value :=
  l.paths.map fun p => ((p.resolve? (if p.fromRoot then whole else element)).map Value.ofJson).getD .null

/-- The rows of a document.  Where the array of rows is missing there are none. -/
def rowsOf (l : Layout) (whole : Json) : Except CodecFault (List (List Value)) :=
  match l.rows with
  | none => .ok [l.row whole whole]
  | some p =>
    match p.resolve? whole with
    | none => .ok []
    | some .null => .ok []
    | some (.array items) => .ok (items.map (l.row whole))
    | some _ => .error (.malformed .json .record "rows_path does not point to an array")

end Layout

/-- What is said of a document that cannot be read. -/
def unreadable (e : Json.Fault) : CodecFault :=
  .malformed .json (.place e.line e.column) (if e.atEnd then "unexpected end of input" else "syntax error")

/-- **The rows of a record.** -/
def decode (l : Layout) (bytes : List UInt8) : Except CodecFault Rows := do
  let text ← Codec.textOf .json bytes
  match Json.parse text with
  | .error e => .error (unreadable e)
  | .ok doc => return ⟨l.paths.length, ← l.rowsOf doc⟩

/-- **The document of a row**: an object, in ascending order of names. -/
def encode (declared : List Field) (row : NamedRow) : String :=
  (Json.ofPairs ((row.written declared).map fun p => (p.1, p.2.toJson))).toText

end Document
end RowSql
