import RowSql.Avro.Container
import RowSql.Codec.Options
import RowSql.Codec.Rows
import RowSql.Files
/-!
# AvroRows — rows of Avro data

Without a schema a record is a container, and every datum in it is a row.  With one it is a single datum.
-/
namespace RowSql
namespace AvroRows

/-- The schema that options name: in place, or in a file. -/
def schemaText (files : Files) (o : Options) : Except CodecFault (Option String) :=
  match o.text? "schema", o.text? "schema_path" with
  | some text, _ => .ok (some text)
  | none, some path =>
    match files.text path with
    | .ok text => .ok (some text)
    | .error why => .error (.badOption .avro "schema_path" s!"cannot read '{path}': {why}")
  | none, none => .ok none

/-- **The schema of single data**, if options name one. -/
def schemaOf (files : Files) (o : Options) : Except CodecFault (Option Avro.Schema) := do
  match ← schemaText files o with
  | none => return none
  | some text =>
    match Avro.Schema.parse? text.toList with
    | some s => return some s
    | none => .error (.badOption .avro "schema" "")

/-- The row of a datum, which has to be a record. -/
def row (declared : List Field) (d : Avro.Datum) : Except CodecFault (List Value) :=
  match d.fields? with
  | none => .error (.malformed .avro .record "datum is not a record")
  | some fields =>
    if declared.any fun f => (fields.lookup f.path).any Avro.Datum.halts then .error .halt
    else .ok (declared.map fun f => ((fields.lookup f.path).map Avro.Datum.toValue).getD .null)

/-- The rows of data, from a row on. -/
def rowsFrom (declared : List Field) : (index : Nat) → List Avro.Datum → Except CodecFault (List (List Value))
  | _, [] => .ok []
  | index, d :: ds => do
    let cells ← (row declared d).mapError (·.located (.row index))
    return cells :: (← rowsFrom declared (index + 1) ds)

/-- The rows of a container. -/
def container (declared : List Field) (bytes : List UInt8) : Except CodecFault Rows := do
  match Avro.Container.read? bytes with
  | none => .error (.malformed .avro .record "container header: ")
  | some contents =>
    let rows ← rowsFrom declared 0 contents.data
    if contents.complete then return ⟨declared.length, rows⟩
    else .error (.malformed .avro (.row rows.length) "")

/-- The row of a single datum. -/
def datum (schema : Avro.Schema) (declared : List Field) (bytes : List UInt8) : Except CodecFault Rows := do
  if !schema.isResolved then .error (.malformed .avro (.byte 0) "")
  else
    match (Avro.Scan.read schema).run bytes with
    | .error left => .error (.malformed .avro (.byte (bytes.length - left)) "")
    | .ok (d, _) => return ⟨declared.length, [← row declared d]⟩

/-- **The rows of a record.** -/
def decode (schema : Option Avro.Schema) (declared : List Field) (bytes : List UInt8) : Except CodecFault Rows :=
  match schema with
  | some s => datum s declared bytes
  | none => container declared bytes

end AvroRows
end RowSql
