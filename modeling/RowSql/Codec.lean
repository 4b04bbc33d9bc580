import RowSql.Codec.AvroRows
import RowSql.Codec.Csv
import RowSql.Codec.Document
import RowSql.Codec.KeyValue
/-!
# Codec — decoders and encoders

A decoder turns the bytes of a record into rows for its declared fields.  An encoder turns a row of named values
into a text.
-/
namespace RowSql

/-- **A decoder of records.** -/
structure Decoder where
  fields : List Field
  decode : List UInt8 → Except CodecFault Rows

/-- **An encoder of rows.** -/
structure Encoder where
  fields : List Field
  encode : NamedRow → Except CodecFault String

namespace Decoder

/-- **The decoder of a format** for declared fields and options. -/
def build (files : Files) (format : Format) (fields : List Field) (o : Options) : Except CodecFault Decoder :=
  match format with
  | .csv => do
    let l ← Csv.Layout.ofOptions o
    return ⟨fields, Csv.decode l fields⟩
  | .kv => do
    let l ← KeyValue.Layout.ofOptions o
    return ⟨fields, KeyValue.decode l fields⟩
  | .json => do
    let l ← Document.Layout.ofOptions fields o
    return ⟨fields, Document.decode l⟩
  | .avro => do
    let schema ← AvroRows.schemaOf files o
    return ⟨fields, AvroRows.decode schema fields⟩

end Decoder

namespace Encoder

/-- **The encoder of a format** for declared fields and options; no rows are written as Avro data. -/
def build? (format : Format) (fields : List Field) (o : Options) : Option (Except CodecFault Encoder) :=
  match format with
  | .csv => some do
    let l ← Csv.Layout.ofOptions o
    return ⟨fields, fun row => .ok (Csv.encode l fields row)⟩
  | .kv => some do
    let l ← KeyValue.Layout.ofOptions o
    return ⟨fields, fun row => .ok (KeyValue.encode l fields row)⟩
  | .json => some (.ok ⟨fields, fun row => .ok (Document.encode fields row)⟩)
  | .avro => none

end Encoder
end RowSql
