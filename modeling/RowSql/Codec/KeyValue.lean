import RowSql.Codec.Options
import RowSql.Codec.Rows
import RowSql.Text.Parts
/-!
# KeyValue — lines of keys and values

An entry is a key, a delimiter and a value, and another delimiter stands between entries.
-/
namespace RowSql
namespace KeyValue

/-- **The two delimiters.** -/
structure Layout where
  entry : List Char := ['&']
  keyValue : List Char := ['=']
deriving DecidableEq, Repr, Inhabited

namespace Layout

/-- A delimiter that may be given as an option. -/
def delimiter (o : Options) (key : String) (default : List Char) : Except CodecFault (List Char) :=
  match o.text? key with
  | none => .ok default
  | some s => if s.isEmpty then .error (.badOption .kv key "must not be empty") else .ok s.toList

/-- **The layout that options describe.** -/
def ofOptions (o : Options) : Except CodecFault Layout := do
  let entry ← delimiter o "entry_delimiter" ['&']
  let keyValue ← delimiter o "kv_delimiter" ['=']
  if entry == keyValue then .error (.badOption .kv "kv_delimiter" "must differ from entry_delimiter")
  else return ⟨entry, keyValue⟩

end Layout

/-- The entries of a line; one without the delimiter of key and value is none. -/
def entries (l : Layout) (line : List Char) : List (List Char × List Char) :=
  (Text.split l.entry line).filterMap (Text.splitOnce? l.keyValue)

/-- The first value of a key. -/
def find? (key : List Char) (es : List (List Char × List Char)) : Option (List Char) := es.lookup key

/-- **The row of a record** for declared fields, found by the place of each. -/
def decode (l : Layout) (declared : List Field) (bytes : List UInt8) : Except CodecFault Rows := do
  let line := Codec.trimLineEnds (← Codec.textOf .kv bytes)
  if line.isEmpty then .error (.malformed .kv .record "empty record")
  else
    let es := entries l line
    return .single (declared.map fun f => .ofText? ((find? f.path.toList es).map String.ofList))

/-- An entry of a line. -/
def entry (l : Layout) (name : String) (v : Value) : List Char := name.toList ++ l.keyValue ++ v.render.toList

/-- **The line of a row.** -/
def encode (l : Layout) (declared : List Field) (row : NamedRow) : String :=
  String.ofList (Text.join l.entry ((row.written declared).map fun p => entry l p.1 p.2))

end KeyValue
end RowSql
