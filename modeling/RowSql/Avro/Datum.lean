import RowSql.Text.Base64
import RowSql.Value
/-!
# Datum — Avro data

A datum is what a schema describes, and becomes a value of a row.
-/
namespace RowSql
namespace Avro

/-- **A datum.**  Fixed bytes and the digits of decimals are bytes; symbols of enumerations are texts. -/
inductive Datum where
  | null
  | boolean (b : Bool)
  | number (n : Whole)
  | float (x : Float)
  | bytes (bs : List UInt8)
  | text (s : String)
  | array (items : List Datum)
  /-- Entries in some order, each key once. -/
  | map (entries : List (String × Datum))
  | record (fields : List (String × Datum))
  | union (index : Nat) (v : Datum)
  | decimal (d : Decimal)
  | duration (months days milliseconds : Nat)
deriving Inhabited

namespace Datum

/-- The members of a row in ascending order of their names. -/
def byKey (members : List (String × Value)) : List (String × Value) := members.mergeSort fun a b => a.1 ≤ b.1

mutual

/-- **The value of a datum.**  Bytes are Base64 text, the entries of a map are in ascending order of their keys,
and a span of time is nothing. -/
def toValue : Datum → Value
  | .null => .null
  | .boolean b => .bool b
  | .number n => .int n
  | .float x => .ofFinite x
  | .bytes bs => .text (String.ofList (Base64.encode bs))
  | .text s => .text s
  | .array items => .array (toValues items)
  | .map entries => .row (byKey (toMembers entries))
  | .record fields => .row (toMembers fields)
  | .union _ v => v.toValue
  | .decimal d => .ofDecimal? (Decimal.ofText? (toString d))
  | .duration _ _ _ => .null

def toValues : List Datum → List Value
  | [] => []
  | d :: ds => d.toValue :: toValues ds

def toMembers : List (String × Datum) → List (String × Value)
  | [] => []
  | (k, d) :: rest => (k, d.toValue) :: toMembers rest

end

mutual

/-- **The program halts over the value of a datum**: over the text of a decimal, at any depth. -/
def halts : Datum → Bool
  | .array items => itemsHalt items
  | .map entries => entriesHalt entries
  | .record fields => entriesHalt fields
  | .union _ v => v.halts
  | .decimal d => Decimal.halts (toString d)
  | _ => false

def itemsHalt : List Datum → Bool
  | [] => false
  | d :: ds => d.halts || itemsHalt ds

def entriesHalt : List (String × Datum) → Bool
  | [] => false
  | (_, d) :: rest => d.halts || entriesHalt rest

end

/-- The fields of a datum that is a record. -/
def fields? : Datum → Option (List (String × Datum))
  | .record fields => some fields
  | _ => none

end Datum
end Avro
end RowSql
