import RowSql.Avro.Scan
import RowSql.Bytes.Inflate
/-!
# Container — files of Avro data

A container begins with its schema and a marker of sixteen bytes, and goes on with blocks of data, each with the
marker after it.  A block without data is the last one, whatever follows.
-/
namespace RowSql
namespace Avro

/-- **What stands at the start of a container.** -/
structure Header where
  schema : Schema
  deflated : Bool
  marker : List UInt8
deriving Inhabited

/-- The data that could be read, and whether the end was reached. -/
structure Contents where
  data : List Datum
  complete : Bool
deriving Inhabited

namespace Container

open Scan

/-- The first four bytes. -/
def magic : List UInt8 := [79, 98, 106, 1]

/-- The text in an entry of the header. -/
def entryText (entries : List (String × Datum)) (key : String) : Scan (Option (List Char)) :=
  match entries.lookup key with
  | some (.bytes bs) =>
    match Text.decode bs with
    | .ok cs => return some cs
    | .error _ => fail
  | some _ => fail
  | none => return none

/-- The bytes in a block are compressed. -/
def compression (entries : List (String × Datum)) : Scan Bool := do
  match (← entryText entries "avro.codec").map String.ofList with
  | none => return false
  | some "null" => return false
  | some "deflate" => return true
  | some _ => fail

def header : Scan Header := do
  if (← take 4) != magic then fail
  match ← readWithin [] 2 (.map .bytes) with
  | .map entries =>
    match ((← entryText entries "avro.schema").bind Schema.parse?).filter Schema.isResolved with
    | none => fail
    | some schema =>
      let deflated ← compression entries
      return ⟨schema, deflated, ← take 16⟩
  | _ => fail

/-- The data of a block.  Every datum takes at least one byte. -/
def data (schema : Schema) : (fuel count : Nat) → List UInt8 → Contents
  | _, 0, _ => ⟨[], true⟩
  | 0, _, _ => ⟨[], false⟩
  | fuel + 1, count + 1, bs =>
    match (Scan.read schema).run bs with
    | .error _ => ⟨[], false⟩
    | .ok (d, rest) =>
      if rest.length == bs.length then ⟨[], false⟩
      else
        let more := data schema fuel count rest
        ⟨d :: more.data, more.complete⟩

/-- The bytes of a block and its marker. -/
def body : Scan (List UInt8 × List UInt8) := do
  let bs ← take (← length)
  return (bs, ← take 16)

/-- The bytes of a block as they were before compression. -/
def plain? (h : Header) (bs : List UInt8) : Option (List UInt8) := if h.deflated then inflate? bs else some bs

/-- The number of data in a block; below zero it is taken as a number without sign. -/
def dataCount (n : Int) : Nat := (n % (Nat.pow 2 64 : Nat)).toNat

/-- The data of the blocks. -/
def blocks (h : Header) : (fuel : Nat) → List UInt8 → Contents
  | 0, _ => ⟨[], false⟩
  | fuel + 1, bs =>
    match Scan.long?.run bs with
    | .error _ => ⟨[], false⟩
    | .ok (none, _) => ⟨[], true⟩
    | .ok (some count, rest) =>
      match body.run rest with
      | .error _ => ⟨[], false⟩
      | .ok ((bs, marker), rest) =>
        match (if marker == h.marker then plain? h bs else none) with
        | none => ⟨[], false⟩
        | some bs =>
          if count = 0 then ⟨[], true⟩
          else
            let here := data h.schema (bs.length + 1) (dataCount count) bs
            if here.complete then
              let more := blocks h fuel rest
              ⟨here.data ++ more.data, more.complete⟩
            else here

/-- **The data of a container**, if its header can be read. -/
def read? (bytes : List UInt8) : Option Contents :=
  match header.run bytes with
  | .error _ => none
  | .ok (h, rest) => some (blocks h (rest.length + 1) rest)

end Container
end Avro
end RowSql
