import RowSql.Avro.Datum
import RowSql.Avro.Schema
import RowSql.Text.Digits
import RowSql.Text.Utf8
/-!
# Scan — data from bytes

A datum is read as its schema says.  A text, a truth value or the choice of a union that is cut off by the end
of the bytes is nothing; anything else that is cut off is a failure.
-/
namespace RowSql
namespace Avro

/-- **A reader of bytes.**  A failure knows how many bytes are left. -/
abbrev Scan := StateT (List UInt8) (Except Nat)

namespace Scan

def fail {α : Type} : Scan α := fun bs => .error bs.length

/-- The failure at the end of the bytes. -/
def failAtEnd {α : Type} : Scan α := fun _ => .error 0

/-- Exactly `n` bytes; nothing when there are fewer, and then all are taken. -/
def take? (n : Nat) : Scan (Option (List UInt8)) := fun bs =>
  if bs.length < n then .ok (none, []) else .ok (some (bs.take n), bs.drop n)

/-- Exactly `n` bytes. -/
def take (n : Nat) : Scan (List UInt8) := do
  match ← take? n with
  | some bs => return bs
  | none => failAtEnd

/-- The number of bytes that a number of 64 bits takes at most. -/
def longBytes : Nat := 10

/-- The bits of a number, seven in a byte, the lowest first, and a byte with its high bit set before another
one.  Nothing if the bytes end. -/
def varBits? : (fuel shift acc : Nat) → Scan (Option Nat)
  | 0, _, _ => fail
  | fuel + 1, shift, acc => do
    match ← take? 1 with
    | some [b] =>
      let acc := acc + (b.toNat % 128) * Nat.pow 2 shift
      if b < 128 then return some (acc % Nat.pow 2 64) else varBits? fuel (shift + 7) acc
    | _ => return none

/-- The number whose sign is in the lowest bit. -/
def unzigzag (n : Nat) : Int := if n % 2 = 0 then n / 2 else -(n / 2 : Nat) - 1

/-- A number of 64 bits; nothing if the bytes end. -/
def long? : Scan (Option Int) := do return (← varBits? longBytes 0 0).map unzigzag

/-- A number of 64 bits. -/
def long : Scan Int := do
  match ← long? with
  | some n => return n
  | none => failAtEnd

def whole (n : Int) : Datum := .number (Int64.ofInt n)

/-- A number of 32 bits. -/
def int : Scan Int := do
  let n ← long
  if -2147483648 ≤ n ∧ n ≤ 2147483647 then return n else fail

/-- The greatest length of one thing in memory. -/
def lengthLimit : Int := 536870912

/-- A length. -/
def length : Scan Nat := do
  let n ← long
  if 0 ≤ n ∧ n ≤ lengthLimit then return n.toNat else fail

/-- The number of the items in a block; below zero, the size of the block follows. -/
def blockCount : Scan Nat := do
  let n ← long
  if n < 0 then
    let _ ← long
    if -n ≤ lengthLimit then return n.natAbs else fail
  else if n ≤ lengthLimit then return n.toNat
  else fail

/-- `n` items. -/
def times {α : Type} (item : Scan α) : Nat → Scan (List α)
  | 0 => pure []
  | n + 1 => do
    let a ← item
    return a :: (← times item n)

/-- The items of blocks, up to the empty one. -/
def blocks {α : Type} (item : Scan α) : Nat → Scan (List α)
  | 0 => fail
  | fuel + 1 => do
    let n ← blockCount
    if n = 0 then return []
    else
      let items ← times item n
      return items ++ (← blocks item fuel)

def allBlocks {α : Type} (item : Scan α) : Scan (List α) := do blocks item ((← get).length + 1)

/-- The natural number of some bytes, the lowest first. -/
def littleEndian : List UInt8 → Nat
  | [] => 0
  | b :: bs => b.toNat + 256 * littleEndian bs

/-- The integer of some bytes in two's complement, the highest first. -/
def bigEndian (bs : List UInt8) : Int :=
  let n := littleEndian bs.reverse
  match bs with
  | b :: _ => if b < 128 then n else (n : Int) - (Nat.pow 256 bs.length : Nat)
  | [] => 0

/-- A text; nothing if the bytes end. -/
def text : Scan Datum := do
  let n ← length
  match ← take? n with
  | none => return .null
  | some bs =>
    match Text.decode bs with
    | .ok cs => return .text (String.ofList cs)
    | .error _ => fail

/-- The decimal in some bytes: its digits with their length before them, and its scale. -/
def scaled? (bs : List UInt8) : Option Decimal :=
  let read : Scan Decimal := do
    let digits ← take (← length)
    return ⟨bigEndian digits, ← long⟩
  match read.run bs with
  | .ok (d, _) => some d
  | .error _ => none

/-! ## Universal identifiers -/

def isHex (b : UInt8) : Bool := Text.isDigitIn 16 (Char.ofNat b.toNat)

/-- Where hyphens stand between the digits of an identifier. -/
def hyphens : List Nat := [8, 13, 18, 23]

/-- The digits of an identifier with hyphens. -/
def hyphenated? (cs : List UInt8) : Option (List UInt8) :=
  let marked := cs.zipIdx
  if cs.length == 36 && marked.all fun p => if hyphens.contains p.2 then p.1 == 45 else isHex p.1 then
    some ((marked.filter fun p => !hyphens.contains p.2).map Prod.fst)
  else none

/-- The digits of an identifier, in one of the forms that it is written in. -/
def identifierDigits? (cs : List UInt8) : Option (List UInt8) :=
  if cs.length == 32 then if cs.all isHex then some cs else none
  else if cs.length == 38 && cs.head? == some 123 && cs.getLast? == some 125 then hyphenated? (cs.drop 1).dropLast
  else if cs.length == 45 && Text.encode "urn:uuid:" == cs.take 9 then hyphenated? (cs.drop 9)
  else hyphenated? cs

/-- The identifier of 32 digits. -/
def identifier (ds : List Char) : String :=
  let part (start n : Nat) := (ds.drop start).take n
  String.ofList (List.intercalate ['-'] [part 0 8, part 8 4, part 12 4, part 16 4, part 20 12])

/-- An identifier: sixteen bytes, or a text. -/
def uuid : Scan Datum := do
  let n ← length
  let bs ← take n
  if n = 16 then return .text (identifier (bs.flatMap fun b => Json.hexPair b.toNat))
  else
    match identifierDigits? bs with
    | some ds => return .text (identifier (ds.map fun b => (Char.ofNat b.toNat).toLower))
    | none => fail

/-! ## Schemas -/

/-- The entries with one more; a later entry of a key takes the place of an earlier one. -/
def setEntry (k : String) (d : Datum) : List (String × Datum) → List (String × Datum)
  | [] => [(k, d)]
  | (j, e) :: rest => if j == k then (k, d) :: rest else (j, e) :: setEntry k d rest

def ofEntries (entries : List (String × Datum)) : Datum := .map (entries.foldl (fun es e => setEntry e.1 e.2 es) [])

/-- An entry of a map, whose key has to be there. -/
def entry (value : Scan Datum) : Scan (String × Datum) := do
  match ← text with
  | .text k => return (k, ← value)
  | _ => fail

/-- The datum of a schema that nests at most `depth` deep. -/
def readWithin (names : List (String × Schema)) : (depth : Nat) → Schema → Scan Datum
  | 0, _ => fail
  | depth + 1, schema =>
    match schema with
    | .null => pure .null
    | .boolean => do
      match ← take? 1 with
      | some [0] => return .boolean false
      | some [1] => return .boolean true
      | some _ => fail
      | none => return .null
    | .int _ => do return whole (← int)
    | .long _ => do return whole (← long)
    | .float => do return .float (Float32.ofBits (UInt32.ofNat (littleEndian (← take 4)))).toFloat
    | .double => do return .float (Float.ofBits (UInt64.ofNat (littleEndian (← take 8))))
    | .bytes => do return .bytes (← take (← length))
    | .string => text
    | .fixed _ size => do return .bytes (← take size)
    | .enum _ symbols => do
      let n ← int
      match if n < 0 then none else symbols[n.toNat]? with
      | some s => return .text s
      | none => fail
    | .array items => do return .array (← allBlocks (readWithin names depth items))
    | .map values => do return ofEntries (← allBlocks (entry (readWithin names depth values)))
    | .union variants => do
      match ← long? with
      | none => return .union 0 .null
      | some n =>
        match if n < 0 then none else variants[n.toNat]? with
        | some s => return .union n.toNat (← readWithin names depth s)
        | none => fail
    | .record _ fields => do return .record (← fields.mapM fun f => do return (f.1, ← readWithin names depth f.2))
    | .ref name =>
      match names.lookup name with
      | some s => readWithin names depth s
      | none => fail
    | .decimal digits => readWithin names depth digits
    | .scaledDecimal => do
      match scaled? (← take (← length)) with
      | some d => return .decimal d
      | none => fail
    | .uuid => uuid
    | .duration => do
      let bs ← take 12
      return .duration (littleEndian (bs.take 4)) (littleEndian ((bs.drop 4).take 4)) (littleEndian (bs.drop 8))

/-- A bound on how deep data nest: without taking a byte, no schema comes up inside itself. -/
def depthBound (schema : Schema) (bytes : List UInt8) : Nat := (schema.size + 1) * (bytes.length + 2)

/-- **The datum of a schema** at the start of some bytes. -/
def read (schema : Schema) : Scan Datum := do
  readWithin schema.named (depthBound schema (← get)) schema

end Scan
end Avro
end RowSql
