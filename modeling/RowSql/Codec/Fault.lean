import RowSql.Fault
/-!
# Fault — failures of codecs

A codec gives up on an option it cannot use, on input it cannot read, or on values it cannot write.  A failure
on a record knows the place; once a place is set it stays.  The program can halt over a record (`halt`), which
is no failure of the codec.
-/
namespace RowSql

/-- The formats of records. -/
inductive Format where
  | csv
  | kv
  | json
  | avro
deriving DecidableEq, Repr, Inhabited

def Format.name : Format → String
  | .csv => "csv"
  | .kv => "kv"
  | .json => "json"
  | .avro => "avro"

def Format.all : List Format := [.csv, .kv, .json, .avro]

def Format.ofName? (s : String) : Option Format := Format.all.find? fun f => f.name == s

/-- **Where in a record a codec gave up.** -/
inductive Location where
  /-- The record as a whole. -/
  | record
  /-- A row of the record, counted from zero. -/
  | row (n : Nat)
  | byte (n : Nat)
  /-- A place in a text, lines counted from one. -/
  | place (line column : Nat)
deriving DecidableEq, Repr, Inhabited

/-- The end of a message that tells the place. -/
def Location.suffix : Location → String
  | .record => ""
  | .row n => s!" at row {n}"
  | .byte n => s!" at byte {n}"
  | .place line column => s!" at line {line} column {column}"

/-- **A failure of a codec.** -/
inductive CodecFault where
  | badOption (codec : Format) (option detail : String)
  | malformed (codec : Format) (location : Location) (detail : String)
  | notUtf8 (codec : Format) (location : Location)
  | unencodable (codec : Format) (location : Location) (detail : String)
  /-- Reading or writing itself failed. -/
  | io (detail : String)
  /-- The program halts. -/
  | halt
deriving DecidableEq, Repr, Inhabited

namespace CodecFault

def message : CodecFault → String
  | .badOption codec option detail => s!"{codec.name}: option '{option}': {detail}"
  | .malformed codec location detail => s!"{codec.name}: malformed input{location.suffix}: {detail}"
  | .notUtf8 codec location => s!"{codec.name}: input is not UTF-8{location.suffix}"
  | .unencodable codec location detail => s!"{codec.name}: cannot encode{location.suffix}: {detail}"
  | .io detail => s!"io: {detail}"
  | .halt => haltMessage

def codec? : CodecFault → Option Format
  | .badOption codec _ _ => some codec
  | .malformed codec _ _ => some codec
  | .notUtf8 codec _ => some codec
  | .unencodable codec _ _ => some codec
  | .io _ => none
  | .halt => none

def location : CodecFault → Location
  | .malformed _ location _ => location
  | .notUtf8 _ location => location
  | .unencodable _ location _ => location
  | _ => .record

/-- `new`, unless a place is set already. -/
def pin (location new : Location) : Location := if location == .record then new else location

/-- **The failure at a place**, unless its place is known already. -/
def located (fault : CodecFault) (new : Location) : CodecFault :=
  match fault with
  | .malformed codec location detail => .malformed codec (pin location new) detail
  | .notUtf8 codec location => .notUtf8 codec (pin location new)
  | .unencodable codec location detail => .unencodable codec (pin location new) detail
  | .badOption codec option detail => .badOption codec option detail
  | .io detail => .io detail
  | .halt => .halt

end CodecFault
end RowSql
