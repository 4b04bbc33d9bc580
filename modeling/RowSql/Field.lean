import RowSql.Value
/-!
# Field — named, typed fields of records

A source or a sink declares its fields: a name, the type that the raw cell is coerced to when it is read, and where the
value is found inside a structured document.
-/
namespace RowSql

/-- The declared type of a field. -/
inductive FieldType where
  | text
  | whole
  | decimal
  | float
  | bool
deriving DecidableEq, Repr, Inhabited

namespace FieldType

/-- The name of a type in a declaration. -/
def name : FieldType → String
  | .text => "string"
  | .whole => "int"
  | .decimal => "decimal"
  | .float => "float"
  | .bool => "bool"

def all : List FieldType := [.text, .whole, .decimal, .float, .bool]

def ofName? (s : String) : Option FieldType := all.find? fun t => t.name == s

/-- **The value as a value of the type**; nothing when it does not read as one. -/
def coerce : FieldType → Value → Value
  | .text, .null => .null
  | .text, v => .text v.render
  | _, .text "" => .null
  | .whole, v => .ofWhole? v.toWhole?
  | .decimal, v => .ofDecimal? v.toDecimal?
  | .float, v => v.toFloat?.elim .null .float
  | .bool, v => .ofBool? v.toBool?

/-- The program halts over reading a value as one of the type. -/
def halts (t : FieldType) (v : Value) : Bool := t != .text && t != .bool && v.halts

end FieldType

/-- **A field of a record.** -/
structure Field where
  name : String
  type : FieldType := .text
  /-- Where the value is found in a structured document, when not under the name. -/
  path? : Option String := none
deriving DecidableEq, Repr, Inhabited

/-- Where the value is found in a structured document. -/
def Field.path (f : Field) : String := f.path?.getD f.name

end RowSql
