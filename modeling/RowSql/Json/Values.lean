import RowSql.Json
import RowSql.Value
/-!
# Values — documents and values

Objects become rows and rows become objects.  A whole number that fits a word becomes that word; every other number
becomes the decimal of its text.
-/
namespace RowSql
namespace Value

mutual

/-- **The value of a document.** -/
def ofJson : Json → Value
  | .null => .null
  | .bool b => .bool b
  | .int n =>
    match Whole.ofInt? n with
    | some w => .int w
    | none => .ofDecimal? (Decimal.ofText? (toString n))
  | .float x =>
    match Decimal.ofText? (FloatText.text .json x) with
    | some d => .decimal d
    | none => .float x
  | .text s => .text s
  | .array items => .array (ofJsonItems items)
  | .object members => .row (ofJsonMembers members)

def ofJsonItems : List Json → List Value
  | [] => []
  | j :: js => ofJson j :: ofJsonItems js

def ofJsonMembers : List (String × Json) → List (String × Value)
  | [] => []
  | (k, j) :: ms => (k, ofJson j) :: ofJsonMembers ms

end

/-- The number of a document for a decimal: whole where it fits a word, the nearest float otherwise, and its text where
no float is near. -/
def decimalToJson (d : Decimal) : Json :=
  match d.toWhole? with
  | some w => .int w.toInt
  | none => if d.toFloat.isFinite then .float d.toFloat else .text (toString d)

mutual

/-- **The document of a value.** -/
def toJson : Value → Json
  | .null => .null
  | .bool b => .bool b
  | .int n => .int n.toInt
  | .decimal d => decimalToJson d
  | .float x => if x.isFinite then .float x else .null
  | .text s => .text s
  | .array items => .array (toJsonItems items)
  | .row fields => .ofPairs (toJsonFields fields)

def toJsonItems : List Value → List Json
  | [] => []
  | v :: vs => toJson v :: toJsonItems vs

def toJsonFields : List (String × Value) → List (String × Json)
  | [] => []
  | (k, v) :: fs => (k, toJson v) :: toJsonFields fs

end

end Value
end RowSql
