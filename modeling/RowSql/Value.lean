import RowSql.Number.FloatText
/-!
# Value — the dynamic values of rows

A cell holds nothing, a truth value, a number of one of three kinds, a text, an array or a row of named values.
Texts are read as numbers and truth values on demand, and a text that does not read as one gives nothing.
-/
namespace RowSql

/-- **A dynamic value.** -/
inductive Value where
  | null
  | bool (b : Bool)
  | int (n : Whole)
  | decimal (d : Decimal)
  | float (x : Float)
  | text (s : String)
  | array (items : List Value)
  /-- Named values, in order. -/
  | row (fields : List (String × Value))
deriving Inhabited

namespace Value

def isNull : Value → Bool
  | .null => true
  | _ => false

@[simp]
theorem isNull_array (items : List Value) : (array items).isNull = false := rfl

theorem eq_null_of_isNull {v : Value} (h : v.isNull = true) : v = .null := by
  cases v <;> first | rfl | cases h

def isNumber : Value → Bool
  | .int _ => true
  | .decimal _ => true
  | .float _ => true
  | _ => false

/-- The name of the kind of a value. -/
def kind : Value → String
  | .null => "null"
  | .bool _ => "bool"
  | .int _ => "int"
  | .decimal _ => "decimal"
  | .float _ => "float"
  | .text _ => "string"
  | .array _ => "array"
  | .row _ => "row"

/-- **The decimal that a value reads as**; a float reads as its shortest decimal. -/
def toDecimal? : Value → Option Decimal
  | .int n => some (.ofWhole n)
  | .decimal d => some d
  | .float x => Decimal.ofFloat? x
  | .text s => Decimal.ofText? s
  | _ => none

/-- **The program halts over reading the value as a number.** -/
def halts : Value → Bool
  | .text s => Decimal.halts s
  | _ => false

/-- The float that a value reads as. -/
def toFloat? : Value → Option Float
  | .float x => some x
  | .int n => some (Binary.nearestInt n.toInt)
  | v => v.toDecimal?.map Decimal.toFloat

/-- The most integral digits of a word. -/
def wholeDigits : Int := 19

/-- **The word at the integral part of a decimal.**  The number of its integral digits decides before its digits
are touched: with none of them the word is zero, and with more than `wholeDigits` there is none. -/
def wholeOfDecimal? (d : Decimal) : Option Whole := do
  let count ← d.integralDigits?
  if count.toInt ≤ 0 then some 0
  else if count.toInt ≤ wholeDigits then Whole.ofInt? d.truncate
  else none

/-- **The word at the integral part of the number that a value reads as.** -/
def toWhole? : Value → Option Whole
  | .int n => some n
  | .float x => Binary.truncate? x
  | v => v.toDecimal?.bind wholeOfDecimal?

@[simp]
theorem toWhole?_int (n : Whole) : (int n).toWhole? = some n := rfl

/-- **The truth value that a value reads as**: words by being other than zero, texts `true`, `1`, `false` and `0`. -/
def toBool? : Value → Option Bool
  | .bool b => some b
  | .int n => some (n.toInt != 0)
  | .text s =>
    let word := Text.lowerAscii (Text.trim s.toList)
    if word == ['t', 'r', 'u', 'e'] || word == ['1'] then some true
    else if word == ['f', 'a', 'l', 's', 'e'] || word == ['0'] then some false
    else none
  | _ => none

mutual

/-- **The text of a value.**  Nothing is the empty text; arrays are bracketed lists, rows are braced
`name=value` pairs. -/
def render : Value → String
  | .null => ""
  | .bool b => if b then "true" else "false"
  | .int n => toString n.toInt
  | .decimal d => toString d
  | .float x => FloatText.text .display x
  | .text s => s
  | .array items => "[" ++ String.intercalate ", " (renderItems items) ++ "]"
  | .row fields => "\x7b" ++ String.intercalate ", " (renderFields fields) ++ "\x7d"

/-- The texts of the elements of an array, where nothing is spelled `null`. -/
def renderItems : List Value → List String
  | [] => []
  | v :: vs => (if v.isNull then "null" else v.render) :: renderItems vs

/-- The pairs of a row. -/
def renderFields : List (String × Value) → List String
  | [] => []
  | (name, v) :: rest => (name ++ "=" ++ v.render) :: renderFields rest

end

/-- The text of a value that is there. -/
def toText? (v : Value) : Option String := if v.isNull then none else some v.render

@[simp]
theorem toText?_text (s : String) : (text s).toText? = some s := rfl

/-- The elements of an array. -/
def items? : Value → Option (List Value)
  | .array items => some items
  | _ => none

def ofBool? (b : Option Bool) : Value := b.elim .null .bool

def ofWhole? (n : Option Whole) : Value := n.elim .null .int

def ofDecimal? (d : Option Decimal) : Value := d.elim .null .decimal

def ofText? (s : Option String) : Value := s.elim .null .text

/-- The value of a count. -/
def ofNat (n : Nat) : Value := (Whole.ofInt? n).elim (.decimal (.ofInt n)) .int

/-- A float that is a number; nothing for the others. -/
def ofFinite (x : Float) : Value := if x.isFinite then .float x else .null

/-- The order of two floats, unless one is not a number. -/
def floatOrder? (x y : Float) : Option Ordering :=
  if x < y then some .lt else if x == y then some .eq else if y < x then some .gt else none

/-- **The order of two values read as numbers**, if both read as one. -/
def numberOrder? : Value → Value → Option Ordering
  | .int a, .int b => some (Ord.compare a.toInt b.toInt)
  | .float a, .float b => floatOrder? a b
  | a, b => do return (← a.toDecimal?).order (← b.toDecimal?)

mutual

/-- **Two values are the same**: numbers by value, texts and truth values by equality, arrays and rows by their parts in
order, and nothing is the same as nothing. -/
def same : Value → Value → Bool
  | .null, .null => true
  | .bool a, .bool b => a == b
  | .text a, .text b => a == b
  | .array as, .array bs => sameItems as bs
  | .row as, .row bs => sameFields as bs
  | a, b => a.isNumber && b.isNumber && numberOrder? a b == some .eq

def sameItems : List Value → List Value → Bool
  | [], [] => true
  | a :: as, b :: bs => same a b && sameItems as bs
  | _, _ => false

def sameFields : List (String × Value) → List (String × Value) → Bool
  | [], [] => true
  | (j, a) :: as, (k, b) :: bs => j == k && same a b && sameFields as bs
  | _, _ => false

end

/-- **Two values are equal**: both are there, and they are the same. -/
def equal (a b : Value) : Bool := !a.isNull && !b.isNull && same a b

/-- Texts are ordered by their characters. -/
def textOrder (a b : String) : Ordering := if a < b then .lt else if a == b then .eq else .gt

def boolOrder (a b : Bool) : Ordering := Ord.compare a.toNat b.toNat

/-- The order of two values of one kind: numbers, texts or truth values. -/
def kindOrder? : Value → Value → Option Ordering
  | .text a, .text b => some (textOrder a b)
  | .bool a, .bool b => some (boolOrder a b)
  | a, b => if a.isNumber && b.isNumber then numberOrder? a b else none

/-- **The order behind comparisons**: truth values as such, values that both read as numbers by number, all others by
their text.  Nothing has no order. -/
def order? : Value → Value → Option Ordering
  | .null, _ => none
  | _, .null => none
  | .bool a, .bool b => some (boolOrder a b)
  | a, b => some ((numberOrder? a b).getD (textOrder a.render b.render))

/-- The program halts over comparing two values: the first is read as a number and, if it is one, the second too. -/
def orderHalts : Value → Value → Bool
  | .null, _ => false
  | _, .null => false
  | .bool _, .bool _ => false
  | a, b => a.halts || b.halts && a.toDecimal?.isSome

theorem order?_null (v : Value) : v.order? .null = none := by
  cases v <;> rfl

end Value
end RowSql
