import RowSql.Number.Shortest
/-!
# FloatText — floats as text

Every text of a float has the fewest digits that read back to it.  What differs between the texts is their layout: which
magnitudes are written positionally, whether a whole number keeps a point, how an exponent is written.
-/
namespace RowSql

/-- **How the digits of a float are laid out.** -/
structure FloatLayout where
  /-- Which decimal exponents, of the first digit, are written positionally. -/
  positional : Int → Bool
  /-- Which of them keep `.0` after a whole number. -/
  wholePoint : Int → Bool
  /-- A positive exponent has a sign. -/
  exponentPlus : Bool
  tie : Shortest.Tie
  nan : String
  infinity : String

namespace FloatLayout

/-- Values are written positionally, and a whole number below `10^16` keeps its point. -/
def display : FloatLayout := ⟨fun _ => true, fun e => e < 16, false, .up, "NaN", "Infinity"⟩

/-- Always one digit before the point, and an exponent. -/
def scientific : FloatLayout := ⟨fun _ => false, fun _ => false, false, .up, "NaN", "inf"⟩

/-- JSON numbers are positional from `10^-5` to below `10^16`, and keep a point. -/
def json : FloatLayout := ⟨fun e => -5 ≤ e && e < 16, fun _ => true, true, .toEven, "null", "null"⟩

end FloatLayout

namespace FloatText

/-- The digits `ds · 10^k` written positionally. -/
def positional (ds : List Char) (k : Int) : List Char :=
  if 0 ≤ k then ds ++ Decimal.zeros k.toNat else Decimal.plainChars ds k.natAbs

def exponentChars (plus : Bool) (e : Int) : List Char :=
  'e' :: (if e < 0 then '-' :: Decimal.digitChars e.natAbs
    else (if plus then ['+'] else []) ++ Decimal.digitChars e.toNat)

/-- The text of the magnitude `d · 10^k`. -/
def renderDigits (l : FloatLayout) (d : Nat) (k : Int) : List Char :=
  let ds := Decimal.digitChars d
  let e : Int := k + (ds.length - 1 : Nat)
  if l.positional e then
    positional ds k ++ (if 0 ≤ k && l.wholePoint e then ['.', '0'] else [])
  else Decimal.pointed ds ++ exponentChars l.exponentPlus e

/-- **The text of a float** in a layout. -/
def render (l : FloatLayout) (x : Float) : List Char :=
  match Binary.ofFloat? x with
  | none =>
    if x.isNaN then l.nan.toList
    else if l.infinity == l.nan || 0 < x then l.infinity.toList else '-' :: l.infinity.toList
  | some b =>
    let (d, k) := if b.mantissa = 0 then (0, 0) else Shortest.select l.tie b
    if b.negative then '-' :: renderDigits l d k else renderDigits l d k

def text (l : FloatLayout) (x : Float) : String := String.ofList (render l x)

/-- A magnitude: digits with at most one point and an optional exponent of plain digits. -/
def parseMagnitude? (cs : List Char) : Option Float := do
  let (base, e) ← match Decimal.splitAt? (fun c => c == 'e' || c == 'E') cs with
    | none => some (cs, (0 : Int))
    | some (base, '-' :: ds) => (Decimal.readPlain ds).map fun n => (base, -(n : Int))
    | some (base, '+' :: ds) => (Decimal.readPlain ds).map fun n => (base, (n : Int))
    | some (base, ds) => (Decimal.readPlain ds).map fun n => (base, (n : Int))
  let (lead, trail) := (Decimal.splitAt? (· == '.') base).getD (base, [])
  let m ← Decimal.readPlain (lead ++ trail)
  some (Binary.nearest m (e - trail.length))

/-- **The float that a text spells**: an optional sign, then a magnitude, `inf`, `infinity` or `nan` in any case. -/
def parse? (cs : List Char) : Option Float :=
  let (negative, cs) := match cs with
    | '-' :: cs => (true, cs)
    | '+' :: cs => (false, cs)
    | cs => (false, cs)
  let word := Text.lowerAscii cs
  (if word == "inf".toList || word == "infinity".toList then some (1.0 / 0.0 : Float)
    else if word == "nan".toList then some (0.0 / 0.0 : Float)
    else parseMagnitude? cs).map (Binary.signed negative)

end FloatText

/-- **The decimal of a finite float** has the fewest digits that read back, and no scale below zero. -/
def Decimal.ofFloat? (x : Float) : Option Decimal :=
  (Binary.ofFloat? x).map fun b =>
    let (d, k) := if b.mantissa = 0 then (0, 0) else Shortest.select .up b
    let n : Int := if b.negative then -(d : Int) else d
    if 0 ≤ k then ⟨n * (Nat.pow 10 k.toNat : Nat), 0⟩ else ⟨n, -k⟩

end RowSql
