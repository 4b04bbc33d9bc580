import RowSql.Arithmetic
import RowSql.Function.Arrays
import RowSql.Number.CubeRoot
/-!
# Numbers — functions on numbers

Functions of real analysis work on floats, and a result that is no finite number is nothing.  Rounding works on exact
decimals and keeps the kind of its argument.
-/
namespace RowSql

/-- Functions of one float. -/
inductive FloatFunction where
  | sqrt
  | cbrt
  | exp
  | ln
  | log10
  | log2
  | sin
  | cos
  | tan
  | cot
  | asin
  | acos
  | atan
  | sinDegrees
  | cosDegrees
  | tanDegrees
  | asinDegrees
  | acosDegrees
  | atanDegrees
  | sinh
  | cosh
  | tanh
  | degrees
  | radians
deriving DecidableEq, Repr, Inhabited

namespace FloatFunction

def pi : Float := Float.ofBits 0x400921FB54442D18

/-- The number of degrees in a radian, rounded. -/
def degreesPerRadian : Float := Float.ofBits 0x404CA5DC1A63C1F8

def toDegrees (x : Float) : Float := x * degreesPerRadian

def toRadians (x : Float) : Float := x * (pi / 180.0)

/-- **The function on floats.** -/
def eval : FloatFunction → Float → Float
  | .sqrt, x => x.sqrt
  | .cbrt, x => Binary.cubeRoot x
  | .exp, x => x.exp
  | .ln, x => x.log
  | .log10, x => x.log10
  | .log2, x => x.log2
  | .sin, x => x.sin
  | .cos, x => x.cos
  | .tan, x => x.tan
  | .cot, x => 1.0 / x.tan
  | .asin, x => x.asin
  | .acos, x => x.acos
  | .atan, x => x.atan
  | .sinDegrees, x => (toRadians x).sin
  | .cosDegrees, x => (toRadians x).cos
  | .tanDegrees, x => (toRadians x).tan
  | .asinDegrees, x => toDegrees x.asin
  | .acosDegrees, x => toDegrees x.acos
  | .atanDegrees, x => toDegrees x.atan
  | .sinh, x => x.sinh
  | .cosh, x => x.cosh
  | .tanh, x => x.tanh
  | .degrees, x => toDegrees x
  | .radians, x => toRadians x

/-- **The function on a value that reads as a number.** -/
def apply (f : FloatFunction) (v : Value) : Value := v.toFloat?.elim .null fun x => .ofFinite (f.eval x)

end FloatFunction

/-- The other functions on numbers. -/
inductive NumberFunction where
  | logBase
  | atan2
  | atan2Degrees
  | power
  | abs
  | rem
  | ceil
  | floor
  | round
  | truncate
  | sign
  | pi
  | greatest
  | least
  | bin
  | hex
deriving DecidableEq, Repr, Inhabited

namespace NumberFunction

/-- A function of two floats on two values that read as numbers. -/
def float2 (f : Float → Float → Float) (a b : Value) : Value :=
  match a.toFloat?, b.toFloat? with
  | some x, some y => .ofFinite (f x y)
  | _, _ => .null

def absOf : Value → Value
  | .int n => (Whole.ofInt? n.toInt.natAbs).elim (.decimal (.ofInt n.toInt.natAbs)) .int
  | .float x => .float x.abs
  | v => v.toDecimal?.elim .null fun d => .decimal d.abs

/-- A value rounded to a whole number. -/
def integral (mode : Decimal.Rounding) (ofFloat : Float → Float) : Value → Value
  | .int n => .int n
  | .float x => .ofFinite (ofFloat x)
  | v => v.toDecimal?.elim .null fun d => Value.narrow (d.rescale mode 0)

/-- The largest scale, of either sign, that a value is rounded to. -/
def scaleLimit : Int := 1000

/-- The scale that an argument asks for; nothing when it is none or out of bounds. -/
def scaleOf? : Option Value → Option Int
  | none => some 0
  | some v => (v.toWhole?.map Int64.toInt).filter fun s => -scaleLimit ≤ s && s ≤ scaleLimit

/-- **A value rounded to a scale**, of the same kind of number. -/
def rescale (mode : Decimal.Rounding) (v : Value) (scale : Option Value) : Value :=
  match scaleOf? scale, v.toDecimal? with
  | some s, some d =>
    let r := d.rescale mode s
    match v with
    | .float _ => .float (Binary.signed (r.digits < 0) (Binary.nearest r.digits.natAbs (-r.scale)))
    | _ => if s ≤ 0 then Value.narrow r else .decimal r
  | _, _ => .null

def signOf : Value → Value
  | .int n => .ofWhole? (Whole.ofInt? n.toInt.sign)
  | v => v.toDecimal?.elim .null fun d => .ofWhole? (Whole.ofInt? d.digits.sign)

/-- The first of the most extreme values; nothing if two of them have no order. -/
def extreme (want : Ordering) : List Value → Value
  | [] => .null
  | v :: vs => ArrayFunction.extremeFrom want v vs

/-- The hexadecimal digits of the bytes of a text. -/
def hexOfText (s : String) : List Char :=
  s.toUTF8.toList.flatMap fun b => [(Nat.digitChar (b.toNat / 16)).toUpper, (Nat.digitChar (b.toNat % 16)).toUpper]

/-- The hexadecimal digits of a whole number that is a word, else of the bytes of the text. -/
def hexOf (v : Value) : Value :=
  match (v.toDecimal?.filter Decimal.isWhole).bind fun _ => v.toWhole? with
  | some n => .text (String.ofList ((Nat.toDigits 16 n.bits).map Char.toUpper))
  | none => .ofText? (v.toText?.map fun s => String.ofList (hexOfText s))

/-- **The result of a function on numbers.** -/
def apply (f : NumberFunction) (args : List Value) : Eval Value :=
  match f, args with
  | .logBase, [base, v] => .ok (float2 (fun b x => x.log / b.log) base v)
  | .atan2, [y, x] => .ok (float2 Float.atan2 y x)
  | .atan2Degrees, [y, x] => .ok (float2 (fun y x => FloatFunction.toDegrees (Float.atan2 y x)) y x)
  | .power, [x, y] => .ok (float2 Float.pow x y)
  | .abs, [v] => .ok (absOf v)
  | .rem, [a, b] => Value.arith .rem a b
  | .ceil, [v] => .ok (integral .ceiling Float.ceil v)
  | .floor, [v] => .ok (integral .floor Float.floor v)
  | .round, v :: scale => .ok (rescale .halfUp v scale.head?)
  | .truncate, v :: scale => .ok (rescale .down v scale.head?)
  | .sign, [v] => .ok (signOf v)
  | .pi, _ => .ok (.float FloatFunction.pi)
  | .greatest, args => .ok (extreme .gt args)
  | .least, args => .ok (extreme .lt args)
  | .bin, [v] => .ok (.ofText? (v.toWhole?.map fun n => String.ofList (Nat.toDigits 2 n.bits)))
  | .hex, [v] => .ok (hexOf v)
  | _, _ => .ok .null

/-- The program halts over the numbers of a rounding: the scale is read first, and the value only if the scale
is in bounds. -/
def rescaleHalts (v : Value) (scale : Option Value) : Bool :=
  scale.any Value.halts || v.halts && (scaleOf? scale).isSome

/-- The program halts over the numbers that the function reads. -/
def halts (f : NumberFunction) (args : List Value) : Bool :=
  match f, args with
  | .round, v :: scale => rescaleHalts v scale.head?
  | .truncate, v :: scale => rescaleHalts v scale.head?
  | .greatest, v :: vs => ArrayFunction.extremeHalts .gt v vs
  | .least, v :: vs => ArrayFunction.extremeHalts .lt v vs
  | _, args => args.any Value.halts

end NumberFunction
end RowSql
