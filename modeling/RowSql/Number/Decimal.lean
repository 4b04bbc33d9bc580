import RowSql.Number.Whole
/-!
# Decimal — exact decimal numbers

A decimal is an integer of digits and a scale, and stands for `digits · 10 ^ (-scale)`.  The scale is kept as it was
written, so `1.50` and `1.5` are two decimals of one value.  Sums, differences, products and remainders are exact;
a quotient has a hundred significant digits.
-/
namespace RowSql

/-- **A decimal number**: `digits · 10 ^ (-scale)`. -/
structure Decimal where
  digits : Int
  scale : Int
deriving DecidableEq, Repr, Inhabited

namespace Decimal

def ofInt (n : Int) : Decimal := ⟨n, 0⟩

def ofWhole (w : Whole) : Decimal := ofInt w.toInt

def isZero (d : Decimal) : Bool := d.digits == 0

/-- The number of decimal digits of `n`; zero has one. -/
def digitCount (n : Nat) : Nat := (Nat.toDigits 10 n).length

/-- The digits at scale `s`, for `s` at or above the scale of `d`. -/
def digitsAt (d : Decimal) (s : Int) : Int := d.digits * (Nat.pow 10 (s - d.scale).toNat : Nat)

/-- The same value at scale `s`, for `s` at or above the scale of `d`. -/
def extend (d : Decimal) (s : Int) : Decimal := ⟨d.digitsAt s, s⟩

/-- How a quotient that is not whole becomes a whole number. -/
inductive Rounding where
  /-- To the nearest; a half goes away from zero. -/
  | halfUp
  /-- Toward zero. -/
  | down
  | ceiling
  | floor
deriving DecidableEq, Repr

/-- `n / p` as a whole number, for a positive `p`. -/
def Rounding.quotient (mode : Rounding) (n : Int) (p : Nat) : Int :=
  match mode with
  | .down => n.tdiv p
  | .floor => n / p
  | .ceiling => -(-n / p)
  | .halfUp => n.sign * ((2 * n.natAbs + p) / (2 * p) : Nat)

/-- **The decimal at scale `s`**: zeros are appended above the present scale, and below it `mode` decides. -/
def rescale (mode : Rounding) (d : Decimal) (s : Int) : Decimal :=
  if d.scale ≤ s then d.extend s else ⟨mode.quotient d.digits (Nat.pow 10 (d.scale - s).toNat), s⟩

/-- The integral part, toward zero. -/
def truncate (d : Decimal) : Int := (d.rescale .down 0).digits

/-- The number of digits before the point, zeros of the scale among them, as a word: the number of all digits,
if a word counts them, less the scale.  The difference wraps around. -/
def integralDigits? (d : Decimal) : Option Whole :=
  (Whole.ofInt? (digitCount d.digits.natAbs)).map (· - Int64.ofInt d.scale)

/-- The value has no fractional part. -/
def isWhole (d : Decimal) : Bool := d.scale ≤ 0 || d.digits % (Nat.pow 10 d.scale.toNat : Nat) == 0

def neg (d : Decimal) : Decimal := ⟨-d.digits, d.scale⟩

def abs (d : Decimal) : Decimal := ⟨d.digits.natAbs, d.scale⟩

/-- The most zeros that adding a zero of a larger scale appends. -/
def zeroExtension : Int := 15

/-- `d` after a zero of scale `s` was added to it. -/
def withZero (d : Decimal) (s : Int) : Decimal :=
  d.extend (d.scale + min (max (s - d.scale) 0) zeroExtension)

/-- **The exact sum**, at the larger of the two scales. -/
def add (a b : Decimal) : Decimal :=
  if b.isZero then a.withZero b.scale
  else if a.isZero then b.withZero a.scale
  else
    let s := max a.scale b.scale
    ⟨a.digitsAt s + b.digitsAt s, s⟩

/-- **The exact difference**, scaled as a sum is. -/
def sub (a b : Decimal) : Decimal := a.add b.neg

/-- The number of trailing zeros that may leave `n`, at most `fuel` of them. -/
def stripZeros : Nat → Int → Int → Decimal
  | 0, n, s => ⟨n, s⟩
  | fuel + 1, n, s => if n % 10 == 0 then stripZeros fuel (n / 10) (s - 1) else ⟨n, s⟩

/-- No trailing zero is left, before or after the point; zero is `0` at scale 0. -/
def normalize (d : Decimal) : Decimal :=
  if d.isZero then ⟨0, 0⟩ else stripZeros (digitCount d.digits.natAbs) d.digits d.scale

/-- Trailing zeros after the point are dropped, those before it stay. -/
def trimFraction (d : Decimal) : Decimal := stripZeros d.scale.toNat d.digits d.scale

/-- The number one at scale 0. -/
def isOne (d : Decimal) : Bool := d.digits == 1 && d.scale == 0

/-- **The exact product**; the scales add, but a factor of plain one leaves the other factor without trailing zeros. -/
def mul (a b : Decimal) : Decimal :=
  if a.isOne then b.normalize
  else if b.isOne then a.normalize
  else ⟨a.digits * b.digits, a.scale + b.scale⟩

/-- **The exact remainder** of division toward zero, for a divisor that is not zero. -/
def rem (a b : Decimal) : Decimal :=
  let s := max a.scale b.scale
  ⟨(a.digitsAt s).tmod (b.digitsAt s), s⟩

/-- The number of significant digits of a quotient. -/
def quotientDigits : Nat := 100

/-- The least `t` with `den ≤ num · 10 ^ t`, for positive arguments. -/
def leadShift (num den : Nat) : Nat :=
  let k := digitCount den - digitCount num
  if den ≤ num * Nat.pow 10 k then k else k + 1

/-- `num / den` to `quotientDigits` significant digits, or to its integral digits when they are more, a half upward;
the second component is the scale. -/
def significantQuotient (num den : Nat) : Nat × Nat :=
  let t := leadShift num den
  let lead := num * Nat.pow 10 t / den
  let k := t + (quotientDigits - digitCount lead)
  let n := num * Nat.pow 10 k
  (n / den + (if den ≤ 2 * (n % den) then 1 else 0), k)

/-- The quotient to a hundred significant digits, for a divisor that is not zero. -/
def quotient (a b : Decimal) : Decimal :=
  if a.isZero then ⟨0, a.scale - b.scale⟩
  else
    let (q, k) := significantQuotient a.digits.natAbs b.digits.natAbs
    ⟨a.digits.sign * b.digits.sign * q, a.scale - b.scale + k⟩

/-- The number of places that a quotient keeps. -/
def divisionScale : Int := 16

/-- **The quotient of division**, for a divisor that is not zero: `divisionScale` places, a half away from zero, and
no trailing zero after the point. -/
def div (a b : Decimal) : Decimal := ((a.quotient b).rescale .halfUp divisionScale).trimFraction

/-- **The order of the values**, whatever the scales. -/
def order (a b : Decimal) : Ordering :=
  let s := max a.scale b.scale
  compare (a.digitsAt s) (b.digitsAt s)

/-- The word of the same value, if the decimal is whole and in range. -/
def toWhole? (d : Decimal) : Option Whole := if d.isWhole then Whole.ofInt? d.truncate else none

end Decimal
end RowSql
