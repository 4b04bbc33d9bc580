import RowSql.Number.DecimalText
/-!
# Binary — floats as exact numbers

A finite float is `± m · 2^q` for a natural `m` and an integer `q`.  What this library computes with floats
beyond the machine's own operations is computed on `m` and `q`: the integral part, the remainder, and the fewest
decimal digits that read back (`RowSql.Number.Shortest`).
-/
namespace RowSql

/-- **The exact value of a finite float**: `± mantissa · 2 ^ exponent`. -/
structure Binary where
  negative : Bool
  mantissa : Nat
  exponent : Int
  /-- The next float toward zero is only half as far away as the next one from zero. -/
  narrowBelow : Bool
deriving Repr

namespace Binary

/-- The number of explicit bits of a mantissa. -/
def fractionBits : Nat := 52

/-- The exponent of the least positive float. -/
def leastExponent : Int := -1074

/-- The exact value of a float, unless it is infinite or not a number. -/
def ofFloat? (x : Float) : Option Binary :=
  let bits := x.toBits.toNat
  let fraction := bits % Nat.pow 2 fractionBits
  let biased := bits / Nat.pow 2 fractionBits % Nat.pow 2 11
  let negative := bits / Nat.pow 2 63 == 1
  if biased = 2047 then none
  else if biased = 0 then some ⟨negative, fraction, leastExponent, false⟩
  else some ⟨negative, Nat.pow 2 fractionBits + fraction, leastExponent + (biased - 1 : Nat),
    fraction == 0 && 1 < biased⟩

/-- The magnitude in units of `2 ^ e`, for an `e` not above the exponent. -/
def unitsAt (b : Binary) (e : Int) : Nat := b.mantissa * Nat.pow 2 (b.exponent - e).toNat

/-- The integral part, toward zero. -/
def truncate (b : Binary) : Int :=
  let n : Nat := if 0 ≤ b.exponent then b.mantissa * Nat.pow 2 b.exponent.toNat
      else b.mantissa / Nat.pow 2 b.exponent.natAbs
  if b.negative then -(n : Int) else n

/-- The value has no fractional part. -/
def isWhole (b : Binary) : Bool := 0 ≤ b.exponent || b.mantissa % Nat.pow 2 b.exponent.natAbs == 0

/-- `-x` for a set sign. -/
def signed (negative : Bool) (x : Float) : Float := if negative then -x else x

/-- **The float nearest to `m · 10^e`**, a tie to the even mantissa. -/
def nearest (m : Nat) (e : Int) : Float :=
  if m = 0 then 0.0
  else
    let top := e + (Decimal.digitCount m : Nat)
    if 400 < top then 1.0 / 0.0
    else if top < -400 then 0.0
    else if 0 ≤ e then Float.ofScientific m false e.toNat else Float.ofScientific m true e.natAbs

/-- The float nearest to an integer. -/
def nearestInt (n : Int) : Float := signed (n < 0) (nearest n.natAbs 0)

/-- `r · x ^ n` by repeated squaring, the low bits of `n` first, for `n` below `2 ^ fuel`. -/
def powerLoop : Nat → Float → Float → Nat → Float
  | 0, r, _, _ => r
  | fuel + 1, r, x, n =>
    let r := if n % 2 = 1 then r * x else r
    if n / 2 = 0 then r else powerLoop fuel r (x * x) (n / 2)

/-- `x ^ n`, rounded at each step of repeated squaring. -/
def power (x : Float) (n : Nat) : Float := powerLoop (n + 1) 1.0 x n

/-- The word that is the integral part of a float, if it is finite and in range. -/
def truncate? (x : Float) : Option Whole := do Whole.ofInt? (← ofFloat? x).truncate

/-- **The exact remainder** of division toward zero, with the sign of the dividend. -/
def remainder (x y : Float) : Float :=
  match ofFloat? x, ofFloat? y with
  | some a, some b =>
    if b.mantissa = 0 then 0.0 / 0.0
    else
      let e := min a.exponent b.exponent
      signed a.negative ((nearest (a.unitsAt e % b.unitsAt e) 0).scaleB e)
  | some _, none => if y.isNaN then y else x
  | none, _ => 0.0 / 0.0

end Binary

namespace Decimal

/-- **The float of a decimal.**  With places after the point it is the nearest one; a decimal that stands for trailing
zeros is the float of its digits times a power of ten. -/
def toFloat (d : Decimal) : Float :=
  if d.isZero then 0.0
  else if 0 ≤ d.scale then Binary.signed (d.digits < 0) (Binary.nearest d.digits.natAbs (-d.scale))
  else Binary.nearestInt d.digits * Binary.power 10.0 d.scale.natAbs

end Decimal
end RowSql
