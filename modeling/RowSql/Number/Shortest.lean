import RowSql.Number.Binary
/-!
# Shortest — the fewest decimal digits that read back

A decimal reads back to a float when it lies in the interval of the reals that round to it: from halfway to the
neighbour below to halfway to the neighbour above, ends included exactly when the mantissa is even.
`Shortest.select` takes the coarsest decimal grid that has a point in the interval, and on it the point nearest
to the float.
-/
namespace RowSql
namespace Shortest

/-- The value `m · 2^q` as a fraction with the denominator that makes the ends of its interval whole: numerators of the
value, of the distance to the lower end and to the upper end. -/
structure Interval where
  value : Nat
  below : Nat
  above : Nat
  den : Nat
  closed : Bool

/-- **The reals that round to a float.** -/
def interval (b : Binary) : Interval :=
  let up := Nat.pow 2 (b.exponent - 2).toNat
  ⟨4 * b.mantissa * up, (if b.narrowBelow then 1 else 2) * up, 2 * up, Nat.pow 2 (2 - b.exponent).toNat,
    b.mantissa % 2 == 0⟩

/-- Whether `d · 10^k` lies in the interval. -/
def Interval.contains (i : Interval) (d : Nat) (k : Int) : Bool :=
  let x := d * Nat.pow 10 k.toNat * i.den
  let unit := Nat.pow 10 (-k).toNat
  let low := (i.value - i.below) * unit
  let high := (i.value + i.above) * unit
  if i.closed then decide (low ≤ x ∧ x ≤ high) else decide (low < x ∧ x < high)

/-- `value < 10^k`. -/
def Interval.isBelowPower (i : Interval) (k : Int) : Bool :=
  i.value * Nat.pow 10 (-k).toNat < Nat.pow 10 k.toNat * i.den

/-- The least of `k, k + 1, …` whose power of ten is above the value, looking `fuel` steps ahead. -/
def leastPower (i : Interval) : Nat → Int → Int
  | 0, k => k
  | fuel + 1, k => if i.isBelowPower k then k else leastPower i fuel (k + 1)

/-- What to do with a value exactly between two grid points. -/
inductive Tie where
  | up
  | toEven
deriving DecidableEq

/-- Whether the point above `d` is to be taken rather than `d`, when both are in the interval. -/
def Interval.prefersAbove (i : Interval) (tie : Tie) (d : Nat) (k : Int) : Bool :=
  let middle := (2 * d + 1) * Nat.pow 10 k.toNat * i.den
  let twice := 2 * i.value * Nat.pow 10 (-k).toNat
  match tie with
  | .up => middle ≤ twice
  | .toEven => middle < twice || (middle == twice && d % 2 == 1)

/-- The point of the grid of step `10^k` that is in the interval and nearest to the value, if there is one. -/
def onGrid (i : Interval) (tie : Tie) (k : Int) : Option Nat :=
  let d := i.value * Nat.pow 10 (-k).toNat / (Nat.pow 10 k.toNat * i.den)
  match d != 0 && i.contains d k, i.contains (d + 1) k with
  | true, true => some (if i.prefersAbove tie d k then d + 1 else d)
  | true, false => some d
  | false, true => some (d + 1)
  | false, false => none

/-- The first grid with a point in the interval, from step `10^k` to finer ones. -/
def search (i : Interval) (tie : Tie) : Nat → Int → Option (Nat × Int)
  | 0, _ => none
  | fuel + 1, k =>
    match onGrid i tie k with
    | some d => some (d, k)
    | none => search i tie fuel (k - 1)

/-- The most digits that a float needs. -/
def mostDigits : Nat := 17

/-- **The fewest digits of a positive float**: `(d, k)` stands for `d · 10^k`, and `d` has no trailing zero. -/
def select (tie : Tie) (b : Binary) : Nat × Int :=
  let i := interval b
  let top := leastPower i 5 (((b.mantissa.log2 : Int) + b.exponent) * 30103 / 100000 - 1)
  let (d, k) := (search i tie mostDigits (top - 1)).getD (b.mantissa * Nat.pow 5 b.exponent.natAbs, b.exponent)
  let s := Decimal.stripZeros (Decimal.digitCount d) d (-k)
  (s.digits.toNat, -s.scale)

end Shortest
end RowSql
