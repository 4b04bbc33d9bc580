import RowSql.Number.Binary
/-!
# CubeRoot — the float nearest to a cube root

The magnitude is scaled by a power of eight to a natural of more than 171 bits, so that the integral part of its
root has more bits than a float.  One bit more says whether the root is that integer, which is all that rounding
asks for: no cube root of a float lies halfway between two floats.
-/
namespace RowSql
namespace Binary

/-- The greatest `r` with `r ^ 3 ≤ n` that agrees with `r` above its `bits` low bits. -/
def rootFrom (n : Nat) : Nat → Nat → Nat
  | 0, r => r
  | bits + 1, r => rootFrom n bits (if Nat.pow (r + Nat.pow 2 bits) 3 ≤ n then r + Nat.pow 2 bits else r)

/-- The integral part of the cube root of a natural below `2 ^ 240`. -/
def root (n : Nat) : Nat := rootFrom n 80 0

/-- **The float nearest to the cube root.** -/
def cubeRoot (x : Float) : Float :=
  match ofFloat? x with
  | none => x
  | some b =>
    if b.mantissa = 0 then x
    else
      let up := 171 + (b.exponent % 3).toNat
      let n := b.mantissa * Nat.pow 2 up
      let r := root n
      let twice := 2 * r + if Nat.pow r 3 = n then 0 else 1
      signed b.negative ((nearest twice 0).scaleB ((b.exponent - up) / 3 - 1))

end Binary
end RowSql
