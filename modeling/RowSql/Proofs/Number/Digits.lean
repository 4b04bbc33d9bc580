import RowSql.Proofs.Number.DecimalArith
/-!
# Digits — how many digits numbers have

The number of decimal digits bounds a number from both sides by powers of ten, and the number of digits before
the point bounds the value of a decimal in the same way, whatever its scale is.  From below that leaves out
zero, which has one digit.
-/
namespace RowSql
namespace Decimal

theorem digitCount_le_iff {n k : Nat} (hk : 0 < k) : digitCount n ≤ k ↔ n < 10 ^ k :=
  Nat.length_toDigits_le_iff (by decide) hk

theorem digitCount_pos (n : Nat) : 0 < digitCount n := Nat.length_toDigits_pos

theorem lt_pow_digitCount (n : Nat) : n < 10 ^ digitCount n := (digitCount_le_iff (digitCount_pos n)).1 le_rfl

theorem pow_digitCount_le {n : Nat} (hn : n ≠ 0) : 10 ^ (digitCount n - 1) ≤ n := by
  rcases Nat.eq_zero_or_pos (digitCount n - 1) with hone | hmore
  · rw [hone, pow_zero]
    omega
  · refine not_lt.1 fun hlt => ?_
    have hle := (digitCount_le_iff hmore).2 hlt
    omega

theorem abs_value (d : Decimal) : |d.value| = d.digits.natAbs / 10 ^ d.scale := by
  rw [value_eq_div, abs_div, abs_of_pos (ten_zpow_pos d.scale), Nat.cast_natAbs, Int.cast_abs]

/-- The number of integral digits bounds a value from above. -/
theorem abs_value_lt (d : Decimal) : |d.value| < 10 ^ (digitCount d.digits.natAbs - d.scale) := by
  rw [abs_value, zpow_sub₀ (by norm_num), zpow_natCast]
  refine div_lt_div_of_pos_right ?_ (ten_zpow_pos d.scale)
  exact_mod_cast lt_pow_digitCount d.digits.natAbs

/-- The number of integral digits bounds a value from below, unless it is zero. -/
theorem pow_le_abs_value {d : Decimal} (hd : d.digits ≠ 0) :
    10 ^ (digitCount d.digits.natAbs - d.scale - 1) ≤ |d.value| := by
  have hcount := digitCount_pos d.digits.natAbs
  have hexponent : (digitCount d.digits.natAbs : Int) - d.scale - 1 =
      (digitCount d.digits.natAbs - 1 : Nat) - d.scale := by omega
  rw [abs_value, hexponent, zpow_sub₀ (by norm_num), zpow_natCast]
  refine div_le_div_of_nonneg_right ?_ (ten_zpow_pos d.scale).le
  exact_mod_cast pow_digitCount_le (Int.natAbs_ne_zero.2 hd)

end Decimal
end RowSql
