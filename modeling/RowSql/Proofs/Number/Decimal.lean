import Mathlib.Algebra.Order.Field.Rat
import Mathlib.Order.Compare
import Mathlib.Tactic.NormNum
import RowSql.Number.Decimal
/-!
# Decimal — the numbers that decimals stand for

The order of two decimals is that of their values: at a scale that is at least both of theirs, the digits of
each are its value times one power of ten (`digitsAt_cast`).  The word of a decimal that has one is its value
(`value_of_toWhole?`).
-/
namespace RowSql
namespace Decimal

/-- **The number that a decimal stands for.** -/
def value (d : Decimal) : ℚ := d.digits * 10 ^ (-d.scale)

@[simp]
theorem value_ofInt (n : Int) : (ofInt n).value = n := by simp [value, ofInt]

@[simp]
theorem value_ofWhole (w : Whole) : (ofWhole w).value = w.toInt := value_ofInt _

theorem digitsAt_cast {d : Decimal} {s : Int} (h : d.scale ≤ s) : (d.digitsAt s : ℚ) = d.value * 10 ^ s := by
  have hs : ((s - d.scale).toNat : Int) = s - d.scale := Int.toNat_of_nonneg (by omega)
  have hpow : ((Nat.pow 10 (s - d.scale).toNat : Nat) : ℚ) = 10 ^ (-d.scale) * 10 ^ s := by
    rw [← zpow_add₀ (by norm_num), neg_add_eq_sub, ← hs, zpow_natCast, Int.toNat_natCast]
    exact Nat.cast_pow 10 _
  rw [digitsAt, value, mul_assoc, ← hpow]
  push_cast
  rfl

/-- **The order of decimals is the order of their values.** -/
theorem order_eq_compare (a b : Decimal) : a.order b = compare a.value b.value := by
  have ha := digitsAt_cast (le_max_left a.scale b.scale)
  have hb := digitsAt_cast (le_max_right a.scale b.scale)
  have hscale : StrictMono fun q : ℚ => q * 10 ^ max a.scale b.scale :=
    fun _ _ h => mul_lt_mul_of_pos_right h (zpow_pos (by norm_num) _)
  rw [order, ← cmp_eq_compare, ← cmp_eq_compare, ← Int.cast_strictMono.cmp_map_eq (α := Int) (β := ℚ), ha, hb,
    hscale.cmp_map_eq]

/-- **A decimal without a fractional part is its integral part.** -/
theorem truncate_of_isWhole {d : Decimal} (h : d.isWhole = true) : (d.truncate : ℚ) = d.value := by
  rw [truncate, rescale]
  split
  · rename_i hs
    have hcast := digitsAt_cast hs
    rwa [zpow_zero, mul_one] at hcast
  · rename_i hs
    obtain ⟨k, hk⟩ : ∃ k : Nat, d.scale = k := ⟨d.scale.toNat, by omega⟩
    have hdvd : ((Nat.pow 10 k : Nat) : Int) ∣ d.digits := by
      rw [isWhole, hk] at h
      simp only [Int.toNat_natCast, Bool.or_eq_true, decide_eq_true_eq, beq_iff_eq] at h
      exact Int.dvd_of_emod_eq_zero (h.resolve_left (by omega))
    obtain ⟨m, hm⟩ := hdvd
    have hpow : ((Nat.pow 10 k : Nat) : Int) ≠ 0 := by
      exact_mod_cast (Nat.pow_pos (by decide) : 0 < 10 ^ k).ne'
    have hquotient : Rounding.quotient .down d.digits (Nat.pow 10 (d.scale - 0).toNat) = m := by
      rw [hk, sub_zero, Int.toNat_natCast, hm, Rounding.quotient, Int.mul_tdiv_cancel_left _ hpow]
    dsimp only
    rw [hquotient, value, hm, hk, zpow_neg, zpow_natCast]
    have hten : ((10 : ℚ) ^ k) ≠ 0 := pow_ne_zero _ (by norm_num)
    have hcast : (((Nat.pow 10 k : Nat) : Int) : ℚ) = 10 ^ k := by
      exact_mod_cast rfl
    rw [Int.cast_mul, hcast, mul_comm ((10 : ℚ) ^ k), mul_assoc, mul_inv_cancel₀ hten, mul_one]

theorem value_of_toWhole? {d : Decimal} {w : Whole} (h : d.toWhole? = some w) : d.value = w.toInt := by
  unfold toWhole? at h
  split at h
  · rename_i hwhole
    rw [Whole.toInt_ofInt? h, truncate_of_isWhole hwhole]
  · cases h

end Decimal
end RowSql
