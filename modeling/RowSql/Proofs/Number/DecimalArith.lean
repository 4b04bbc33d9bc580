import Mathlib.Data.Rat.Floor
import Mathlib.Tactic.FieldSimp
import Mathlib.Tactic.Ring
import RowSql.Proofs.Number.Decimal
/-!
# DecimalArith — the numbers of sums, products and remainders

Sums, differences, products and remainders of decimals are exact, whatever the scales of the operands are: at a
scale that is at least both of theirs the digits of each are its value times one power of ten.
-/
namespace RowSql
namespace Decimal

/-- The integral part of a number, toward zero. -/
def integralPart (q : ℚ) : ℤ := if 0 ≤ q then ⌊q⌋ else ⌈q⌉

theorem ten_zpow_ne_zero (n : ℤ) : (10 : ℚ) ^ n ≠ 0 := zpow_ne_zero n (by norm_num)

theorem ten_zpow_pos (s : Int) : (0 : ℚ) < 10 ^ s := zpow_pos (by norm_num) s

theorem value_eq_div (d : Decimal) : d.value = d.digits / 10 ^ d.scale := by
  rw [value, zpow_neg, div_eq_mul_inv]

/-- Digits at a scale that are a number times a power of ten stand for that number. -/
theorem value_of_digits_eq {n s : Int} {q : ℚ} (h : (n : ℚ) = q * 10 ^ s) : (⟨n, s⟩ : Decimal).value = q := by
  rw [value_eq_div, h, mul_div_cancel_right₀ _ (ten_zpow_ne_zero s)]

theorem value_eq_zero_iff (d : Decimal) : d.value = 0 ↔ d.isZero = true := by
  rw [value, mul_eq_zero, or_iff_left (ten_zpow_ne_zero _), Int.cast_eq_zero, isZero, beq_iff_eq]

theorem value_extend {d : Decimal} {s : Int} (h : d.scale ≤ s) : (d.extend s).value = d.value :=
  value_of_digits_eq (digitsAt_cast h)

theorem value_withZero (d : Decimal) (s : Int) : (d.withZero s).value = d.value := by
  refine value_extend ?_
  have hextension : 0 ≤ min (max (s - d.scale) 0) zeroExtension := le_min (le_max_right _ _) (by decide)
  omega

theorem value_neg (d : Decimal) : d.neg.value = -d.value := by
  rw [value, value, neg, Int.cast_neg, neg_mul]

/-- **The sum is exact.** -/
theorem value_add (a b : Decimal) : (a.add b).value = a.value + b.value := by
  unfold add
  split
  · rename_i hb
    rw [value_withZero, (value_eq_zero_iff b).2 hb, add_zero]
  · split
    · rename_i ha
      rw [value_withZero, (value_eq_zero_iff a).2 ha, zero_add]
    · refine value_of_digits_eq ?_
      rw [Int.cast_add, digitsAt_cast (le_max_left _ _), digitsAt_cast (le_max_right _ _), add_mul]

theorem value_sub (a b : Decimal) : (a.sub b).value = a.value - b.value := by
  rw [sub, value_add, value_neg, sub_eq_add_neg]

theorem value_stripZeros : ∀ (fuel : Nat) (n s : Int), (stripZeros fuel n s).value = (⟨n, s⟩ : Decimal).value
  | 0, n, s => rfl
  | fuel + 1, n, s => by
    rw [stripZeros]
    split
    · rename_i hten
      have hdvd : n = n / 10 * 10 := (Int.ediv_mul_cancel (Int.dvd_of_emod_eq_zero (eq_of_beq hten))).symm
      have hn : (n : ℚ) = ((n / 10 : ℤ) : ℚ) * 10 := by exact_mod_cast congrArg (Int.cast (R := ℚ)) hdvd
      rw [value_stripZeros fuel, value_eq_div, value_eq_div]
      dsimp only
      rw [zpow_sub_one₀ (by norm_num), hn]
      field_simp
    · rfl

theorem value_normalize (d : Decimal) : d.normalize.value = d.value := by
  unfold normalize
  split
  · rename_i hzero
    rw [(value_eq_zero_iff d).2 hzero]
    exact value_ofInt 0
  · exact value_stripZeros _ _ _

theorem value_of_isOne {d : Decimal} (h : d.isOne = true) : d.value = 1 := by
  rw [isOne, Bool.and_eq_true, beq_iff_eq, beq_iff_eq] at h
  simp [value, h.1, h.2]

/-- **The product is exact.** -/
theorem value_mul (a b : Decimal) : (a.mul b).value = a.value * b.value := by
  unfold mul
  split
  · rename_i ha
    rw [value_normalize, value_of_isOne ha, one_mul]
  · split
    · rename_i hb
      rw [value_normalize, value_of_isOne hb, mul_one]
    · rw [value_eq_div, value_eq_div, value_eq_div]
      dsimp only
      rw [zpow_add₀ (by norm_num), Int.cast_mul, mul_div_mul_comm]

theorem integralPart_neg (q : ℚ) : integralPart (-q) = -integralPart q := by
  unfold integralPart
  rcases lt_trichotomy q 0 with hq | rfl | hq
  · rw [if_pos (neg_nonneg.2 hq.le), if_neg (not_le.2 hq), Int.floor_neg]
  · simp
  · rw [if_neg (not_le.2 (neg_neg_of_pos hq)), if_pos hq.le, Int.ceil_neg]

theorem integralPart_natCast_div (m n : Nat) : integralPart ((m : ℚ) / n) = (m : Int) / n := by
  rw [integralPart, if_pos (div_nonneg m.cast_nonneg n.cast_nonneg)]
  exact Rat.floor_natCast_div_natCast m n

/-- The quotient of integers toward zero is the integral part of their quotient as numbers. -/
theorem tdiv_eq_integralPart (m n : Int) : m.tdiv n = integralPart (m / n) := by
  obtain ⟨a, rfl | rfl⟩ := m.eq_nat_or_neg <;> obtain ⟨b, rfl | rfl⟩ := n.eq_nat_or_neg
  · rw [Int.cast_natCast, Int.cast_natCast, integralPart_natCast_div]
    rfl
  · rw [Int.tdiv_neg, Int.cast_neg, Int.cast_natCast, Int.cast_natCast, div_neg, integralPart_neg,
      integralPart_natCast_div]
    rfl
  · rw [Int.neg_tdiv, Int.cast_neg, Int.cast_natCast, Int.cast_natCast, neg_div, integralPart_neg,
      integralPart_natCast_div]
    rfl
  · rw [Int.neg_tdiv, Int.tdiv_neg, neg_neg, Int.cast_neg, Int.cast_neg, Int.cast_natCast, Int.cast_natCast,
      neg_div_neg_eq, integralPart_natCast_div]
    rfl

/-- **The remainder is exact**: the multiple of the divisor toward zero is taken off. -/
theorem value_rem (a b : Decimal) :
    (a.rem b).value = a.value - b.value * integralPart (a.value / b.value) := by
  have hten := ten_zpow_ne_zero (max a.scale b.scale)
  have hratio : a.value / b.value = (a.digitsAt (max a.scale b.scale) : ℚ) / b.digitsAt (max a.scale b.scale) := by
    rw [digitsAt_cast (le_max_left _ _), digitsAt_cast (le_max_right _ _), mul_div_mul_right _ _ hten]
  refine value_of_digits_eq ?_
  rw [Int.tmod_def, tdiv_eq_integralPart, ← hratio, Int.cast_sub, Int.cast_mul, digitsAt_cast (le_max_left _ _),
    digitsAt_cast (le_max_right _ _)]
  ring

end Decimal
end RowSql
