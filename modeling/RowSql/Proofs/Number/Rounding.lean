import Mathlib.Tactic.Linarith
import RowSql.Proofs.Number.DecimalArith
/-!
# Rounding — the multiples that decimals are rounded to

Rounding to a scale `s` gives a multiple of `10 ^ (-s)`, and which one is said without digits: the nearest one,
of two the one farther from zero (`IsNearest`), or the nearest one on the way to zero (`IsTowardZero`).  What
rounding makes of a decimal depends on its value only (`value_rescale`), since a rounded quotient of integers
depends on their ratio only (`quotient_eq_whole`).
-/
namespace RowSql
namespace Decimal

/-- A multiple of `10 ^ (-s)`. -/
def IsMultiple (s : Int) (z : ℚ) : Prop := ∃ n : ℤ, z = n / 10 ^ s

/-- **The multiple of `10 ^ (-s)` that is nearest to `x` toward zero.** -/
structure IsTowardZero (s : Int) (x z : ℚ) : Prop where
  multiple : IsMultiple s z
  between : z ∈ Set.uIcc 0 x
  nearest : ∀ y, IsMultiple s y → y ∈ Set.uIcc 0 x → |x - z| ≤ |x - y|

/-- **The multiple of `10 ^ (-s)` that is nearest to `x`**; of two that are, the one away from zero. -/
structure IsNearest (s : Int) (x z : ℚ) : Prop where
  multiple : IsMultiple s z
  nearest : ∀ y, IsMultiple s y → |x - z| ≤ |x - y|
  away : ∀ y, IsMultiple s y → |x - y| = |x - z| → |y| ≤ |z|

/-! ## Whole numbers -/

theorem integralPart_intCast (n : ℤ) : integralPart n = n := by
  unfold integralPart
  split
  · exact Int.floor_intCast n
  · exact Int.ceil_intCast n

/-- On the way from a number to zero no whole number comes before its integral part. -/
theorem integralPart_nearest (q : ℚ) :
    (integralPart q : ℚ) ∈ Set.uIcc 0 q ∧ ∀ k : ℤ, (k : ℚ) ∈ Set.uIcc 0 q → |q - integralPart q| ≤ |q - k| := by
  unfold integralPart
  rcases le_or_gt 0 q with hq | hq
  · rw [if_pos hq, Set.uIcc_of_le hq]
    refine ⟨⟨by exact_mod_cast Int.floor_nonneg.2 hq, Int.floor_le q⟩, fun k hk => ?_⟩
    have hle : (k : ℚ) ≤ ⌊q⌋ := by exact_mod_cast Int.le_floor.2 hk.2
    rw [abs_of_nonneg (by linarith [Int.floor_le q]), abs_of_nonneg (by linarith [hk.2])]
    linarith
  · rw [if_neg hq.not_ge, Set.uIcc_of_ge hq.le]
    refine ⟨⟨Int.le_ceil q, by exact_mod_cast Int.ceil_le.2 (by exact_mod_cast hq.le)⟩, fun k hk => ?_⟩
    have hle : (⌈q⌉ : ℚ) ≤ k := by exact_mod_cast Int.ceil_le.2 hk.1
    rw [abs_of_nonpos (by linarith [Int.le_ceil q]), abs_of_nonpos (by linarith [hk.1])]
    linarith

theorem abs_integralPart_le (q : ℚ) : |(integralPart q : ℚ)| ≤ |q| := by
  obtain ⟨hbetween, -⟩ := integralPart_nearest q
  rcases Set.mem_uIcc.1 hbetween with ⟨hlow, hhigh⟩ | ⟨hlow, hhigh⟩
  · rw [abs_of_nonneg hlow, abs_of_nonneg (hlow.trans hhigh)]
    exact hhigh
  · rw [abs_of_nonpos hhigh, abs_of_nonpos (hlow.trans hhigh)]
    exact neg_le_neg hlow

theorem le_abs_integralPart {q : ℚ} {k : ℤ} (h : (k : ℚ) ≤ |q|) : k ≤ |integralPart q| := by
  unfold integralPart
  rcases le_or_gt 0 q with hq | hq
  · rw [abs_of_nonneg hq] at h
    rw [if_pos hq]
    exact (Int.le_floor.2 h).trans (le_abs_self _)
  · rw [abs_of_neg hq] at h
    rw [if_neg hq.not_ge]
    have hceil : ⌈q⌉ ≤ -k := Int.ceil_le.2 (by push_cast; linarith)
    exact (le_neg.1 hceil).trans (neg_le_abs _)

/-- The whole number nearest to a number; a half goes away from zero. -/
def nearestWhole (q : ℚ) : ℤ := if 0 ≤ q then ⌊q + 1 / 2⌋ else ⌈q - 1 / 2⌉

theorem nearestWhole_intCast (n : ℤ) : nearestWhole n = n := by
  have hup : ⌊(n : ℚ) + 1 / 2⌋ = n := Int.floor_eq_iff.2 ⟨by linarith, by linarith⟩
  have hdown : ⌈(n : ℚ) - 1 / 2⌉ = n := Int.ceil_eq_iff.2 ⟨by linarith, by linarith⟩
  rw [nearestWhole, hup, hdown, ite_self]

theorem nearestWhole_neg (q : ℚ) : nearestWhole (-q) = -nearestWhole q := by
  unfold nearestWhole
  rcases lt_trichotomy q 0 with hq | rfl | hq
  · rw [if_pos (neg_nonneg.2 hq.le), if_neg hq.not_ge, ← Int.floor_neg, neg_sub, sub_eq_neg_add, add_comm]
  · norm_num
  · rw [if_neg (neg_neg_of_pos hq).not_ge, if_pos hq.le, ← Int.ceil_neg, neg_add, sub_eq_add_neg]

theorem nearestWhole_nonneg {q : ℚ} (hq : 0 ≤ q) : 0 ≤ nearestWhole q := by
  rw [nearestWhole, if_pos hq]
  exact Int.floor_nonneg.2 (by linarith)

theorem abs_sub_nearestWhole_le_half (q : ℚ) : |q - nearestWhole q| ≤ 1 / 2 := by
  unfold nearestWhole
  split
  · exact abs_le.2 ⟨by linarith [Int.floor_le (q + 1 / 2)], by linarith [Int.lt_floor_add_one (q + 1 / 2)]⟩
  · exact abs_le.2 ⟨by linarith [Int.ceil_lt_add_one (q - 1 / 2)], by linarith [Int.le_ceil (q - 1 / 2)]⟩

theorem abs_sub_nearestWhole_le (q : ℚ) (k : ℤ) : |q - nearestWhole q| ≤ |q - k| := by
  rcases eq_or_ne k (nearestWhole q) with rfl | hne
  · rfl
  have hstep : (1 : ℚ) ≤ |(nearestWhole q : ℚ) - k| := by
    exact_mod_cast Int.one_le_abs (sub_ne_zero.2 hne.symm)
  have hhalf := abs_sub_nearestWhole_le_half q
  have htriangle := abs_sub_le (nearestWhole q : ℚ) q k
  rw [abs_sub_comm (nearestWhole q : ℚ) q] at htriangle
  linarith

/-- No whole number that is as near lies farther from zero: it would be a step above a number that rounded up. -/
theorem abs_le_nearestWhole_of_nonneg {q : ℚ} (hq : 0 ≤ q) {k : ℤ} (h : |q - k| = |q - nearestWhole q|) :
    |k| ≤ |nearestWhole q| := by
  have hw := nearestWhole_nonneg hq
  have habove : q < nearestWhole q + 1 / 2 := by
    rw [nearestWhole, if_pos hq]
    linarith [Int.lt_floor_add_one (q + 1 / 2)]
  have hhalf := abs_sub_nearestWhole_le_half q
  rw [abs_of_nonneg hw]
  refine abs_le.2 ⟨?_, ?_⟩
  all_goals by_contra hlt
  · have hk : (k : ℚ) + 1 ≤ -nearestWhole q := by exact_mod_cast not_le.1 hlt
    have hcast : (0 : ℚ) ≤ nearestWhole q := by exact_mod_cast hw
    have hfar := le_abs_self (q - k)
    linarith
  · have hk : (nearestWhole q : ℚ) + 1 ≤ k := by exact_mod_cast not_le.1 hlt
    have hfar := neg_abs_le (q - k)
    linarith

theorem abs_le_nearestWhole {q : ℚ} {k : ℤ} (h : |q - k| = |q - nearestWhole q|) : |k| ≤ |nearestWhole q| := by
  rcases le_or_gt 0 q with hq | hq
  · exact abs_le_nearestWhole_of_nonneg hq h
  · have hneg : |-q - ((-k : ℤ) : ℚ)| = |-q - nearestWhole (-q)| := by
      rw [nearestWhole_neg, Int.cast_neg, Int.cast_neg, ← neg_sub', ← neg_sub', abs_neg, abs_neg, h]
    have hle := abs_le_nearestWhole_of_nonneg (neg_nonneg.2 hq.le) hneg
    rwa [nearestWhole_neg, abs_neg, abs_neg] at hle

theorem floor_le_nearestWhole (q : ℚ) : ⌊q⌋ ≤ nearestWhole q := by
  unfold nearestWhole
  split
  · exact Int.floor_mono (by linarith)
  · have hlt : ⌊q⌋ - 1 < ⌈q - 1 / 2⌉ := Int.lt_ceil.2 (by push_cast; linarith [Int.floor_le q])
    omega

theorem nearestWhole_le_ceil (q : ℚ) : nearestWhole q ≤ ⌈q⌉ := by
  have hle := floor_le_nearestWhole (-q)
  rw [nearestWhole_neg, Int.floor_neg] at hle
  exact neg_le_neg_iff.1 hle

/-- **The whole number that a number is rounded to.** -/
def Rounding.whole (mode : Rounding) (q : ℚ) : ℤ :=
  match mode with
  | .halfUp => nearestWhole q
  | .down => integralPart q
  | .ceiling => ⌈q⌉
  | .floor => ⌊q⌋

theorem Rounding.whole_intCast (mode : Rounding) (n : ℤ) : mode.whole n = n := by
  cases mode with
  | halfUp => exact nearestWhole_intCast n
  | down => exact integralPart_intCast n
  | ceiling => exact Int.ceil_intCast n
  | floor => exact Int.floor_intCast n

theorem nearestWhole_natCast_div (m : Nat) {p : Nat} (hp : 0 < p) :
    nearestWhole ((m : ℚ) / p) = ((2 * m + p) / (2 * p) : Nat) := by
  have hratio : (m : ℚ) / p + 1 / 2 = ((2 * m + p : Nat) : ℚ) / (2 * p : Nat) := by
    have hne : (p : ℚ) ≠ 0 := by exact_mod_cast hp.ne'
    push_cast
    field_simp
  rw [nearestWhole, if_pos (div_nonneg m.cast_nonneg p.cast_nonneg), hratio, Rat.floor_natCast_div_natCast]
  rfl

theorem Rounding.quotient_halfUp_natCast (m : Nat) {p : Nat} (hp : 0 < p) :
    Rounding.halfUp.quotient m p = ((2 * m + p) / (2 * p) : Nat) := by
  rcases Nat.eq_zero_or_pos m with rfl | hm
  · rw [Nat.mul_zero, Nat.zero_add, Nat.div_eq_of_lt (by omega), quotient, Nat.cast_zero, Int.sign_zero, zero_mul]
  · rw [quotient, Int.sign_eq_one_of_pos (by exact_mod_cast hm), one_mul, Int.natAbs_natCast]

theorem Rounding.quotient_halfUp_neg (n : Int) (p : Nat) :
    Rounding.halfUp.quotient (-n) p = -Rounding.halfUp.quotient n p := by
  rw [quotient, quotient, Int.sign_neg, Int.natAbs_neg, neg_mul]

/-- **A rounded quotient of integers is their ratio, rounded.** -/
theorem Rounding.quotient_eq_whole (mode : Rounding) (n : Int) {p : Nat} (hp : 0 < p) :
    mode.quotient n p = mode.whole ((n : ℚ) / p) := by
  cases mode with
  | down => exact (tdiv_eq_integralPart n p).trans (by rw [Int.cast_natCast]; rfl)
  | floor => exact (Rat.floor_intCast_div_natCast n p).symm
  | ceiling => exact (Rat.ceil_intCast_div_natCast n p).symm
  | halfUp =>
    obtain ⟨m, rfl | rfl⟩ := n.eq_nat_or_neg
    · rw [quotient_halfUp_natCast m hp, whole, Int.cast_natCast, nearestWhole_natCast_div m hp]
    · rw [quotient_halfUp_neg, quotient_halfUp_natCast m hp, whole, Int.cast_neg, Int.cast_natCast, neg_div,
        nearestWhole_neg, nearestWhole_natCast_div m hp]

/-! ## Multiples of powers of ten -/

/-- **The multiple of `10 ^ (-s)` that a number is rounded to.** -/
def Rounding.toScale (mode : Rounding) (s : Int) (x : ℚ) : ℚ := mode.whole (x * 10 ^ s) / 10 ^ s

theorem Rounding.toScale_zero (mode : Rounding) (x : ℚ) : mode.toScale 0 x = mode.whole x := by
  rw [toScale, zpow_zero, mul_one, div_one]

/-- A number that is rounded stays as it is when it is rounded again. -/
theorem Rounding.toScale_toScale (mode : Rounding) (s : Int) (x : ℚ) :
    mode.toScale s (mode.toScale s x) = mode.toScale s x := by
  rw [toScale, toScale, div_mul_cancel₀ _ (ten_zpow_ne_zero s), whole_intCast]

theorem Rounding.toScale_neg {mode : Rounding} (h : ∀ q, mode.whole (-q) = -mode.whole q) (s : Int) (x : ℚ) :
    mode.toScale s (-x) = -mode.toScale s x := by
  rw [toScale, toScale, neg_mul, h, Int.cast_neg, neg_div]

theorem scale_rescale (mode : Rounding) (d : Decimal) (s : Int) : (d.rescale mode s).scale = s := by
  unfold rescale
  split <;> rfl

/-- **What a decimal is rounded to is its value, rounded.** -/
theorem value_rescale (mode : Rounding) (d : Decimal) (s : Int) :
    (d.rescale mode s).value = mode.toScale s d.value := by
  rw [rescale, Rounding.toScale]
  split
  · rename_i hs
    rw [value_extend hs, ← digitsAt_cast hs, Rounding.whole_intCast, digitsAt_cast hs,
      mul_div_cancel_right₀ _ (ten_zpow_ne_zero s)]
  · rename_i hs
    obtain ⟨k, hk⟩ : ∃ k : Nat, d.scale = s + k := ⟨(d.scale - s).toNat, by omega⟩
    have hpow : ((Nat.pow 10 (d.scale - s).toNat : Nat) : ℚ) = 10 ^ d.scale / 10 ^ s := by
      rw [hk, add_sub_cancel_left, Int.toNat_natCast, zpow_add₀ (by norm_num), zpow_natCast,
        mul_div_cancel_left₀ _ (ten_zpow_ne_zero s)]
      exact Nat.cast_pow 10 k
    have hratio : d.value * 10 ^ s = d.digits / (Nat.pow 10 (d.scale - s).toNat : Nat) := by
      rw [hpow, value_eq_div, div_div_eq_mul_div, div_mul_eq_mul_div]
    have hpos : 0 < Nat.pow 10 (d.scale - s).toNat := Nat.pow_pos (by decide)
    rw [hratio, ← Rounding.quotient_eq_whole mode d.digits hpos, value_eq_div]

/-- The integral part of a decimal is that of its value. -/
theorem truncate_eq_integralPart (d : Decimal) : d.truncate = integralPart d.value := by
  have hvalue := value_rescale .down d 0
  rw [Rounding.toScale_zero, value_eq_div, scale_rescale, zpow_zero, div_one] at hvalue
  exact_mod_cast hvalue

/-! ## The nearest multiples -/

theorem abs_sub_div_zpow (s : Int) (x y : ℚ) : |x - y / 10 ^ s| = |x * 10 ^ s - y| / 10 ^ s := by
  have hpos := ten_zpow_pos s
  rw [← abs_of_pos hpos, ← abs_div, abs_of_pos hpos, sub_div, mul_div_cancel_right₀ _ hpos.ne']

theorem div_zpow_mem_uIcc {s : Int} {x y : ℚ} : y / 10 ^ s ∈ Set.uIcc 0 x ↔ y ∈ Set.uIcc 0 (x * 10 ^ s) := by
  have hpos := ten_zpow_pos s
  rw [Set.mem_uIcc, Set.mem_uIcc, div_le_iff₀ hpos, le_div_iff₀ hpos, le_div_iff₀ hpos, div_le_iff₀ hpos, zero_mul]

theorem isTowardZero_toScale (s : Int) (x : ℚ) : IsTowardZero s x (Rounding.down.toScale s x) := by
  obtain ⟨hbetween, hnearest⟩ := integralPart_nearest (x * 10 ^ s)
  refine ⟨⟨_, rfl⟩, div_zpow_mem_uIcc.2 hbetween, ?_⟩
  rintro _ ⟨k, rfl⟩ hk
  rw [Rounding.toScale, abs_sub_div_zpow, abs_sub_div_zpow]
  exact div_le_div_of_nonneg_right (hnearest k (div_zpow_mem_uIcc.1 hk)) (ten_zpow_pos s).le

theorem isNearest_toScale (s : Int) (x : ℚ) : IsNearest s x (Rounding.halfUp.toScale s x) := by
  have hpos := ten_zpow_pos s
  refine ⟨⟨_, rfl⟩, ?_, ?_⟩
  · rintro _ ⟨k, rfl⟩
    rw [Rounding.toScale, abs_sub_div_zpow, abs_sub_div_zpow]
    exact div_le_div_of_nonneg_right (abs_sub_nearestWhole_le _ k) hpos.le
  · rintro _ ⟨k, rfl⟩ htie
    rw [Rounding.toScale, abs_sub_div_zpow, abs_sub_div_zpow, div_left_inj' hpos.ne'] at htie
    rw [Rounding.toScale, abs_div, abs_div]
    have hle : |(k : ℚ)| ≤ |(nearestWhole (x * 10 ^ s) : ℚ)| := by exact_mod_cast abs_le_nearestWhole htie
    exact div_le_div_of_nonneg_right hle (abs_nonneg _)

end Decimal
end RowSql
