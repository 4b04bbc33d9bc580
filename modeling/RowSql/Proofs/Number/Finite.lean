import RowSql.Proofs.Number.Magnitude
/-!
# Finite — floats that are numbers

A product of finite floats is finite unless it is infinite (`isFinite_product`), and so is any quotient by a
float of magnitude two or more (`isFinite_quotient`).  The powers of ten up to the greatest one that a float
holds are finite and, from the first one on, of that magnitude (`isFinite_nearest_power`,
`reaches_nearest_power`); the words of 64 unsigned bits are finite as floats (`isFinite_nearest_whole`).
-/
namespace RowSql
namespace Magnitude

open Float.Model (Format totalExponent)
open Float.Model.UnpackedFloat
open Float.Model (UnpackedFloat)

/-- The number that a float stands for. -/
abbrev ofFloat (x : Float) : UnpackedFloat := x.toModel.unpack

theorem below_ofFloat {x : Float} (h : x.isFinite = true) : Below 1024 (ofFloat x) := by
  refine below_of_exponentField fun hfull => ?_
  change (unpack Format.binary64 x.toModel.toBits.toBitVec).isFinite = true at h
  unfold UnpackedFloat.unpack at h
  dsimp only at h
  rw [if_pos hfull] at h
  split at h <;> cases h

theorem isFinite_of_below_ofFloat {t : Int} {x : Float} (h : Below t (ofFloat x)) : x.isFinite = true :=
  isFinite_of_below h

theorem Below.neg {t : Int} {f : UnpackedFloat} (h : Below t f) : Below t f.neg := by
  cases h with
  | zero => exact .zero _
  | finite hm hlow hhigh => exact .finite hm hlow hhigh

theorem isFinite_neg {x : Float} (h : x.isFinite = true) : (-x).isFinite = true :=
  isFinite_of_below (below_ofFloat h).neg.unpack_pack

theorem isFinite_signed (negative : Bool) {x : Float} (h : x.isFinite = true) :
    (Binary.signed negative x).isFinite = true := by
  cases negative
  · exact h
  · exact isFinite_neg h

/-- **A product that is not infinite is finite.** -/
theorem isFinite_product {x y : Float} (hx : x.isFinite = true) (hy : y.isFinite = true) (h : (x * y).isInf = false) :
    (x * y).isFinite = true := by
  have hproduct : (mul Format.binary64 (ofFloat x) (ofFloat y)).isFinite = true := isFinite_mul hx hy
  refine (isFinite_or_isInf hproduct).resolve_right fun hinf => ?_
  exact Bool.false_ne_true (h.symm.trans hinf)

/-- **A quotient by a float of magnitude two or more is finite.** -/
theorem isFinite_quotient {x y : Float} (hx : x.isFinite = true) (hy : Reaches 2 (ofFloat y)) :
    (x / y).isFinite = true :=
  isFinite_of_below (below_div (by decide) le_rfl (below_ofFloat hx) hy).unpack_pack

/-! ## Powers of ten -/

theorem below_product {t t' : Int} {x y : Float} (hx : Below t (ofFloat x)) (hy : Below t' (ofFloat y))
    (hlow : -1074 ≤ t + t') (hhigh : t + t' ≤ 970) : Below (t + t' + 1) (ofFloat (x * y)) :=
  (below_mul hx hy hlow hhigh).unpack_pack

/-- A whole number of at most 53 binary digits is a float. -/
theorem below_ofNat {n : Nat} (hn : n < 2 ^ 53) : Below 54 (UnpackedFloat.ofNat Format.binary64 n) := by
  rw [UnpackedFloat.ofNat, UnpackedFloat.ofInt, UnpackedFloat.normalize]
  by_cases hzero : n = 0
  · rw [hzero]
    exact .zero _
  · have hcompare : compare (n : Int) 0 = .gt := by
      rw [compare_gt_iff_gt]
      omega
    rw [hcompare]
    refine below_round (t := 53) ?_ ?_ (by decide) (by decide) _ _
    · have hlog : n.log2 < 53 := log2_lt_of_lt hn (by decide)
      rw [Int.toNat_natCast, totalExponent, log2_shiftLeft hzero]
      omega
    · omega

/-- The float of a number times a power of ten, where that is not one of the short ways: the exact product, rounded. -/
theorem ofScientific_eq {n e : Nat} (hn : n ≠ 0) (he : e ≤ 2048) (hslow : ¬ (n < 2 ^ 53 ∧ e ≤ 22)) :
    ofFloat (Float.ofScientific n false e) = unpack Format.binary64 (pack Format.binary64
      (roundWithAccuracy Format.binary64 (.positive * .positive) (n <<< 53 * 10 ^ e) (-53 + 0) .exact)) := by
  rw [Float.ofScientific, dif_neg hslow]
  change unpack Format.binary64 (pack Format.binary64 (UnpackedFloat.ofScientific Format.binary64 n (Int.ofNat e))) = _
  rw [UnpackedFloat.ofScientific, dif_neg hn, if_neg, if_neg,
    if_pos (show (0 : Int) ≤ Int.ofNat e from Int.natCast_nonneg e)]
  · rfl
  · change ¬ (e : Int) < -(2048 + n.log2)
    omega
  · change ¬ (e : Int) > 2048
    omega

theorem totalExponent_scaled {n e : Nat} (hn : n ≠ 0) :
    totalExponent (n <<< 53 * 10 ^ e) (-53 + 0) = (n * 10 ^ e).log2 + 1 := by
  have hpow : n * 10 ^ e ≠ 0 := Nat.mul_ne_zero hn (Nat.pow_pos (by decide)).ne'
  rw [totalExponent, Nat.shiftLeft_eq, Nat.mul_right_comm, ← Nat.shiftLeft_eq, log2_shiftLeft hpow]
  omega

theorem below_scaled {n e : Nat} (hn : n ≠ 0) {t : Nat} (ht : t ≤ 1023) (h : n * 10 ^ e < 2 ^ t) :
    Below (t + 1) (roundWithAccuracy Format.binary64 (.positive * .positive) (n <<< 53 * 10 ^ e) (-53 + 0) .exact) := by
  have hpow : n * 10 ^ e ≠ 0 := Nat.mul_ne_zero hn (Nat.pow_pos (by decide)).ne'
  have hlog : (n * 10 ^ e).log2 < t := (Nat.log2_lt hpow).2 h
  refine below_round ?_ (by decide) (by omega) (by omega) _ _
  rw [totalExponent_scaled hn]
  omega

/-- A number of 64 binary digits is finite, as it stands or rounded. -/
theorem isFinite_ofScientific {n : Nat} (hn : n < 2 ^ 64) : (Float.ofScientific n false 0).isFinite = true := by
  by_cases hfast : n < 2 ^ 53 ∧ 0 ≤ 22
  · rw [Float.ofScientific, dif_pos hfast]
    have hword : n.toUInt64.toNat < 2 ^ 53 := by
      rw [Nat.toUInt64, UInt64.toNat_ofNat']
      omega
    have hone : Below 1 (ofFloat (Float.ofBits 0x3FF0000000000000)) := by
      have hparts : ofFloat (Float.ofBits 0x3FF0000000000000) =
          .finite .positive 4503599627370496 (-52) (by decide) := rfl
      rw [hparts]
      exact .finite (by decide +kernel) (by decide) (by decide)
    have hfloat : Below 54 (ofFloat n.toUInt64.toFloat) := (below_ofNat hword).unpack_pack
    exact isFinite_of_below_ofFloat (below_product hfloat hone (by decide) (by decide))
  · have hzero : n ≠ 0 := by
      rintro rfl
      exact hfast ⟨by decide, by decide⟩
    have hsize : n * 10 ^ 0 < 2 ^ 64 := by rwa [Nat.pow_zero, Nat.mul_one]
    have hround := Below.unpack_pack (below_scaled hzero (by decide) hsize)
    rw [← ofScientific_eq hzero (by decide) hfast] at hround
    exact isFinite_of_below_ofFloat hround

/-- The powers of ten that are exact, and the last one, which no bound below leaves room to round. -/
theorem known_power {e : Nat} (hlow : 1 ≤ e) (hhigh : e ≤ 22 ∨ e = 308) :
    (Float.ofScientific 1 false e).isFinite = true ∧ Reaches 2 (ofFloat (Float.ofScientific 1 false e)) := by
  obtain hhigh | rfl := hhigh
  · have hsmall : ∀ e < 23, 1 ≤ e →
        (Float.ofScientific 1 false e).isFinite = true ∧ Reaches 2 (ofFloat (Float.ofScientific 1 false e)) := by
      decide +kernel
    exact hsmall e (by omega) hlow
  · decide +kernel

/-- The powers of ten between them have more digits than a mantissa, and are rounded to a full one. -/
theorem rounded_power {e : Nat} (hlow : 23 ≤ e) (hhigh : e ≤ 307) :
    (Float.ofScientific 1 false e).isFinite = true ∧ Reaches 2 (ofFloat (Float.ofScientific 1 false e)) := by
  have hslow : ¬ (1 < 2 ^ 53 ∧ e ≤ 22) := by omega
  have hsize : 1 * 10 ^ e < 2 ^ 1023 := by
    rw [Nat.one_mul]
    calc 10 ^ e ≤ 10 ^ 307 := Nat.pow_le_pow_right (by decide) hhigh
      _ < 2 ^ 1023 := by decide +kernel
  have hdigits : 53 ≤ (1 * 10 ^ e).log2 := by
    rw [Nat.one_mul]
    refine (Nat.le_log2 (Nat.pow_pos (by decide)).ne').2 ?_
    calc 2 ^ 53 ≤ 10 ^ 23 := by decide
      _ ≤ 10 ^ e := Nat.pow_le_pow_right (by decide) hlow
  have hfloat := ofScientific_eq Nat.one_ne_zero (by omega) hslow
  have hbelow := below_scaled Nat.one_ne_zero le_rfl hsize
  refine ⟨isFinite_of_below_ofFloat (hfloat ▸ hbelow.unpack_pack), ?_⟩
  have htotal := totalExponent_scaled (e := e) Nat.one_ne_zero
  obtain ⟨m', e', hpos, hround, hfull, hle⟩ := roundWithAccuracy_full (m := 1 <<< 53 * 10 ^ e) (e := -53 + 0)
    (by omega) (by omega) (.positive * .positive) .exact
  rw [hfloat, hround]
  rw [hround] at hbelow
  cases hbelow with
  | finite _ hleast hmost => exact reaches_unpack_pack hleast hmost hfull (by omega) _ hpos

/-! ## The nearest float -/

theorem nearest_whole {n : Nat} (hn : n ≠ 0) (h : n < 2 ^ 64) : Binary.nearest n 0 = Float.ofScientific n false 0 := by
  have hdigits : Decimal.digitCount n ≤ 20 :=
    (Nat.length_toDigits_le_iff (by decide) (by decide)).2 (h.trans (by decide))
  rw [Binary.nearest, if_neg hn]
  dsimp only
  rw [if_neg (by omega), if_neg (by omega), if_pos le_rfl]
  rfl

theorem nearest_power {e : Nat} (he : e ≤ 308) : Binary.nearest 1 e = Float.ofScientific 1 false e := by
  have hdigits : Decimal.digitCount 1 = 1 := rfl
  rw [Binary.nearest, if_neg Nat.one_ne_zero, hdigits]
  dsimp only
  rw [if_neg (by omega), if_neg (by omega), if_pos (Int.natCast_nonneg e), Int.toNat_natCast]

/-- **A word of 64 unsigned bits is finite as a float.** -/
theorem isFinite_nearest_whole {n : Nat} (h : n < 2 ^ 64) : (Binary.nearest n 0).isFinite = true := by
  by_cases hn : n = 0
  · rw [hn]
    rfl
  · rw [nearest_whole hn h]
    exact isFinite_ofScientific h

theorem power_cases {e : Nat} (hlow : 1 ≤ e) (hhigh : e ≤ 308) :
    (Binary.nearest 1 e).isFinite = true ∧ Reaches 2 (ofFloat (Binary.nearest 1 e)) := by
  rw [nearest_power hhigh]
  by_cases hknown : e ≤ 22 ∨ e = 308
  · exact known_power hlow hknown
  · exact rounded_power (by omega) (by omega)

/-- **A power of ten is finite as a float**, and two at least from the first power on. -/
theorem isFinite_nearest_power {e : Nat} (h : e ≤ 308) : (Binary.nearest 1 e).isFinite = true := by
  by_cases he : e = 0
  · rw [he]
    exact isFinite_nearest_whole (by decide)
  · exact (power_cases (by omega) h).1

@[inherit_doc isFinite_nearest_power]
theorem reaches_nearest_power {e : Nat} (hlow : 1 ≤ e) (hhigh : e ≤ 308) : Reaches 2 (ofFloat (Binary.nearest 1 e)) :=
  (power_cases hlow hhigh).2

end Magnitude
end RowSql
