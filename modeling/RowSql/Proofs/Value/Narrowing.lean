import RowSql.Expr.Eval
import RowSql.Proofs.Number.Digits
import RowSql.Proofs.Number.Rounding
import RowSql.Proofs.Value.Order
/-!
# Narrowing — decimals as words

A decimal is read as the word of its integral part, and the number of its integral digits decides before
anything is divided.  That number bounds the value from both sides (`abs_value_lt`, `pow_le_abs_value`), so it
decides as the integral part does, for every decimal but zero: a zero counts as one digit at every scale, and
with more than eighteen zeros behind it is taken for a number that no word has.  A decimal that is a result
becomes a word by its value alone (`narrow_eq_int`).
-/
namespace RowSql
namespace Decimal

theorem integralPart_eq_zero {d : Decimal} (h : digitCount d.digits.natAbs - d.scale ≤ 0) :
    integralPart d.value = 0 := by
  have hvalue : |d.value| < 1 := (abs_value_lt d).trans_le (zpow_le_one_of_nonpos₀ (by norm_num) h)
  have hpart : |(integralPart d.value : ℚ)| < 1 := (abs_integralPart_le _).trans_lt hvalue
  exact Int.abs_lt_one_iff.1 (by exact_mod_cast hpart)

/-- A decimal other than zero with more than nineteen integral digits is beyond the words. -/
theorem word_ne_integralPart {d : Decimal} (hd : d.digits ≠ 0) (h : 19 < digitCount d.digits.natAbs - d.scale)
    (w : Whole) :
    w.toInt ≠ integralPart d.value := by
  have hvalue : ((10 ^ 19 : ℤ) : ℚ) ≤ |d.value| := by
    refine le_trans ?_ (pow_le_abs_value hd)
    rw [Int.cast_pow, Int.cast_ofNat, ← zpow_natCast]
    exact zpow_le_zpow_right₀ (by norm_num) (by push_cast; omega)
  have hpart := le_abs_integralPart hvalue
  have hrange := w.toInt_inRange
  unfold Whole.least Whole.greatest at hrange
  intro hw
  rw [← hw] at hpart
  have hword : |w.toInt| ≤ 9223372036854775808 := abs_le.2 ⟨by omega, by omega⟩
  omega

theorem isWhole_of_value {d : Decimal} {n : Int} (h : d.value = n) : d.isWhole = true := by
  rw [isWhole, Bool.or_eq_true, decide_eq_true_eq, beq_iff_eq]
  rcases le_or_gt d.scale 0 with hs | hs
  · exact .inl hs
  · obtain ⟨k, hk⟩ : ∃ k : Nat, d.scale = k := ⟨d.scale.toNat, by omega⟩
    have hdigits : d.digits = n * 10 ^ k := by
      rw [value_eq_div, hk, zpow_natCast, div_eq_iff (pow_ne_zero k (by norm_num))] at h
      exact_mod_cast h
    rw [hk, Int.toNat_natCast, hdigits]
    exact .inr (Int.mul_emod_left n _)

/-- **What is counted of a decimal is counted by words**: its digits, its scale, and the digits before the point. -/
structure IsCounted (d : Decimal) : Prop where
  digits : digitCount d.digits.natAbs ≤ Whole.greatest
  scale : Whole.least ≤ d.scale ∧ d.scale ≤ Whole.greatest
  integral : digitCount d.digits.natAbs - d.scale ≤ Whole.greatest

theorem IsCounted.integralDigits? {d : Decimal} (h : d.IsCounted) :
    ∃ count : Whole, d.integralDigits? = some count ∧ count.toInt = digitCount d.digits.natAbs - d.scale := by
  obtain ⟨hdigits, ⟨hlow, hhigh⟩, hintegral⟩ := h
  have hpos := digitCount_pos d.digits.natAbs
  obtain ⟨count, hcount⟩ := Option.isSome_iff_exists.1 (Whole.ofInt?_isSome.2 ⟨by unfold Whole.least; omega, hdigits⟩)
  refine ⟨count - Int64.ofInt d.scale, by rw [Decimal.integralDigits?, hcount, Option.map_some], ?_⟩
  unfold Whole.least Whole.greatest at *
  rw [Int64.toInt_sub, Whole.toInt_ofInt? hcount, Int64.toInt_ofInt_of_le (by omega) (by omega)]
  exact Int.bmod_eq_of_le (by omega) (by omega)

end Decimal

namespace Value

/-- **The number of integral digits decides as the integral part does**, for a decimal other than a zero with a
scale below `-18`. -/
theorem wholeOfDecimal?_eq_some_iff {d : Decimal} (hd : d.IsCounted) (w : Whole) :
    wholeOfDecimal? d = some w ↔ w.toInt = Decimal.integralPart d.value ∧ ¬ (d.digits = 0 ∧ d.scale < -18) := by
  obtain ⟨count, hcount, hdigits⟩ := hd.integralDigits?
  have hzero : d.digits = 0 → count.toInt = 1 - d.scale := by
    intro h
    rw [hdigits, h]
    rfl
  rw [wholeOfDecimal?, hcount]
  dsimp only [Option.bind_eq_bind, Option.bind_some]
  split
  · rename_i hnone
    have hscale : ¬ (d.digits = 0 ∧ d.scale < -18) := by
      rintro ⟨h, hlow⟩
      have := hzero h
      omega
    rw [Decimal.integralPart_eq_zero (hdigits ▸ hnone), and_iff_left hscale, Option.some_inj, eq_comm,
      ← Int64.toInt_inj]
    rfl
  split
  · rename_i hfew
    have hscale : ¬ (d.digits = 0 ∧ d.scale < -18) := by
      rintro ⟨h, hlow⟩
      have := hzero h
      unfold wholeDigits at hfew
      omega
    rw [and_iff_left hscale, Whole.ofInt?_eq_some_iff, Decimal.truncate_eq_integralPart]
  · rename_i hmany
    unfold wholeDigits at hmany
    refine iff_of_false (fun h => by cases h) ?_
    rintro ⟨hw, hplain⟩
    have hne : d.digits ≠ 0 := by
      intro h
      have := hzero h
      exact hplain ⟨h, by omega⟩
    exact Decimal.word_ne_integralPart hne (by omega) w hw

theorem coerce_whole (v : Value) : FieldType.whole.coerce v = .ofWhole? v.toWhole? := by
  unfold FieldType.coerce
  split <;> first | rfl | contradiction

/-- **A decimal, or a text that reads as one, is read as the word of its integral part**, and as none where no
word has it; so is it by a cast.  Only a zero whose scale is below `-18` is read as none although zero is a
word. -/
theorem toWhole?_truncates {v : Value} {d : Decimal}
    (hv : v = .decimal d ∨ ∃ s, v = .text s ∧ Decimal.ofText? s = some d) (hd : d.IsCounted) :
    (∀ w : Whole, v.toWhole? = some w ↔ w.toInt = Decimal.integralPart d.value ∧ ¬ (d.digits = 0 ∧ d.scale < -18)) ∧
    ∀ context row e, Expr.eval context row e = .ok v →
      Expr.eval context row (.cast e .whole) = .ok (v.toWhole?.elim .null .int) := by
  have hread : v.toWhole? = wholeOfDecimal? d ∧ v.isNull = false ∧ v.halts = false := by
    rcases hv with rfl | ⟨s, rfl, hs⟩
    · exact ⟨rfl, rfl, rfl⟩
    · exact ⟨congrArg (Option.bind · wholeOfDecimal?) hs, rfl, Decimal.not_halts_of_ofText? hs⟩
  refine ⟨fun w => ?_, fun context row e he => ?_⟩
  · rw [hread.1]
    exact wholeOfDecimal?_eq_some_iff hd w
  · rw [Expr.eval, he]
    change v.ifPresent _ = _
    rw [ifPresent, hread.2.1, if_neg Bool.false_ne_true, coerce_whole, FieldType.halts, hread.2.2]
    rfl

/-- The least word has nineteen digits, and what stands behind the point is dropped toward zero. -/
theorem toWhole?_truncates_leastWord :
    (text "-9223372036854775808.9" = .decimal ⟨-92233720368547758089, 1⟩ ∨
      ∃ s, text "-9223372036854775808.9" = .text s ∧ Decimal.ofText? s = some ⟨-92233720368547758089, 1⟩) ∧
    (⟨-92233720368547758089, 1⟩ : Decimal).IsCounted ∧
    (text "-9223372036854775808.9").toWhole? = some Int64.minValue := by
  have hread : text "-9223372036854775808.9" = .decimal ⟨-92233720368547758089, 1⟩ ∨
      ∃ s, text "-9223372036854775808.9" = .text s ∧ Decimal.ofText? s = some ⟨-92233720368547758089, 1⟩ :=
    .inr ⟨_, rfl, by decide +kernel⟩
  have hcounted : (⟨-92233720368547758089, 1⟩ : Decimal).IsCounted :=
    ⟨by decide +kernel, by decide +kernel, by decide +kernel⟩
  refine ⟨hread, hcounted, ((toWhole?_truncates hread hcounted).1 _).2 ⟨?_, by decide⟩⟩
  have hleast : Int64.minValue.toInt = -9223372036854775808 := rfl
  rw [hleast, Decimal.integralPart, Decimal.value]
  norm_num

/-- Zero with twenty-five zeros is read as no word. -/
theorem toWhole?_loses_zero :
    ¬ ∀ (s : String) (d : Decimal) (w : Whole), Decimal.ofText? s = some d → w.toInt = Decimal.integralPart d.value →
      (text s).toWhole? = some w := by
  intro h
  have hread : Decimal.ofText? "0e25" = some ⟨0, -25⟩ := by decide +kernel
  have hnone : (text "0e25").toWhole? = none := by decide +kernel
  have hpart : (0 : Whole).toInt = Decimal.integralPart (⟨0, -25⟩ : Decimal).value := by
    have hzero : (0 : Whole).toInt = 0 := rfl
    rw [hzero, Decimal.integralPart, Decimal.value]
    norm_num
  cases hnone.symm.trans (h "0e25" ⟨0, -25⟩ 0 hread hpart)

/-! ## Results that are words -/

theorem narrow_ofInt (n : Int) : narrow (.ofInt n) = (Whole.ofInt? n).elim (.decimal (.ofInt n)) .int := by
  have htruncate : (Decimal.ofInt n).truncate = n := by
    simp [Decimal.truncate, Decimal.rescale, Decimal.ofInt, Decimal.extend, Decimal.digitsAt]
  rw [narrow, Decimal.toWhole?, htruncate]
  rfl

theorem isFloat_narrow (d : Decimal) : (narrow d).isFloat = false := by
  unfold narrow
  cases d.toWhole? <;> rfl

theorem number?_narrow (d : Decimal) : (narrow d).number? = some d.value := by
  unfold narrow
  cases hw : d.toWhole? with
  | none => rfl
  | some w => exact congrArg some ((Decimal.value_ofWhole w).trans (Decimal.value_of_toWhole? hw).symm)

/-- **A decimal whose value is a word is narrowed to it**, whatever its scale is. -/
theorem narrow_eq_int {d : Decimal} {w : Whole} (h : (w.toInt : ℚ) = d.value) : narrow d = .int w := by
  have hpart : d.truncate = w.toInt := by rw [Decimal.truncate_eq_integralPart, ← h, Decimal.integralPart_intCast]
  rw [narrow, Decimal.toWhole?, if_pos (Decimal.isWhole_of_value h.symm), hpart, Whole.ofInt?_toInt]
  rfl

end Value
end RowSql
