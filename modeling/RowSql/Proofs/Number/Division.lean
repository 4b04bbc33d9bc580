import Mathlib.Tactic.LinearCombination
import RowSql.Proofs.Number.Digits
import RowSql.Proofs.Number.Rounding
/-!
# Division — quotients that are rounded twice

A quotient is rounded to its significant digits first, and then to the places that are kept.  For whole decimals
of so few digits that the first rounding is finer than the divisor, the second one hides the first
(`halfUp_twice`): a quotient that is no tie is farther from every tie than the first rounding moves it, and a
quotient that is a tie is not moved.
-/
namespace RowSql
namespace Decimal

/-! ## Significant digits -/

theorem div_add_half (n : Nat) {p : Nat} (hp : 0 < p) :
    n / p + (if p ≤ 2 * (n % p) then 1 else 0) = (2 * n + p) / (2 * p) := by
  have hsplit : 2 * n + p = 2 * (n % p) + p + 2 * p * (n / p) := by
    have hn := Nat.mod_add_div n p
    rw [mul_assoc]
    omega
  have hmod := Nat.mod_lt n hp
  rw [hsplit, Nat.add_mul_div_left _ _ (by omega), Nat.add_comm]
  congr 1
  split
  · exact (Nat.div_eq_of_lt_le (by omega) (by omega)).symm
  · exact (Nat.div_eq_of_lt (by omega)).symm

variable {num den : Nat}

theorem significantQuotient_fst (num : Nat) (hden : 0 < den) :
    (significantQuotient num den).1 = (2 * (num * 10 ^ (significantQuotient num den).2) + den) / (2 * den) :=
  div_add_half _ hden

/-- What a dividend has not in digits of its own a quotient has in places. -/
theorem le_significantQuotient_snd (num den : Nat) :
    quotientDigits ≤ (significantQuotient num den).2 + digitCount num := by
  let t := leadShift num den
  have hlead : digitCount (num * 10 ^ t / den) ≤ t + digitCount num := by
    rw [digitCount_le_iff (by have := digitCount_pos num; omega)]
    calc num * 10 ^ t / den ≤ num * 10 ^ t := Nat.div_le_self _ _
      _ < 10 ^ digitCount num * 10 ^ t := Nat.mul_lt_mul_of_pos_right (lt_pow_digitCount num) (by positivity)
      _ = 10 ^ (t + digitCount num) := by rw [← pow_add, add_comm]
  have hplaces : (significantQuotient num den).2 = t + (quotientDigits - digitCount (num * 10 ^ t / den)) := rfl
  omega

/-! ## Rounding twice -/

/-- **Rounding twice is rounding once**, if the units of the second rounding are an even number of those of the
first, and more than the divisor. -/
theorem halfUp_twice (num : Nat) {p : Nat} (hp : den < p) (heven : 2 ∣ p) (hden : 0 < den) :
    (2 * ((2 * (num * p) + den) / (2 * den)) + p) / (2 * p) = (2 * num + den) / (2 * den) := by
  obtain ⟨h, rfl⟩ := heven
  have hfirst := Nat.div_add_mod (2 * (num * (2 * h)) + den) (2 * den)
  have hfirstRest := Nat.mod_lt (2 * (num * (2 * h)) + den) (show 0 < 2 * den by omega)
  have hlast := Nat.div_add_mod (2 * num + den) (2 * den)
  have hlastRest := Nat.mod_lt (2 * num + den) (show 0 < 2 * den by omega)
  generalize (2 * (num * (2 * h)) + den) / (2 * den) = q at *
  generalize (2 * (num * (2 * h)) + den) % (2 * den) = r at *
  generalize (2 * num + den) / (2 * den) = m at *
  generalize (2 * num + den) % (2 * den) = u at *
  zify at hp hden hfirst hfirstRest hlast hlastRest
  -- what the first rounding leaves over `m` units of the second is between none and one of them
  have hover : 2 * (den : ℤ) * (q + h - 2 * h * m) = 2 * h * u + den - r := by linear_combination hfirst - 2 * h * hlast
  have hlow : -1 < (q : ℤ) + h - 2 * h * m := by
    have hu : (0 : ℤ) ≤ 2 * h * u := by positivity
    refine lt_of_mul_lt_mul_left ?_ (show (0 : ℤ) ≤ 2 * den by positivity)
    linarith
  have hhigh : (q : ℤ) + h - 2 * h * m < 2 * h := by
    have hu : 2 * (h : ℤ) * u ≤ 2 * h * (2 * den - 1) := by gcongr; omega
    refine lt_of_mul_lt_mul_left ?_ (show (0 : ℤ) ≤ 2 * den by positivity)
    linarith
  refine Nat.div_eq_of_lt_le ?_ ?_
  all_goals zify
  · linarith
  · linarith

theorem quotient_ofInt {m : Int} (hm : m ≠ 0) (n : Int) :
    (ofInt m).quotient (ofInt n) =
      ⟨m.sign * n.sign * (significantQuotient m.natAbs n.natAbs).1, (significantQuotient m.natAbs n.natAbs).2⟩ := by
  have hzero : (ofInt m).isZero = false := beq_false_of_ne hm
  rw [quotient, hzero]
  dsimp only [ofInt]
  rw [sub_zero, zero_add]
  rfl

theorem Rounding.quotient_halfUp_signed {e : Int} (he : e = 1 ∨ e = -1) (m : Nat) {p : Nat} (hp : 0 < p) :
    Rounding.halfUp.quotient (e * m) p = e * ((2 * m + p) / (2 * p) : Nat) := by
  rcases he with rfl | rfl
  · rw [one_mul, one_mul, quotient_halfUp_natCast m hp]
  · rw [neg_one_mul, neg_one_mul, quotient_halfUp_neg, quotient_halfUp_natCast m hp]

theorem sign_mul_sign_cases {m n : Int} (hm : m ≠ 0) (hn : n ≠ 0) : m.sign * n.sign = 1 ∨ m.sign * n.sign = -1 := by
  rcases lt_or_gt_of_ne hm with h | h <;> rcases lt_or_gt_of_ne hn with h' | h' <;>
    simp [Int.sign_eq_one_of_pos, Int.sign_eq_neg_one_of_neg, h, h']

/-- **A quotient of whole decimals is rounded as their ratio is**, if they are not of more digits than the
quotient has beyond the places that are kept. -/
theorem rescale_quotient {m n : Int} (hm : m ≠ 0) (hn : n ≠ 0)
    (hdigits : digitCount m.natAbs + digitCount n.natAbs + 16 ≤ quotientDigits) :
    ((ofInt m).quotient (ofInt n)).rescale .halfUp divisionScale =
      ⟨Rounding.halfUp.quotient (n.sign * m * 10 ^ 16) n.natAbs, divisionScale⟩ := by
  have hden : 0 < n.natAbs := Int.natAbs_pos.2 hn
  have hsign := sign_mul_sign_cases hm hn
  have hfirst := significantQuotient_fst m.natAbs hden
  have hplaces := le_significantQuotient_snd m.natAbs n.natAbs
  obtain ⟨j, hj⟩ : ∃ j, (significantQuotient m.natAbs n.natAbs).2 = 16 + j :=
    ⟨_, (Nat.add_sub_of_le (by omega)).symm⟩
  have hjpos : 0 < j := by
    have := digitCount_pos n.natAbs
    omega
  have hfine : n.natAbs < 10 ^ j := (digitCount_le_iff hjpos).1 (by omega)
  have hdividend : n.sign * m * 10 ^ 16 = m.sign * n.sign * (m.natAbs * 10 ^ 16 : Nat) := by
    calc n.sign * m * 10 ^ 16 = n.sign * (m.sign * m.natAbs) * 10 ^ 16 := by rw [Int.sign_mul_natAbs]
      _ = m.sign * n.sign * (m.natAbs * 10 ^ 16 : Nat) := by
        rw [Nat.cast_mul, Nat.cast_pow, Nat.cast_ofNat]
        ring
  rw [quotient_ofInt hm, rescale, if_neg (by rw [hj]; simp only [divisionScale]; omega)]
  dsimp only
  rw [hj]
  have hunits : Nat.pow 10 (((16 + j : Nat) : Int) - divisionScale).toNat = 10 ^ j := by
    rw [divisionScale, Nat.cast_add, Nat.cast_ofNat, add_sub_cancel_left, Int.toNat_natCast]
    rfl
  rw [hunits, hdividend, Rounding.quotient_halfUp_signed hsign _ (by positivity),
    Rounding.quotient_halfUp_signed hsign _ hden,
    hfirst, hj, pow_add, ← mul_assoc m.natAbs, halfUp_twice _ hfine (dvd_pow (by decide) hjpos.ne') hden]

/-- **The quotient of whole decimals is their ratio**, rounded to the places that are kept. -/
theorem value_div_ofInt {m n : Int} (hm : m ≠ 0) (hn : n ≠ 0)
    (hdigits : digitCount m.natAbs + digitCount n.natAbs + 16 ≤ quotientDigits) :
    ((ofInt m).div (ofInt n)).value = Rounding.halfUp.toScale divisionScale (m / n) := by
  have hsign : (n.sign : ℚ) ≠ 0 := by exact_mod_cast mt Int.sign_eq_zero_iff_zero.1 hn
  have hden : (n.natAbs : ℚ) = n.sign * n := by
    rw [← Int.cast_mul, Int.sign_mul_self_eq_natAbs, Int.cast_natCast]
  have hratio : ((n.sign * m * 10 ^ 16 : Int) : ℚ) / n.natAbs = m / n * 10 ^ divisionScale := by
    rw [hden, Int.cast_mul, Int.cast_mul, mul_assoc, mul_div_mul_left _ _ hsign, mul_div_right_comm]
    norm_num [divisionScale]
  rw [div, trimFraction, value_stripZeros, rescale_quotient hm hn hdigits, value_eq_div, Rounding.toScale, ← hratio,
    Rounding.quotient_eq_whole _ _ (Int.natAbs_pos.2 hn)]

/-! ## Zeros at the end -/

/-- **No zero stands at the end of the places.** -/
def IsTrimmed (d : Decimal) : Prop := 0 ≤ d.scale ∧ (d.scale = 0 ∨ d.digits % 10 ≠ 0)

theorem stripZeros_cases : ∀ (fuel : Nat) (n s : Int),
    s - fuel ≤ (stripZeros fuel n s).scale ∧
      ((stripZeros fuel n s).scale = s - fuel ∨ (stripZeros fuel n s).digits % 10 ≠ 0)
  | 0, n, s => ⟨by simp [stripZeros], .inl (by simp [stripZeros])⟩
  | fuel + 1, n, s => by
    rw [stripZeros]
    split
    · obtain ⟨hscale, hend⟩ := stripZeros_cases fuel (n / 10) (s - 1)
      have hfuel : s - 1 - fuel = s - (fuel + 1 : Nat) := by omega
      rw [← hfuel]
      exact ⟨hscale, hend⟩
    · rename_i hten
      exact ⟨by dsimp only; omega, .inr (by simpa using hten)⟩

theorem isTrimmed_trimFraction {d : Decimal} (h : 0 ≤ d.scale) : d.trimFraction.IsTrimmed := by
  have hcases := stripZeros_cases d.scale.toNat d.digits d.scale
  rwa [Int.toNat_of_nonneg h, sub_self] at hcases

theorem isTrimmed_div (a b : Decimal) : (a.div b).IsTrimmed := by
  refine isTrimmed_trimFraction ?_
  rw [scale_rescale]
  decide

end Decimal
end RowSql
