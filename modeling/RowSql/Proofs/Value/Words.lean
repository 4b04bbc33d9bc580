import RowSql.Proofs.Number.Division
import RowSql.Proofs.Value.Arithmetic
/-!
# Words — when the result on two words is a word

Two words give the word of the exact result wherever there is one (`wholeArith?_eq_some_iff`), and a decimal
else.  The remainder of the least word by minus one is the one exception: it is zero and comes as a decimal.
The decimal of a quotient that does not come out even is the ratio of the two words, rounded once to sixteen
places (`value_div_ofInt`).
-/
namespace RowSql

/-- The exact result of an operator on numbers, for a divisor that is not zero. -/
def ArithOp.result : ArithOp → ℚ → ℚ → ℚ
  | .add, x, y => x + y
  | .sub, x, y => x - y
  | .mul, x, y => x * y
  | .div, x, y => x / y
  | .rem, x, y => x - y * Decimal.integralPart (x / y)

theorem Whole.ofInt?_eq_some_iff_cast {k : Int} {x : ℚ} (h : (k : ℚ) = x) (w : Whole) :
    Whole.ofInt? k = some w ↔ (w.toInt : ℚ) = x := by
  rw [Whole.ofInt?_eq_some_iff, ← h, Int.cast_inj]

namespace Value

/-- A quotient of integers is an integer exactly if the division leaves nothing. -/
theorem cast_eq_div_iff {m n k : Int} (hn : n ≠ 0) : (k : ℚ) = m / n ↔ m.tmod n = 0 ∧ m.tdiv n = k := by
  have hcast : (k : ℚ) = m / n ↔ k * n = m := by
    rw [eq_div_iff (by exact_mod_cast hn)]
    exact_mod_cast Iff.rfl
  rw [hcast]
  constructor
  · rintro rfl
    exact ⟨Int.mul_tmod_left k n, Int.mul_tdiv_cancel k hn⟩
  · rintro ⟨hrest, rfl⟩
    exact Int.tdiv_mul_cancel (Int.dvd_of_tmod_eq_zero hrest)

/-- **The result on words is the word of the exact result**, if there is one, and the exception of the remainder
apart. -/
theorem wholeArith?_eq_some_iff {op : ArithOp} {m n : Int} (hn : op = .div ∨ op = .rem → n ≠ 0) (w : Whole) :
    wholeArith? op m n = some w ↔
      (w.toInt : ℚ) = op.result m n ∧ ¬ (op = .rem ∧ m = Whole.least ∧ n = -1) := by
  cases op with
  | add => exact (Whole.ofInt?_eq_some_iff_cast (Int.cast_add m n) w).trans (by simp [ArithOp.result])
  | sub => exact (Whole.ofInt?_eq_some_iff_cast (Int.cast_sub m n) w).trans (by simp [ArithOp.result])
  | mul => exact (Whole.ofInt?_eq_some_iff_cast (Int.cast_mul m n) w).trans (by simp [ArithOp.result])
  | div =>
    rw [wholeArith?, ArithOp.result, cast_eq_div_iff (hn (.inl rfl))]
    split
    · rename_i heven
      rw [Whole.ofInt?_eq_some_iff]
      simp [heven, eq_comm]
    · rename_i hodd
      simp [hodd]
  | rem =>
    rw [wholeArith?]
    split
    · rename_i hexception
      simp [hexception]
    · rename_i hplain
      have hexact : (m.tmod n : ℚ) = ArithOp.rem.result m n := by
        rw [ArithOp.result, Int.tmod_def, Decimal.tdiv_eq_integralPart, Int.cast_sub, Int.cast_mul]
      rw [Whole.ofInt?_eq_some_iff_cast hexact]
      simp [hplain]

/-- **Two words give the word of the exact result, wherever there is one.**  Only the remainder of the least
word by minus one is a decimal although it has a word; all other results without a word, and they alone, are
decimals. -/
theorem arith_words {op : ArithOp} {m n : Whole} (hn : op = .div ∨ op = .rem → n ≠ 0) :
    (∀ w : Whole, arith op (.int m) (.int n) = .ok (.int w) ↔
      (w.toInt : ℚ) = op.result m.toInt n.toInt ∧ ¬ (op = .rem ∧ m = Int64.minValue ∧ n = -1)) ∧
    ((∃ d, arith op (.int m) (.int n) = .ok (.decimal d)) ↔
      (∀ w : Whole, (w.toInt : ℚ) ≠ op.result m.toInt n.toInt) ∨ (op = .rem ∧ m = Int64.minValue ∧ n = -1)) := by
  have hdivisor : op = .div ∨ op = .rem → n.toInt ≠ 0 := fun h hzero => hn h (Int64.toInt_inj.1 hzero)
  have hdivides : (ArithOp.isDivision op && n.toInt == 0) = false := by
    cases op <;> simp_all [ArithOp.isDivision]
  have hleast : m.toInt = Whole.least ↔ m = Int64.minValue := Int64.toInt_inj (y := Int64.minValue)
  have hminusOne : n.toInt = -1 ↔ n = -1 := Int64.toInt_inj (y := -1)
  have hword := wholeArith?_eq_some_iff hdivisor (m := m.toInt)
  simp only [hleast, hminusOne] at hword
  rw [arith_words_eq hdivides]
  refine ⟨fun w => ?_, ?_⟩
  · rw [← hword]
    cases wholeArith? op m.toInt n.toInt <;> simp
  · cases hw : wholeArith? op m.toInt n.toInt with
    | none =>
      refine iff_of_true ⟨_, rfl⟩ ?_
      by_contra hneither
      obtain ⟨hsome, hplain⟩ := not_or.1 hneither
      obtain ⟨w, hexact⟩ := not_forall.1 hsome
      cases hw.symm.trans ((hword w).2 ⟨not_not.1 hexact, hplain⟩)
    | some w =>
      obtain ⟨hexact, hplain⟩ := (hword w).1 hw
      refine iff_of_false ?_ (not_or.2 ⟨fun hnone => hnone w hexact, hplain⟩)
      rintro ⟨d, hd⟩
      cases hd

/-- The least word has no opposite among the words. -/
theorem arith_words_leastWord :
    (ArithOp.div = .div ∨ ArithOp.div = .rem → (-1 : Whole) ≠ 0) ∧
    ∃ d, arith .div (.int Int64.minValue) (.int (-1)) = .ok (.decimal d) := by
  have hn : ArithOp.div = .div ∨ ArithOp.div = .rem → (-1 : Whole) ≠ 0 := fun _ => by decide
  refine ⟨hn, (arith_words hn).2.2 (.inl fun w hw => ?_)⟩
  have hleast : Int64.minValue.toInt = -9223372036854775808 := rfl
  have hminusOne : (-1 : Whole).toInt = -1 := rfl
  rw [hleast, hminusOne, ArithOp.result] at hw
  have hopposite : w.toInt = 9223372036854775808 := by
    have hcast : (w.toInt : ℚ) = (9223372036854775808 : ℤ) := by
      rw [hw]
      norm_num
    exact_mod_cast hcast
  have hrange := w.toInt_inRange.2
  rw [hopposite] at hrange
  exact absurd hrange (by decide)

/-- The exact remainder of the least word by minus one is a word, and what comes is a decimal. -/
theorem arith_leaves_words :
    ¬ ∀ (op : ArithOp) (m n w : Whole), (op = .div ∨ op = .rem → n ≠ 0) →
      (w.toInt : ℚ) = op.result m.toInt n.toInt → arith op (.int m) (.int n) = .ok (.int w) := by
  intro h
  have hdecimal : arith .rem (.int Int64.minValue) (.int (-1)) = .ok (.decimal ⟨0, 0⟩) := rfl
  have hleast : Int64.minValue.toInt = -9223372036854775808 := rfl
  have hminusOne : (-1 : Whole).toInt = -1 := rfl
  have hzero : (0 : Whole).toInt = 0 := rfl
  have hexact : ((0 : Whole).toInt : ℚ) = ArithOp.rem.result Int64.minValue.toInt (-1 : Whole).toInt := by
    rw [hzero, hleast, hminusOne, ArithOp.result, Decimal.integralPart]
    norm_num
  cases hdecimal.symm.trans (h .rem Int64.minValue (-1) 0 (fun _ => by decide) hexact)

/-! ## Quotients that do not come out even -/

theorem digitCount_word_le (w : Whole) : Decimal.digitCount w.toInt.natAbs ≤ 19 := by
  have hrange := w.toInt_inRange
  unfold Whole.least Whole.greatest at hrange
  rw [Decimal.digitCount_le_iff (by decide)]
  omega

/-- **A quotient of words that does not come out even is rounded once**: the decimal is the multiple of
`10 ^ (-16)` nearest to the ratio of the words, a tie away from zero, and has no zero at the end of its
places. -/
theorem arith_div_words {m n : Whole} (hn : n ≠ 0) (hdvd : ¬ n.toInt ∣ m.toInt) :
    ∃ d, arith .div (.int m) (.int n) = .ok (.decimal d) ∧ d.IsTrimmed ∧
      Decimal.IsNearest 16 ((m.toInt : ℚ) / n.toInt) d.value := by
  have hdivisor : n.toInt ≠ 0 := fun hzero => hn (Int64.toInt_inj.1 hzero)
  have hdividend : m.toInt ≠ 0 := fun hzero => hdvd (hzero ▸ Int.dvd_zero n.toInt)
  have hdivides : (ArithOp.isDivision .div && n.toInt == 0) = false := beq_false_of_ne hdivisor
  have hnone : wholeArith? .div m.toInt n.toInt = none := if_neg fun heven => hdvd (Int.dvd_of_tmod_eq_zero heven)
  have hdigits : Decimal.digitCount m.toInt.natAbs + Decimal.digitCount n.toInt.natAbs + 16 ≤
      Decimal.quotientDigits := by
    have hm := digitCount_word_le m
    have hn := digitCount_word_le n
    unfold Decimal.quotientDigits
    omega
  refine ⟨(Decimal.ofWhole m).div (.ofWhole n), ?_, Decimal.isTrimmed_div _ _, ?_⟩
  · rw [arith_words_eq hdivides, hnone]
    rfl
  · rw [Decimal.ofWhole, Decimal.ofWhole, Decimal.value_div_ofInt hdividend hdivisor hdigits]
    exact Decimal.isNearest_toScale 16 _

/-- The ratio has seventeen places, so that it is a tie, and is below zero. -/
theorem arith_div_words_tie :
    (-131072 : Whole) ≠ 0 ∧ ¬ (-131072 : Whole).toInt ∣ (1 : Whole).toInt ∧
    ∃ d, arith .div (.int 1) (.int (-131072)) = .ok (.decimal d) ∧ d.IsTrimmed ∧
      Decimal.IsNearest 16 (((1 : Whole).toInt : ℚ) / (-131072 : Whole).toInt) d.value := by
  have hn : (-131072 : Whole) ≠ 0 := by decide
  have hdvd : ¬ (-131072 : Whole).toInt ∣ (1 : Whole).toInt := by decide
  exact ⟨hn, hdvd, arith_div_words hn hdvd⟩

example : (Decimal.ofInt 1).div (.ofInt (-131072)) = ⟨-76293945313, 16⟩ := by decide +kernel

end Value
end RowSql
