import RowSql.Proofs.Number.DecimalArith
import RowSql.Proofs.Value.Order
/-!
# Arithmetic — exact results

Without floats the result of an operator is that on the numbers that the operands read as.  Words stay words
while the exact result is one (`toInt_of_wholeArith?`) and are decimals else, and on decimals sums, differences,
products and remainders are exact (`value_decimalArith`); so which of the two an operator works on does not show
in the number of the result (`arith_cases`).
-/
namespace RowSql

/-- **The exact result of an operator on numbers.**  A quotient is not kept exactly. -/
def ArithOp.exact? : ArithOp → ℚ → ℚ → Option ℚ
  | .add, x, y => some (x + y)
  | .sub, x, y => some (x - y)
  | .mul, x, y => some (x * y)
  | .div, _, _ => none
  | .rem, x, y => some (x - y * Decimal.integralPart (x / y))

namespace Value

theorem value_decimalArith (op : ArithOp) (a b : Decimal) :
    ∀ z ∈ op.exact? a.value b.value, (decimalArith op a b).value = z := by
  intro z hz
  cases op with
  | add => exact (Decimal.value_add a b).trans (Option.some.inj hz)
  | sub => exact (Decimal.value_sub a b).trans (Option.some.inj hz)
  | mul => exact (Decimal.value_mul a b).trans (Option.some.inj hz)
  | div => cases hz
  | rem => exact (Decimal.value_rem a b).trans (Option.some.inj hz)

/-- **A result on words is the exact one.** -/
theorem toInt_of_wholeArith? {op : ArithOp} {m n : Int} {w : Whole} (h : wholeArith? op m n = some w) :
    ∀ z ∈ op.exact? m n, (w.toInt : ℚ) = z := by
  intro z hz
  cases op with
  | add =>
    cases hz
    rw [Whole.toInt_ofInt? h, Int.cast_add]
  | sub =>
    cases hz
    rw [Whole.toInt_ofInt? h, Int.cast_sub]
  | mul =>
    cases hz
    rw [Whole.toInt_ofInt? h, Int.cast_mul]
  | div => cases hz
  | rem =>
    cases hz
    rw [wholeArith?] at h
    split at h
    · cases h
    · rw [Whole.toInt_ofInt? h, Int.tmod_def, Decimal.tdiv_eq_integralPart, Int.cast_sub, Int.cast_mul]

/-- **What an operator gives on two numbers**: a fault if it divides by zero, and else a number, the exact one
where there is one. -/
def GivesNumber (op : ArithOp) (x y : ℚ) (result : Eval Value) : Prop :=
  (ArithOp.isDivision op = true ∧ y = 0 ∧ result = .error .divisionByZero) ∨
  (¬ (ArithOp.isDivision op = true ∧ y = 0) ∧
    ∃ v z, result = .ok v ∧ v.number? = some z ∧ ∀ w ∈ op.exact? x y, z = w)

theorem arithDecimal_gives {op : ArithOp} {a b : Value} {d e : Decimal} (ha : a.toDecimal? = some d)
    (hb : b.toDecimal? = some e) : GivesNumber op d.value e.value (arithDecimal op a b) := by
  have hzero : (ArithOp.isDivision op && e.isZero) = true ↔ ArithOp.isDivision op = true ∧ e.value = 0 := by
    rw [Bool.and_eq_true, Decimal.value_eq_zero_iff]
  rw [arithDecimal, ha, hb]
  dsimp only
  by_cases h : (ArithOp.isDivision op && e.isZero) = true
  · rw [if_pos h]
    exact .inl ⟨(hzero.1 h).1, (hzero.1 h).2, rfl⟩
  · rw [if_neg h]
    exact .inr ⟨fun hdivides => h (hzero.2 hdivides), _, _, rfl, rfl, value_decimalArith op d e⟩

/-- Two words give what they give as words, or else what they give as decimals. -/
theorem arith_words_eq {op : ArithOp} {m n : Whole} (h : (ArithOp.isDivision op && n.toInt == 0) = false) :
    arith op (.int m) (.int n) =
      .ok ((wholeArith? op m.toInt n.toInt).elim (.decimal (decimalArith op (.ofWhole m) (.ofWhole n))) .int) := by
  rw [arith, h, if_neg Bool.false_ne_true]
  cases wholeArith? op m.toInt n.toInt with
  | some w => rfl
  | none =>
    have hdecimal : (ArithOp.isDivision op && (Decimal.ofWhole n).isZero) = false := h
    dsimp only [arithDecimal, toDecimal?]
    rw [hdecimal]
    rfl

theorem arith_words_gives (op : ArithOp) (m n : Whole) :
    GivesNumber op m.toInt n.toInt (arith op (.int m) (.int n)) := by
  have hzero : (ArithOp.isDivision op && n.toInt == 0) = true ↔ ArithOp.isDivision op = true ∧ (n.toInt : ℚ) = 0 := by
    rw [Bool.and_eq_true, beq_iff_eq, Int.cast_eq_zero]
  by_cases h : (ArithOp.isDivision op && n.toInt == 0) = true
  · rw [arith, if_pos h]
    exact .inl ⟨(hzero.1 h).1, (hzero.1 h).2, rfl⟩
  · have hdivides : ¬ (ArithOp.isDivision op = true ∧ (n.toInt : ℚ) = 0) := fun hd => h (hzero.2 hd)
    rw [arith_words_eq (Bool.eq_false_iff.2 h)]
    cases hw : wholeArith? op m.toInt n.toInt with
    | some w =>
      refine .inr ⟨hdivides, _, w.toInt, rfl, ?_, toInt_of_wholeArith? hw⟩
      rw [Option.elim_some, number?, toDecimal?, Option.map_some, Decimal.value_ofWhole]
    | none =>
      have hexact := value_decimalArith op (.ofWhole m) (.ofWhole n)
      rw [Decimal.value_ofWhole, Decimal.value_ofWhole] at hexact
      exact .inr ⟨hdivides, _, _, rfl, rfl, hexact⟩

theorem arith_eq_arithDecimal {op : ArithOp} {a b : Value} (ha : a.isFloat = false) (hb : b.isFloat = false)
    (h : ¬ ∃ m n, a = .int m ∧ b = .int n) : arith op a b = .guarded (a.halts || b.halts) (arithDecimal op a b) := by
  unfold arith
  split
  · exact absurd ⟨_, _, rfl, rfl⟩ h
  · rw [ha, hb]
    rfl

/-- An operator halts over either operand. -/
theorem arith_of_halts {a b : Value} (op : ArithOp) (h : a.halts = true ∨ b.halts = true) :
    arith op a b = .error .halt := by
  have hwords : ¬ ∃ m n, a = .int m ∧ b = .int n := by
    rintro ⟨m, n, rfl, rfl⟩
    rcases h with h | h <;> cases h
  unfold arith
  split
  · exact absurd ⟨_, _, rfl, rfl⟩ hwords
  · rw [Bool.or_eq_true_iff.2 h]
    rfl

/-- **What an operator gives without floats**, on operands that the program does not halt over: nothing if one
is no number, and else what it gives on the numbers. -/
theorem arith_cases {a b : Value} (ha : a.isFloat = false) (hb : b.isFloat = false) (hahalts : a.halts = false)
    (hbhalts : b.halts = false) (op : ArithOp) :
    ((a.number? = none ∨ b.number? = none) ∧ arith op a b = .ok .null) ∨
    ∃ x y, a.number? = some x ∧ b.number? = some y ∧ GivesNumber op x y (arith op a b) := by
  by_cases hwords : ∃ m n, a = .int m ∧ b = .int n
  · obtain ⟨m, n, rfl, rfl⟩ := hwords
    refine .inr ⟨m.toInt, n.toInt, ?_, ?_, arith_words_gives op m n⟩
    all_goals rw [number?, toDecimal?, Option.map_some, Decimal.value_ofWhole]
  · rw [arith_eq_arithDecimal ha hb hwords, hahalts, hbhalts, Bool.or_false, Eval.guarded_false]
    cases hd : a.toDecimal? with
    | none =>
      refine .inl ⟨.inl (by rw [number?, hd, Option.map_none]), ?_⟩
      rw [arithDecimal, hd]
    | some d =>
      cases he : b.toDecimal? with
      | none =>
        refine .inl ⟨.inr (by rw [number?, he, Option.map_none]), ?_⟩
        rw [arithDecimal, hd, he]
      | some e =>
        refine .inr ⟨d.value, e.value, ?_, ?_, arithDecimal_gives hd he⟩
        · rw [number?, hd, Option.map_some]
        · rw [number?, he, Option.map_some]

/-- What an operator gives without floats, as conditions for each kind of result. -/
theorem arith_exact_of_not_halts {a b : Value} (ha : a.isFloat = false) (hb : b.isFloat = false)
    (hahalts : a.halts = false) (hbhalts : b.halts = false) (op : ArithOp) :
    (arith op a b = .ok .null ↔ a.number? = none ∨ b.number? = none) ∧
    (arith op a b = .error .divisionByZero ↔ (op = .div ∨ op = .rem) ∧ (∃ x, a.number? = some x) ∧ b.number? = some 0) ∧
    (∀ fault, arith op a b = .error fault → fault = .divisionByZero) ∧
    ∀ x y, a.number? = some x → b.number? = some y → ¬ ((op = .div ∨ op = .rem) ∧ y = 0) →
      ∃ v z, arith op a b = .ok v ∧ v.number? = some z ∧ ∀ w ∈ op.exact? x y, z = w := by
  have hdivision : ArithOp.isDivision op = true ↔ op = .div ∨ op = .rem := by cases op <;> simp [ArithOp.isDivision]
  rw [← hdivision]
  rcases arith_cases ha hb hahalts hbhalts op with
    ⟨hnone, hr⟩ | ⟨x, y, hx, hy, ⟨hdiv, rfl, hr⟩ | ⟨hdiv, v, z, hr, hz, hexact⟩⟩
  · rw [hr]
    refine ⟨⟨fun _ => hnone, fun _ => rfl⟩, ⟨nofun, ?_⟩, nofun, ?_⟩
    · rintro ⟨-, ⟨x, hx⟩, hy⟩
      simp [hx, hy] at hnone
    · intro x y hx hy
      simp [hx, hy] at hnone
  · rw [hr, hx, hy]
    refine ⟨by simp, ⟨fun _ => ⟨hdiv, ⟨x, rfl⟩, rfl⟩, fun _ => rfl⟩, ?_, ?_⟩
    · rintro fault ⟨⟩
      rfl
    · rintro _ _ ⟨⟩ ⟨⟩ hne
      exact absurd ⟨hdiv, rfl⟩ hne
  · have hpresent : v ≠ .null := by
      rintro rfl
      cases hz
    rw [hr, hx, hy]
    refine ⟨by simp [hpresent], ⟨nofun, ?_⟩, nofun, ?_⟩
    · rintro ⟨hdivides, -, hzero⟩
      exact absurd ⟨hdivides, Option.some.inj hzero⟩ hdiv
    · rintro _ _ ⟨⟩ ⟨⟩ -
      exact ⟨v, z, rfl, hz, hexact⟩

/-- **Exact arithmetic without floats.**  The program halts exactly if it halts over an operand.  Otherwise the
result is nothing exactly if an operand is no number, it is the fault of division by zero exactly for a quotient
or remainder of two numbers of which the second is zero, and it is no other fault.  In all other cases it is a
number, which is the exact one for sums, differences, products and remainders. -/
theorem arith_exact {a b : Value} (ha : a.isFloat = false) (hb : b.isFloat = false) (op : ArithOp) :
    (arith op a b = .error .halt ↔ a.halts = true ∨ b.halts = true) ∧
    (¬ (a.halts = true ∨ b.halts = true) →
      (arith op a b = .ok .null ↔ a.number? = none ∨ b.number? = none) ∧
      (arith op a b = .error .divisionByZero ↔ (op = .div ∨ op = .rem) ∧ (∃ x, a.number? = some x) ∧
        b.number? = some 0) ∧
      (∀ fault, arith op a b = .error fault → fault = .divisionByZero) ∧
      ∀ x y, a.number? = some x → b.number? = some y → ¬ ((op = .div ∨ op = .rem) ∧ y = 0) →
        ∃ v z, arith op a b = .ok v ∧ v.number? = some z ∧ ∀ w ∈ op.exact? x y, z = w) := by
  have hexact : ¬ (a.halts = true ∨ b.halts = true) → _ := fun h =>
    arith_exact_of_not_halts ha hb (eq_false_of_ne_true fun hahalts => h (.inl hahalts))
      (eq_false_of_ne_true fun hbhalts => h (.inr hbhalts)) op
  refine ⟨⟨fun h => ?_, arith_of_halts op⟩, hexact⟩
  by_contra hneither
  cases (hexact hneither).2.2.1 _ h

/-- The remainder of the least word by a text: five halves go into it toward zero, and minus one half is left. -/
theorem arith_exact_leastWord :
    (int Int64.minValue).isFloat = false ∧ (text "-2.5").isFloat = false ∧
    ¬ ((int Int64.minValue).halts = true ∨ (text "-2.5").halts = true) ∧
    ∃ v, arith .rem (int Int64.minValue) (text "-2.5") = .ok v ∧ v.number? = some (-1 / 2) := by
  have hread : (text "-2.5").toDecimal? = some ⟨-25, 1⟩ := by decide +kernel
  have hx : (int Int64.minValue).number? = some (-9223372036854775808) := by
    have hleast : Int64.minValue.toInt = -9223372036854775808 := by decide
    rw [number?, toDecimal?, Option.map_some, Decimal.value_ofWhole, hleast]
    norm_num
  have hy : (text "-2.5").number? = some (-5 / 2) := by
    rw [number?, hread, Option.map_some, Decimal.value]
    norm_num
  have hhalts : ¬ ((int Int64.minValue).halts = true ∨ (text "-2.5").halts = true) := by
    rw [not_halts_of_number? hx, not_halts_of_number? hy]
    decide
  obtain ⟨-, -, -, hgives⟩ := (arith_exact (a := int Int64.minValue) (b := text "-2.5") rfl rfl .rem).2 hhalts
  obtain ⟨v, z, hv, hz, hexact⟩ := hgives _ _ hx hy (by norm_num)
  refine ⟨rfl, rfl, hhalts, v, hv, ?_⟩
  rw [hz, hexact _ rfl, Decimal.integralPart]
  norm_num

/-- A text that is no number makes the result nothing, but this one halts the program. -/
theorem arith_halts :
    (text Decimal.haltingText).isFloat = false ∧ (int 1).isFloat = false ∧ (text Decimal.haltingText).number? = none ∧
    arith .add (text Decimal.haltingText) (int 1) = .error .halt ∧
      arith .add (text Decimal.haltingText) (int 1) ≠ .ok .null := by
  have hread : Decimal.ofText? Decimal.haltingText = none := by decide +kernel
  have hhalts := arith_of_halts (a := text Decimal.haltingText) (b := int 1) .add (.inl Decimal.halts_haltingText)
  refine ⟨rfl, rfl, congrArg (Option.map Decimal.value) hread, hhalts, ?_⟩
  rw [hhalts]
  nofun

end Value
end RowSql
