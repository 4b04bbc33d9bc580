import RowSql.Proofs.Number.DecimalLayouts
import RowSql.Proofs.Value.Narrowing
import RowSql.Proofs.Value.Words
/-!
# Coercion — columns of a type read what was written

The text that is written for a value is read back by a column of the type of the value (`coerce_written`).
Words and truth values come back as they were; a decimal comes back with its value, and its scale is the one
that its text has (`Decimal.reread`).
-/
namespace RowSql

/-- What is counted of a word is at most nineteen digits. -/
theorem Decimal.isCounted_ofWhole (n : Whole) : (Decimal.ofWhole n).IsCounted := by
  have hdigits := Value.digitCount_word_le n
  have hscale : Whole.least ≤ 0 ∧ (0 : Int) ≤ Whole.greatest := by decide
  refine ⟨?_, hscale, ?_⟩
  · change (Decimal.digitCount n.toInt.natAbs : Int) ≤ Whole.greatest
    unfold Whole.greatest
    omega
  · change (Decimal.digitCount n.toInt.natAbs : Int) - 0 ≤ Whole.greatest
    unfold Whole.greatest
    omega

namespace Value

theorem coerce_decimal_text (s : String) : FieldType.decimal.coerce (.text s) = .ofDecimal? (Decimal.ofText? s) := by
  unfold FieldType.coerce
  split
  · contradiction
  · contradiction
  · rename_i hempty _
    cases hempty
    rfl
  all_goals first | rfl | contradiction

theorem coerce_bool_render (b : Bool) : FieldType.bool.coerce (.text (bool b).render) = .bool b := by
  cases b <;> rfl

theorem coerce_whole_render (n : Whole) : FieldType.whole.coerce (.text (int n).render) = .int n := by
  have hread : (text (int n).render).toWhole? = wholeOfDecimal? (.ofWhole n) := by
    change (Decimal.ofText? (toString n.toInt)).bind wholeOfDecimal? = _
    rw [Decimal.ofText?_toString_int, Option.bind_some]
    rfl
  have hscale : ¬ (Decimal.ofWhole n).scale < -18 := (by decide : ¬ (0 : Int) < -18)
  have hword : wholeOfDecimal? (.ofWhole n) = some n := by
    rw [wholeOfDecimal?_eq_some_iff (Decimal.isCounted_ofWhole n), Decimal.value_ofWhole, Decimal.integralPart_intCast]
    exact ⟨rfl, fun h => hscale h.2⟩
  rw [coerce_whole, hread, hword]
  rfl

theorem coerce_decimal_render {d : Decimal} (hs : d.scale.natAbs ≤ Decimal.scaleLimit) :
    FieldType.decimal.coerce (.text (decimal d).render) = .decimal d.reread := by
  rw [coerce_decimal_text, render, Decimal.ofText?_toString hs]
  rfl

/-- **A column of the type of a value reads the text of the value as that value**: a truth value, a word or a
text itself, and a decimal, unless its scale is one that is not read from data, as a decimal that is numerically
equal. -/
theorem coerce_written :
    (∀ b : Bool, FieldType.bool.coerce (.text (bool b).render) = .bool b) ∧
    (∀ n : Whole, FieldType.whole.coerce (.text (int n).render) = .int n) ∧
    (∀ s : String, FieldType.text.coerce (.text (text s).render) = .text s) ∧
    ∀ d : Decimal, -4096 ≤ d.scale → d.scale ≤ 4096 →
      ∃ d' : Decimal, FieldType.decimal.coerce (.text (decimal d).render) = .decimal d' ∧ d'.value = d.value := by
  refine ⟨coerce_bool_render, coerce_whole_render, fun _ => rfl, fun d hlow hhigh => ?_⟩
  have hs : d.scale.natAbs ≤ Decimal.scaleLimit := by
    unfold Decimal.scaleLimit
    omega
  exact ⟨d.reread, coerce_decimal_render hs, d.value_reread⟩

/-- The least word has nineteen digits, and the decimals are written in plain digits, with zeros, and with
exponents of both signs. -/
theorem coerce_written_layouts :
    FieldType.whole.coerce (.text (int Int64.minValue).render) = .int Int64.minValue ∧
    ∀ d ∈ [(⟨-150, 2⟩ : Decimal), ⟨12, -15⟩, ⟨12, -4096⟩, ⟨-1, 4096⟩], -4096 ≤ d.scale ∧ d.scale ≤ 4096 ∧
      ∃ d' : Decimal, FieldType.decimal.coerce (.text (decimal d).render) = .decimal d' ∧ d'.value = d.value := by
  have hrange : ∀ d ∈ [(⟨-150, 2⟩ : Decimal), ⟨12, -15⟩, ⟨12, -4096⟩, ⟨-1, 4096⟩],
      -4096 ≤ d.scale ∧ d.scale ≤ 4096 := by decide
  refine ⟨coerce_written.2.1 _, fun d hd => ?_⟩
  obtain ⟨hlow, hhigh⟩ := hrange d hd
  exact ⟨hlow, hhigh, coerce_written.2.2.2 d hlow hhigh⟩

example : [(⟨-150, 2⟩ : Decimal), ⟨12, -15⟩, ⟨12, -4096⟩, ⟨-1, 4096⟩].map toString =
    ["-1.50", "12000000000000000", "12e+4096", "-1E-4096"] := by decide +kernel

end Value
end RowSql
