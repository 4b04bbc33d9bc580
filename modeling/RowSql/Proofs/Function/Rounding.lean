import RowSql.Function.Numbers
import RowSql.Proofs.Value.Narrowing
/-!
# Rounding — the functions that round numbers

Without floats the functions that round are those of exact numbers, whatever kind of value a number comes in: a
result is the rounded decimal, narrowed where it can be whole (`integral_eq_narrow`, `rescale_eq`).  So what
holds of the numbers holds of the functions: what they round to, that they round no further a second time, and
how they stand to each other.
-/
namespace RowSql
namespace Value

theorem reads_narrow (d : Decimal) : (narrow d).Reads d.value := ⟨isFloat_narrow d, number?_narrow d⟩

theorem negate_eq_narrow {v : Value} {d : Decimal} (hv : v.isFloat = false) (hd : v.toDecimal? = some d) :
    v.negate = narrow d.neg := by
  cases v with
  | int n =>
    cases hd
    exact (narrow_ofInt (-n.toInt)).symm
  | float x => cases hv
  | _ => exact congrArg (Option.elim · .null fun d => narrow d.neg) hd

theorem Reads.negate {v : Value} {x : ℚ} (h : v.Reads x) : v.negate.Reads (-x) := by
  obtain ⟨d, hd, rfl⟩ := h.exists_decimal
  rw [negate_eq_narrow h.noFloat hd, ← Decimal.value_neg]
  exact reads_narrow _

end Value

namespace NumberFunction

open Value (Reads narrow)
open Decimal (Rounding)

variable {v : Value} {d : Decimal}

theorem integral_eq_narrow (mode : Rounding) (f : Float → Float) (hv : v.isFloat = false) (hd : v.toDecimal? = some d) :
    integral mode f v = narrow (d.rescale mode 0) := by
  cases v with
  | int n =>
    cases hd
    refine (Value.narrow_eq_int ?_).symm
    rw [Decimal.value_rescale, Rounding.toScale_zero, Decimal.value_ofWhole, Rounding.whole_intCast]
  | float x => cases hv
  | _ => exact congrArg (Option.elim · .null fun d => narrow (d.rescale mode 0)) hd

theorem rescale_eq (mode : Rounding) {scale : Option Value} {s : Int} (hv : v.isFloat = false)
    (hd : v.toDecimal? = some d) (hs : scaleOf? scale = some s) :
    rescale mode v scale = if s ≤ 0 then narrow (d.rescale mode s) else .decimal (d.rescale mode s) := by
  rw [rescale, hs, hd]
  cases v with
  | float x => cases hv
  | _ => rfl

theorem scaleOf?_int {s : Whole} (hlow : -1000 ≤ s.toInt) (hhigh : s.toInt ≤ 1000) :
    scaleOf? (some (.int s)) = some s.toInt := by
  rw [scaleOf?, Value.toWhole?, Option.map_some, Option.filter_some, if_pos]
  simp [scaleLimit, hlow, hhigh]

variable {x : ℚ}

theorem integral_reads (mode : Rounding) (f : Float → Float) (hv : v.Reads x) :
    (integral mode f v).Reads (mode.whole x) := by
  obtain ⟨d, hd, rfl⟩ := hv.exists_decimal
  rw [integral_eq_narrow mode f hv.noFloat hd, ← Rounding.toScale_zero, ← Decimal.value_rescale]
  exact Value.reads_narrow _

theorem rescale_reads (mode : Rounding) {scale : Option Value} {s : Int} (hs : scaleOf? scale = some s)
    (hv : v.Reads x) :
    (rescale mode v scale).Reads (mode.toScale s x) := by
  obtain ⟨d, hd, rfl⟩ := hv.exists_decimal
  rw [rescale_eq mode hv.noFloat hd hs, ← Decimal.value_rescale]
  split
  · exact Value.reads_narrow _
  · exact ⟨rfl, rfl⟩

/-- A whole result is a word where it has one. -/
theorem integral_eq_int (mode : Rounding) (f : Float → Float) (hv : v.Reads x) {n : Whole}
    (hn : (n.toInt : ℚ) = mode.whole x) :
    integral mode f v = .int n := by
  obtain ⟨d, hd, rfl⟩ := hv.exists_decimal
  rw [integral_eq_narrow mode f hv.noFloat hd]
  exact Value.narrow_eq_int (by rw [Decimal.value_rescale, Rounding.toScale_zero, hn])

theorem rescale_eq_int (mode : Rounding) {scale : Option Value} {s : Int} (hs : scaleOf? scale = some s)
    (hv : v.Reads x)
    (hwhole : s ≤ 0) {n : Whole} (hn : (n.toInt : ℚ) = mode.toScale s x) : rescale mode v scale = .int n := by
  obtain ⟨d, hd, rfl⟩ := hv.exists_decimal
  rw [rescale_eq mode hv.noFloat hd hs, if_pos hwhole]
  exact Value.narrow_eq_int (by rw [Decimal.value_rescale, hn])

/-- **What holds of the result `r`, the number `z`, of rounding the number `x` to a scale.** -/
structure RoundedBy (f : NumberFunction) (s : Whole) (x : ℚ) (r : Value) (z : ℚ) : Prop where
  reads : r.Reads z
  /-- Rounding it again changes nothing. -/
  again : ∃ r', f.apply [r, .int s] = .ok r' ∧ r'.Reads z
  /-- The opposite number is rounded to the opposite one. -/
  opposite : ∀ w : Value, w.Reads (-x) → ∃ r', f.apply [w, .int s] = .ok r' ∧ r'.Reads (-z)
  /-- Without places it is a word where it has one. -/
  word : s.toInt ≤ 0 → ∀ n : Whole, (n.toInt : ℚ) = z → r = .int n

theorem exists_roundedBy {f : NumberFunction} {mode : Rounding}
    (hf : ∀ w scale, f.apply [w, scale] = .ok (rescale mode w (some scale)))
    (hodd : ∀ q, mode.whole (-q) = -mode.whole q)
    {s : Whole} (hlow : -1000 ≤ s.toInt) (hhigh : s.toInt ≤ 1000) (hv : v.Reads x) :
    ∃ r, f.apply [v, .int s] = .ok r ∧ RoundedBy f s x r (mode.toScale s.toInt x) := by
  have hs := scaleOf?_int hlow hhigh
  refine ⟨_, hf v _, rescale_reads mode hs hv, ⟨_, hf _ _, ?_⟩, fun w hw => ⟨_, hf w _, ?_⟩, fun hwhole n hn => ?_⟩
  · have htwice := rescale_reads mode hs (rescale_reads mode hs hv)
    rwa [Rounding.toScale_toScale] at htwice
  · have hopposite := rescale_reads mode hs hw
    rwa [Rounding.toScale_neg hodd] at hopposite
  · exact rescale_eq_int mode hs hv hwhole hn

theorem isGreatest_floor (x : ℚ) : IsGreatest {z : ℚ | (∃ n : ℤ, z = n) ∧ z ≤ x} ⌊x⌋ := by
  refine ⟨⟨⟨_, rfl⟩, Int.floor_le x⟩, ?_⟩
  rintro _ ⟨⟨n, rfl⟩, hn⟩
  exact_mod_cast Int.le_floor.2 hn

/-- **Rounding functions round exactly and agree with each other.**  Of a number `x` that is no float,
truncation gives the multiple nearest to it toward zero and rounding the nearest one, a tie away from zero; both
keep what they gave, and give the opposite for the opposite.  The floor is the greatest whole number that is not
above `x`, the ceiling is the opposite of the floor of the opposite, and the rounded number is between them.
Results without places are words where they have one. -/
theorem rounding_exact (hv : v.Reads x) :
    v.negate.Reads (-x) ∧
    (∀ s : Whole, -1000 ≤ s.toInt → s.toInt ≤ 1000 →
      (∃ r z, NumberFunction.apply .truncate [v, .int s] = .ok r ∧ Decimal.IsTowardZero s.toInt x z ∧
        RoundedBy .truncate s x r z) ∧
      (∃ r z, NumberFunction.apply .round [v, .int s] = .ok r ∧ Decimal.IsNearest s.toInt x z ∧
        RoundedBy .round s x r z)) ∧
    ∃ low middle high : Value, ∃ a b c : ℚ,
      NumberFunction.apply .floor [v] = .ok low ∧ low.Reads a ∧ IsGreatest {z : ℚ | (∃ n : ℤ, z = n) ∧ z ≤ x} a ∧
      NumberFunction.apply .round [v] = .ok middle ∧ middle.Reads b ∧ Decimal.IsNearest 0 x b ∧
      NumberFunction.apply .ceil [v] = .ok high ∧ high.Reads c ∧
      (∀ w : Value, w.Reads (-x) → ∃ r, NumberFunction.apply .floor [w] = .ok r ∧ r.Reads (-c)) ∧
      a ≤ b ∧ b ≤ c ∧
      (∀ n : Whole, (n.toInt : ℚ) = a → low = .int n) ∧ (∀ n : Whole, (n.toInt : ℚ) = c → high = .int n) := by
  refine ⟨hv.negate, fun s hlow hhigh => ⟨?_, ?_⟩, ?_⟩
  · obtain ⟨r, hr, hrounded⟩ :=
      exists_roundedBy (f := .truncate) (fun _ _ => rfl) Decimal.integralPart_neg hlow hhigh hv
    exact ⟨r, _, hr, Decimal.isTowardZero_toScale s.toInt x, hrounded⟩
  · obtain ⟨r, hr, hrounded⟩ := exists_roundedBy (f := .round) (fun _ _ => rfl) Decimal.nearestWhole_neg hlow hhigh hv
    exact ⟨r, _, hr, Decimal.isNearest_toScale s.toInt x, hrounded⟩
  · have hplain : scaleOf? none = some 0 := rfl
    have hmiddle := rescale_reads .halfUp hplain hv
    refine ⟨_, _, _, ⌊x⌋, _, ⌈x⌉, rfl, integral_reads .floor Float.floor hv, isGreatest_floor x, rfl, hmiddle,
      Decimal.isNearest_toScale 0 x, rfl, integral_reads .ceiling Float.ceil hv, fun w hw => ⟨_, rfl, ?_⟩, ?_, ?_,
      fun n hn => integral_eq_int .floor Float.floor hv hn, fun n hn => integral_eq_int .ceiling Float.ceil hv hn⟩
    · have hfloor := integral_reads .floor Float.floor hw
      rwa [Rounding.whole, Int.floor_neg, Int.cast_neg] at hfloor
    · rw [Rounding.toScale_zero]
      exact_mod_cast Decimal.floor_le_nearestWhole x
    · rw [Rounding.toScale_zero]
      exact_mod_cast Decimal.nearestWhole_le_ceil x

/-- A text that is a tie below zero, at tens. -/
theorem rounding_exact_tieText :
    (Value.text "-2.5e1").Reads (-25) ∧ -1000 ≤ (-1 : Whole).toInt ∧ (-1 : Whole).toInt ≤ 1000 ∧
    ∃ r z, NumberFunction.apply .round [.text "-2.5e1", .int (-1)] = .ok r ∧
      Decimal.IsNearest (-1 : Whole).toInt (-25) z ∧
      RoundedBy .round (-1) (-25) r z := by
  have hread : (Value.text "-2.5e1").toDecimal? = some ⟨-25, 0⟩ := by decide +kernel
  have hreads : (Value.text "-2.5e1").Reads (-25) := by
    refine ⟨rfl, ?_⟩
    rw [Value.number?, hread, Option.map_some, Decimal.value]
    norm_num
  have hlow : -1000 ≤ (-1 : Whole).toInt := by decide
  have hhigh : (-1 : Whole).toInt ≤ 1000 := by decide
  exact ⟨hreads, hlow, hhigh, ((rounding_exact hreads).2.1 (-1) hlow hhigh).2⟩

end NumberFunction
end RowSql
