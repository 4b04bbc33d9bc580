import RowSql.Number.FloatText
import RowSql.Proofs.Number.Division
import RowSql.Proofs.Number.Notation
/-!
# FloatText — decimals from the texts of floats

The program does not halt over the text of a float (`not_halts_text`), whose scale is far above the least word:
a plain text has no scale below zero, and the exponent of any other is bounded, since the fewest digits of a
float are few and stand at a place that is not far from the point (`select_le`).
-/
namespace RowSql

namespace Binary

theorem ofFloat?_bounds {x : Float} {b : Binary} (h : ofFloat? x = some b) :
    b.mantissa < 2 ^ 53 ∧ -1074 ≤ b.exponent ∧ b.exponent ≤ 971 := by
  have hfraction : x.toBits.toNat % 2 ^ 52 < 2 ^ 52 := Nat.mod_lt _ (by decide)
  have hbiased : x.toBits.toNat / 2 ^ 52 % 2 ^ 11 < 2 ^ 11 := Nat.mod_lt _ (by decide)
  unfold ofFloat? at h
  dsimp only [fractionBits, leastExponent, Nat.pow_eq] at h
  generalize x.toBits.toNat % 2 ^ 52 = fraction at h hfraction
  generalize x.toBits.toNat / 2 ^ 52 % 2 ^ 11 = biased at h hbiased
  split at h
  · cases h
  split at h <;> cases h <;> dsimp only <;> omega

end Binary

namespace Decimal

theorem digitCount_mono {m n : Nat} (h : m ≤ n) : digitCount m ≤ digitCount n :=
  (digitCount_le_iff (digitCount_pos n)).2 (h.trans_lt (lt_pow_digitCount n))

theorem digits_stripZeros_le : ∀ (fuel n : Nat) (s : Int), (stripZeros fuel n s).digits.toNat ≤ n
  | 0, _, _ => le_rfl
  | fuel + 1, n, s => by
    rw [stripZeros]
    split
    · exact (digits_stripZeros_le fuel (n / 10) (s - 1)).trans (Nat.div_le_self n 10)
    · exact le_rfl

end Decimal

namespace Shortest

open Decimal (digitCount digitCount_mono digitCount_le_iff)

variable {i : Interval} {tie : Tie} {b : Binary}

theorem leastPower_le (i : Interval) :
    ∀ (fuel : Nat) (k : Int), k ≤ leastPower i fuel k ∧ leastPower i fuel k ≤ k + fuel
  | 0, k => by simp [leastPower]
  | fuel + 1, k => by
    have hnext := leastPower_le i fuel (k + 1)
    rw [leastPower]
    split <;> omega

theorem search_eq_some : ∀ {fuel d : Nat} {k k' : Int}, search i tie fuel k = some (d, k') →
    k' ≤ k ∧ k < k' + fuel ∧ onGrid i tie k' = some d
  | 0, _, _, _, h => nomatch h
  | fuel + 1, d, k, k', h => by
    rw [search] at h
    split at h
    · rename_i hgrid
      cases h
      exact ⟨le_rfl, by omega, hgrid⟩
    · obtain ⟨hle, hlt, hgrid⟩ := search_eq_some h
      exact ⟨by omega, by omega, hgrid⟩

/-- A point of a grid has the digits of the value, or one more at the last place. -/
theorem onGrid_le {d : Nat} {k : Int} (h : onGrid i tie k = some d) : d ≤ i.value * 10 ^ (-k).toNat + 1 := by
  have hle : i.value * 10 ^ (-k).toNat / (10 ^ k.toNat * i.den) ≤ i.value * 10 ^ (-k).toNat := Nat.div_le_self _ _
  unfold onGrid at h
  dsimp only [Nat.pow_eq] at h
  split at h
  · split at h <;> cases h <;> omega
  · cases h
    omega
  · cases h
    omega
  · cases h

theorem value_interval_le (hm : b.mantissa < 2 ^ 53) (hhigh : b.exponent ≤ 971) : (interval b).value ≤ 2 ^ 1024 := by
  have hpow : 2 ^ (b.exponent - 2).toNat ≤ 2 ^ 969 := pow_le_pow_right₀ (by decide) (by omega)
  calc (interval b).value = 4 * b.mantissa * 2 ^ (b.exponent - 2).toNat := rfl
    _ ≤ 4 * 2 ^ 53 * 2 ^ 969 := Nat.mul_le_mul (Nat.mul_le_mul_left 4 hm.le) hpow
    _ = 2 ^ 1024 := by decide +kernel

/-- The digits of the point of a grid, and the digits that a float has without any rounding. -/
theorem candidate_le (hm : b.mantissa < 2 ^ 53) (hlow : -1074 ≤ b.exponent) (hhigh : b.exponent ≤ 971) {top : Int}
    (hbelow : -400 ≤ top) (habove : top ≤ 400) {d : Nat} {k : Int}
    (h : (search (interval b) tie mostDigits top).getD (b.mantissa * 5 ^ b.exponent.natAbs, b.exponent) = (d, k)) :
    digitCount d ≤ 1500 ∧ k ≤ 971 := by
  rw [digitCount_le_iff (by decide)]
  cases hsearch : search (interval b) tie mostDigits top with
  | none =>
    rw [hsearch, Option.getD_none] at h
    cases h
    have hpow : 5 ^ b.exponent.natAbs ≤ 5 ^ 1074 := pow_le_pow_right₀ (by decide) (by omega)
    refine ⟨?_, hhigh⟩
    calc b.mantissa * 5 ^ b.exponent.natAbs ≤ 2 ^ 53 * 5 ^ 1074 := Nat.mul_le_mul hm.le hpow
      _ < 10 ^ 1500 := by decide +kernel
  | some found =>
    rw [hsearch, Option.getD_some] at h
    subst h
    obtain ⟨hle, hlt, hgrid⟩ := search_eq_some hsearch
    unfold mostDigits at hlt
    have hpow : 10 ^ (-k).toNat ≤ 10 ^ 417 := pow_le_pow_right₀ (by decide) (by omega)
    refine ⟨?_, by omega⟩
    calc d ≤ (interval b).value * 10 ^ (-k).toNat + 1 := onGrid_le hgrid
      _ ≤ 2 ^ 1024 * 10 ^ 417 + 1 := Nat.add_le_add_right (Nat.mul_le_mul (value_interval_le hm hhigh) hpow) 1
      _ < 10 ^ 1500 := by decide +kernel

/-- **The fewest digits of a float are few, and their place is not far from the point.** -/
theorem select_le (tie : Tie) (hm : b.mantissa < 2 ^ 53) (hlow : -1074 ≤ b.exponent) (hhigh : b.exponent ≤ 971) :
    digitCount (select tie b).1 ≤ 1500 ∧ (select tie b).2 ≤ 2471 := by
  have hlog : b.mantissa.log2 < 53 := by
    by_cases hzero : b.mantissa = 0
    · rw [hzero, Nat.log2_zero]
      decide
    · exact (Nat.log2_lt hzero).2 hm
  obtain ⟨hfirst, hlast⟩ := leastPower_le (interval b) 5 (((b.mantissa.log2 : Int) + b.exponent) * 30103 / 100000 - 1)
  unfold select
  dsimp only
  generalize hcandidate : Option.getD _ _ = candidate
  obtain ⟨hcount, hplace⟩ := candidate_le hm hlow hhigh (by omega) (by omega) hcandidate
  have hdigits := Decimal.digits_stripZeros_le (digitCount candidate.1) candidate.1 (-candidate.2)
  have hscale := (Decimal.stripZeros_cases (digitCount candidate.1) candidate.1 (-candidate.2)).1
  exact ⟨(digitCount_mono hdigits).trans hcount, by omega⟩

end Shortest

/-! ## Texts -/

namespace Decimal

theorem isNumeral_of_isDigit {c : Char} (h : c.isDigit = true) :
    isNumeral c = true := by rw [isNumeral, h, Bool.true_or]

theorem IsPlainMagnitude.isNumeral {cs : List Char} (h : IsPlainMagnitude cs) : ∀ c ∈ cs, isNumeral c = true := by
  rcases h with ⟨-, hdigit⟩ | ⟨lead, trail, hlead, htrail, rfl⟩
  · exact fun c hc => isNumeral_of_isDigit (hdigit c hc)
  · exact List.forall_mem_append.2 ⟨fun c hc => isNumeral_of_isDigit (hlead.2 c hc),
      List.forall_mem_cons.2 ⟨rfl, fun c hc => isNumeral_of_isDigit (htrail.2 c hc)⟩⟩

/-- **The scale of a decimal that was read** is a word, and not below zero by more than its exponent. -/
theorem scale_of_parse? {cs : List Char} {d : Decimal} (h : parse? cs = some d) :
    (Whole.least ≤ d.scale ∧ d.scale ≤ Whole.greatest) ∧
      (splitAt? isExponentMark cs = none ∧ 0 ≤ d.scale ∨
        ∃ base exp e, splitAt? isExponentMark cs = some (base, exp) ∧ readExponent exp = some e ∧ -e ≤ d.scale) := by
  unfold parse? at h
  split at h
  · rename_i hsplit
    obtain ⟨_, hbase, h⟩ := Option.bind_eq_some_iff.1 h
    cases hbase
    obtain ⟨⟨digits, places⟩, -, h⟩ := Option.bind_eq_some_iff.1 h
    obtain ⟨hrange, hd⟩ := Option.ite_none_right_eq_some.1 h
    cases hd
    exact ⟨hrange, .inl ⟨hsplit, by dsimp only; omega⟩⟩
  · rename_i base exp hsplit
    obtain ⟨_, hexp, h⟩ := Option.bind_eq_some_iff.1 h
    obtain ⟨e, he, rfl⟩ := Option.map_eq_some_iff.1 hexp
    obtain ⟨⟨digits, places⟩, -, h⟩ := Option.bind_eq_some_iff.1 h
    obtain ⟨hrange, hd⟩ := Option.ite_none_right_eq_some.1 h
    cases hd
    exact ⟨hrange, .inr ⟨base, exp, e, hsplit, he, by dsimp only; omega⟩⟩

theorem readExponent_minus_nonpos {ds : List Char} {e : Int} (h : readExponent ('-' :: ds) = some e) : e ≤ 0 := by
  unfold readExponent at h
  obtain ⟨e', hread, h⟩ := Option.bind_eq_some_iff.1 h
  obtain ⟨n, hn, rfl⟩ := Option.map_eq_some_iff.1 hread
  obtain ⟨m, -, hm⟩ := Option.bind_eq_some_iff.1 hn
  obtain ⟨-, he⟩ := Option.ite_none_right_eq_some.1 h
  cases he
  cases hm
  exact Int.neg_nonpos_of_nonneg (Int.natCast_nonneg m)

end Decimal

namespace FloatText

open Decimal (IsPlainMagnitude AreDigits areDigits_digitChars areDigits_singleton isDigit_zeros
  isPlainMagnitude_plainChars isPlainMagnitude_pointed digitChars digitCount isNumeral isNumeral_of_isDigit
  isExponentMark readExponent)

/-- **The digits of a float are laid out in plain notation**, or an exponent stands behind them. -/
theorem renderDigits_cases (l : FloatLayout) (d : Nat) (k : Int) :
    IsPlainMagnitude (renderDigits l d k) ∨
      ∃ mantissa, IsPlainMagnitude mantissa ∧
        renderDigits l d k = mantissa ++ exponentChars l.exponentPlus (k + ((digitChars d).length - 1 : Nat)) := by
  have hdigits := areDigits_digitChars d
  unfold renderDigits
  dsimp only
  split
  · refine .inl ?_
    unfold positional
    by_cases hk : 0 ≤ k
    · rw [if_pos hk]
      have hwhole : AreDigits (digitChars d ++ Decimal.zeros k.toNat) := hdigits.append (isDigit_zeros _)
      split
      · exact .inr ⟨_, ['0'], hwhole, areDigits_singleton rfl, rfl⟩
      · rw [List.append_nil]
        exact .inl hwhole
    · rw [if_neg hk, decide_eq_false hk, Bool.false_and, if_neg Bool.false_ne_true, List.append_nil]
      exact isPlainMagnitude_plainChars d _
  · exact .inr ⟨_, isPlainMagnitude_pointed hdigits, rfl⟩

theorem isNumeral_exponentChars (plus : Bool) (e : Int) : ∀ c ∈ exponentChars plus e, isNumeral c = true := by
  have hdigits : ∀ n, ∀ c ∈ digitChars n, isNumeral c = true := fun n c hc =>
    isNumeral_of_isDigit ((areDigits_digitChars n).2 c hc)
  refine List.forall_mem_cons.2 ⟨rfl, ?_⟩
  split
  · exact List.forall_mem_cons.2 ⟨rfl, hdigits _⟩
  · cases plus
    · exact hdigits _
    · exact List.forall_mem_cons.2 ⟨rfl, hdigits _⟩

theorem isNumeral_renderDigits (l : FloatLayout) (d : Nat) (k : Int) :
    ∀ c ∈ renderDigits l d k, isNumeral c = true := by
  rcases renderDigits_cases l d k with hplain | ⟨mantissa, hplain, htext⟩
  · exact hplain.isNumeral
  · rw [htext]
    exact List.forall_mem_append.2 ⟨hplain.isNumeral, isNumeral_exponentChars _ _⟩

/-- The exponent that is read from a text is the one that was written, if that is not below zero and not large. -/
theorem readExponent_le {e e' : Int} {exp : List Char} (hexp : exponentChars true e = 'e' :: exp)
    (he : e ≤ Decimal.scaleLimit) (h : readExponent exp = some e') : e' ≤ Decimal.scaleLimit := by
  cases hexp
  by_cases hneg : e < 0
  · rw [if_pos hneg] at h
    exact (Decimal.readExponent_minus_nonpos h).trans (Int.natCast_nonneg _)
  · rw [if_neg hneg, if_pos rfl, List.singleton_append, Decimal.readExponent_plus (by omega)] at h
    cases h
    omega

/-- **The scale in the text of a magnitude** is not far below zero, whatever sign stands before it. -/
theorem neg_le_scale_renderDigits {k : Int} {digits : Nat} (hplace : k + digitCount digits ≤ Decimal.scaleLimit)
    {sign : List Char} (hsign : ∀ c ∈ sign, isExponentMark c = false) {d : Decimal}
    (h : Decimal.parse? (sign ++ renderDigits .json digits k) = some d) : -(Decimal.scaleLimit : Int) ≤ d.scale := by
  have hcount : (digitChars digits).length = digitCount digits := rfl
  obtain ⟨-, ⟨-, hscale⟩ | ⟨base, exp, e, hsplit, he, hscale⟩⟩ := Decimal.scale_of_parse? h
  · exact (Int.neg_nonpos_of_nonneg (Int.natCast_nonneg _)).trans hscale
  rcases renderDigits_cases .json digits k with hplain | ⟨mantissa, hplain, htext⟩
  · have hnone := Decimal.splitAt?_of_forall (List.forall_mem_append.2 ⟨hsign, hplain.not_isExponentMark⟩)
    rw [hnone] at hsplit
    cases hsplit
  · have hsome :=
      Decimal.splitAt?_append (c := 'e') rfl (exponentChars true (k + ((digitChars digits).length - 1 : Nat))).tail
      (List.forall_mem_append.2 ⟨hsign, hplain.not_isExponentMark⟩)
    rw [htext, ← List.append_assoc] at hsplit
    obtain ⟨rfl, rfl⟩ := Prod.mk.inj (Option.some.inj (hsplit.symm.trans hsome))
    have hexp := readExponent_le rfl (by omega) he
    omega

/-- **The text of a finite float** is a sign and digits at a place that is not far from the point. -/
theorem render_of_finite (l : FloatLayout) {x : Float} {b : Binary} (h : Binary.ofFloat? x = some b) :
    ∃ (digits : Nat) (k : Int), k + digitCount digits ≤ Decimal.scaleLimit ∧
      render l x = (if b.negative then ['-'] else []) ++ renderDigits l digits k := by
  obtain ⟨hm, hlow, hhigh⟩ := Binary.ofFloat?_bounds h
  rw [render, h]
  dsimp only
  generalize hselected : (if b.mantissa = 0 then (0, 0) else Shortest.select l.tie b) = selected
  refine ⟨selected.1, selected.2, ?_, by cases b.negative <;> rfl⟩
  by_cases hzero : b.mantissa = 0
  · rw [if_pos hzero] at hselected
    subst hselected
    decide
  · rw [if_neg hzero] at hselected
    subst hselected
    obtain ⟨hcount, hplace⟩ := Shortest.select_le l.tie hm hlow hhigh
    unfold Decimal.scaleLimit
    omega

/-- **The program does not halt over the text of a float.** -/
theorem not_halts_text (x : Float) : Decimal.halts (text .json x) = false := by
  have hchars : (text .json x).toList = render .json x := String.toList_ofList
  cases hfloat : Binary.ofFloat? x with
  | none =>
    have hnull : render .json x = "null".toList := by
      rw [render, hfloat]
      dsimp only
      split <;> rfl
    have hnone : Decimal.parse? (Text.trim "null".toList) = none := by decide
    exact Decimal.not_halts_of_parse?_eq_none (by rw [hchars, hnull, hnone])
  | some b =>
    obtain ⟨digits, k, hplace, htext⟩ := render_of_finite .json hfloat
    have hsign : ∀ c ∈ (if b.negative then ['-'] else []), isNumeral c = true ∧ isExponentMark c = false := by
      cases b.negative with
      | false => exact List.forall_mem_nil _
      | true => exact List.forall_mem_singleton.2 (by decide)
    have htrim : Text.trim (render .json x) = render .json x := by
      rw [htext]
      exact Text.trim_of_forall (List.forall_mem_append.2 ⟨fun c hc => Decimal.not_isSpace_of_isNumeral (hsign c hc).1,
        fun c hc => Decimal.not_isSpace_of_isNumeral (isNumeral_renderDigits _ _ _ c hc)⟩)
    refine Decimal.not_halts_of_forall fun d hparse => ?_
    rw [hchars, htrim, htext] at hparse
    have hlow := neg_le_scale_renderDigits hplace (fun c hc => (hsign c hc).2) hparse
    rintro hleast
    rw [hleast] at hlow
    exact absurd hlow (by decide)

end FloatText

end RowSql
