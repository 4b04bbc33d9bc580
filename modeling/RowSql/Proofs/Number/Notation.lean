import RowSql.Proofs.Number.DecimalLayouts
import RowSql.Value
/-!
# Notation — plain numbers and numbers with an exponent

A decimal is written in plain notation as long as few zeros stand in for its scale, and with an exponent beyond
(`render_plain_iff`).  Where that is depends on the scale and on the number of digits, and not on the magnitude
alone: ten at scale -15 is plain, and the same number as one at scale -16 is not.  A zero is plain at every
scale.
-/
namespace RowSql
namespace Decimal

/-- At least one character, and digits only. -/
def AreDigits (cs : List Char) : Prop := cs ≠ [] ∧ ∀ c ∈ cs, c.isDigit = true

/-- Digits, and perhaps a point with digits behind it. -/
def IsPlainMagnitude (cs : List Char) : Prop :=
  AreDigits cs ∨ ∃ lead trail, AreDigits lead ∧ AreDigits trail ∧ cs = lead ++ '.' :: trail

/-- **Plain notation**: an optional minus sign, digits, and perhaps a point with digits behind it. -/
def IsPlain (cs : List Char) : Prop :=
  ∃ magnitude, IsPlainMagnitude magnitude ∧ (cs = magnitude ∨ cs = '-' :: magnitude)

/-- **Notation with an exponent**: behind plain notation stand a mark, a sign and digits. -/
def HasExponent (cs : List Char) : Prop :=
  ∃ mantissa mark sign exponent, IsPlain mantissa ∧ isExponentMark mark = true ∧ (sign = '+' ∨ sign = '-') ∧
    AreDigits exponent ∧ cs = mantissa ++ mark :: sign :: exponent

theorem areDigits_digitChars (n : Nat) : AreDigits (digitChars n) := ⟨digitChars_ne_nil n, isDigit_digitChars n⟩

theorem areDigits_singleton {c : Char} (h : c.isDigit = true) : AreDigits [c] :=
  ⟨List.cons_ne_nil c [], List.forall_mem_singleton.2 h⟩

theorem AreDigits.append {cs ds : List Char} (h : AreDigits cs) (hds : ∀ c ∈ ds, c.isDigit = true) :
    AreDigits (cs ++ ds) :=
  ⟨List.append_ne_nil_of_left_ne_nil h.1 ds, List.forall_mem_append.2 ⟨h.2, hds⟩⟩

/-! ## No text is written in both notations -/

theorem IsPlainMagnitude.not_isExponentMark {cs : List Char} (h : IsPlainMagnitude cs) :
    ∀ c ∈ cs, isExponentMark c = false := by
  rcases h with ⟨-, hdigit⟩ | ⟨lead, trail, hlead, htrail, rfl⟩
  · exact fun c hc => Decimal.not_isExponentMark (hdigit c hc)
  · exact List.forall_mem_append.2 ⟨fun c hc => Decimal.not_isExponentMark (hlead.2 c hc),
      List.forall_mem_cons.2 ⟨rfl, fun c hc => Decimal.not_isExponentMark (htrail.2 c hc)⟩⟩

theorem HasExponent.not_isPlain {cs : List Char} (h : HasExponent cs) : ¬ IsPlain cs := by
  obtain ⟨mantissa, mark, sign, exponent, -, hmark, -, -, rfl⟩ := h
  rintro ⟨magnitude, hplain, hcs⟩
  have hmem : mark ∈ mantissa ++ mark :: sign :: exponent := List.mem_append_right _ List.mem_cons_self
  have hunmarked : isExponentMark mark = false := by
    rcases hcs with hcs | hcs <;> rw [hcs] at hmem
    · exact hplain.not_isExponentMark mark hmem
    · rcases List.mem_cons.1 hmem with rfl | hmem
      · rfl
      · exact hplain.not_isExponentMark mark hmem
  rw [hmark] at hunmarked
  cases hunmarked

/-! ## The notation of a magnitude -/

theorem isPlainMagnitude_plainChars (n places : Nat) : IsPlainMagnitude (plainChars (digitChars n) places) := by
  have hdigits := areDigits_digitChars n
  unfold plainChars
  split
  · exact .inl hdigits
  split
  · -- a zero stands before the point, and zeros may stand behind it
    have htrail : AreDigits (zeros (places - (digitChars n).length) ++ digitChars n) :=
      ⟨List.append_ne_nil_of_right_ne_nil _ hdigits.1, List.forall_mem_append.2 ⟨isDigit_zeros _, hdigits.2⟩⟩
    exact .inr ⟨_, _, areDigits_singleton (c := '0') rfl, htrail, rfl⟩
  · have hlead : AreDigits ((digitChars n).take ((digitChars n).length - places)) :=
      ⟨List.ne_nil_of_length_pos (by rw [List.length_take]; omega), fun c hc => hdigits.2 c (List.mem_of_mem_take hc)⟩
    have htrail : AreDigits ((digitChars n).drop ((digitChars n).length - places)) :=
      ⟨List.ne_nil_of_length_pos (by rw [List.length_drop]; omega), fun c hc => hdigits.2 c (List.mem_of_mem_drop hc)⟩
    exact .inr ⟨_, _, hlead, htrail, rfl⟩

theorem isPlainMagnitude_pointed {ds : List Char} (h : AreDigits ds) : IsPlainMagnitude (pointed ds) := by
  obtain ⟨hne, hdigit⟩ := h
  rcases ds with _ | ⟨d, _ | ⟨d', ds⟩⟩
  · exact absurd rfl hne
  · exact .inl ⟨hne, hdigit⟩
  · obtain ⟨hd, hrest⟩ := List.forall_mem_cons.1 hdigit
    exact .inr ⟨[d], d' :: ds, areDigits_singleton hd, ⟨List.cons_ne_nil _ _, hrest⟩, rfl⟩

/-- Few zeros stand in for a scale: at most `trailingZeroLimit` behind the last digit, and at most
`leadingZeroLimit` between the point and the first one. -/
def FewZeros (n : Nat) (scale : Int) : Prop :=
  -(trailingZeroLimit : Int) ≤ scale ∧ scale ≤ digitCount n + leadingZeroLimit

theorem isPlainMagnitude_renderMagnitude {n : Nat} {scale : Int} (h : FewZeros n scale) :
    IsPlainMagnitude (renderMagnitude n scale) := by
  obtain ⟨hlow, hhigh⟩ := h
  have hcount : (digitChars n).length = digitCount n := rfl
  unfold renderMagnitude
  dsimp only
  split
  · rw [if_neg (by omega)]
    exact isPlainMagnitude_plainChars n _
  · rw [if_pos (by omega)]
    exact .inl ((areDigits_digitChars n).append (isDigit_zeros _))

theorem exists_exponent_renderMagnitude {n : Nat} {scale : Int} (h : ¬ FewZeros n scale) :
    ∃ mantissa mark sign exponent, IsPlainMagnitude mantissa ∧ isExponentMark mark = true ∧ (sign = '+' ∨ sign = '-') ∧
      AreDigits exponent ∧ renderMagnitude n scale = mantissa ++ mark :: sign :: exponent := by
  have hdigits := areDigits_digitChars n
  have hcount : (digitChars n).length = digitCount n := rfl
  unfold FewZeros at h
  unfold renderMagnitude
  dsimp only
  split
  · rw [if_pos (by omega)]
    exact ⟨_, _, _, _, isPlainMagnitude_pointed hdigits, rfl, .inr rfl, areDigits_digitChars _, rfl⟩
  · rw [if_neg (by omega)]
    exact ⟨_, _, _, _, .inl hdigits, rfl, .inl rfl, areDigits_digitChars _, rfl⟩

/-! ## The notation of a decimal -/

theorem isPlain_render {d : Decimal} (h : d.digits = 0 ∨ FewZeros d.digits.natAbs d.scale) : IsPlain d.render := by
  unfold render
  split
  · exact ⟨['0'], .inl (areDigits_singleton rfl), .inl rfl⟩
  rename_i hzero
  have hplain := isPlainMagnitude_renderMagnitude (h.resolve_left fun h => hzero (beq_iff_eq.2 h))
  split
  · exact ⟨_, hplain, .inr rfl⟩
  · exact ⟨_, hplain, .inl rfl⟩

theorem hasExponent_render {d : Decimal} (h : ¬ (d.digits = 0 ∨ FewZeros d.digits.natAbs d.scale)) :
    HasExponent d.render := by
  obtain ⟨hzero, hzeros⟩ := not_or.1 h
  obtain ⟨mantissa, mark, sign, exponent, hplain, hmark, hsign, hexponent, hrender⟩ :=
    exists_exponent_renderMagnitude hzeros
  have hsome : ¬ d.isZero = true := fun h => hzero (beq_iff_eq.1 h)
  rw [render, if_neg hsome, hrender]
  split
  · exact ⟨'-' :: mantissa, mark, sign, exponent, ⟨mantissa, hplain, .inr rfl⟩, hmark, hsign, hexponent, rfl⟩
  · exact ⟨mantissa, mark, sign, exponent, ⟨mantissa, hplain, .inl rfl⟩, hmark, hsign, hexponent, rfl⟩

end Decimal

namespace Value

open Decimal (IsPlain HasExponent FewZeros digitCount areDigits_singleton)

/-- **A decimal is written in plain notation exactly if it is zero or few zeros stand in for its scale**: its
scale is at least -15 and at most five above the number of its digits.  Every other decimal is written with an
exponent. -/
theorem render_plain_iff (d : Decimal) :
    (IsPlain (decimal d).render.toList ↔
      d.digits = 0 ∨ -15 ≤ d.scale ∧ d.scale ≤ digitCount d.digits.natAbs + 5) ∧
    (HasExponent (decimal d).render.toList ↔ ¬ IsPlain (decimal d).render.toList) := by
  have hchars : (decimal d).render.toList = d.render := String.toList_ofList
  rw [hchars]
  have hiff : IsPlain d.render ↔ d.digits = 0 ∨ FewZeros d.digits.natAbs d.scale :=
    ⟨fun hplain => by_contra fun h => (Decimal.hasExponent_render h).not_isPlain hplain, Decimal.isPlain_render⟩
  exact ⟨hiff, HasExponent.not_isPlain, fun h => Decimal.hasExponent_render (mt hiff.2 h)⟩

/-- One at scale 7 is written with an exponent. -/
theorem render_not_plain :
    ¬ ∀ d : Decimal, -4096 ≤ d.scale → d.scale ≤ 4096 → IsPlain (decimal d).render.toList := by
  intro h
  have hplain := h ⟨1, 7⟩ (by decide) (by decide)
  have hexponent : HasExponent (decimal ⟨1, 7⟩).render.toList :=
    ⟨['1'], 'E', '-', ['7'], ⟨['1'], .inl (areDigits_singleton rfl), .inl rfl⟩, rfl, .inr rfl, areDigits_singleton rfl,
      by decide +kernel⟩
  exact hexponent.not_isPlain hplain

example : [(⟨10, -15⟩ : Decimal), ⟨1, -16⟩, ⟨-10, 7⟩, ⟨-10, 8⟩, ⟨0, 8⟩].map (fun d => (decimal d).render) =
    ["10000000000000000", "1e+16", "-0.0000010", "-1.0E-7", "0"] := by decide +kernel

end Value
end RowSql
