import Mathlib.Algebra.Order.Ring.Nat
import Mathlib.Data.Nat.Log
import RowSql.Number.Binary
/-!
# Magnitude — the place of the first digit of a float

What bounds a float is the place of its first binary digit.  Rounding moves it by one place at most
(`below_round`) and packing keeps it (`Below.unpack_pack`), a product adds two such places (`below_mul`), and a
quotient takes one from the other, so that a quotient by a number of magnitude two or more is no larger than the
dividend (`below_div`).
-/
namespace RowSql
namespace Magnitude

open Float.Model (Format totalExponent)
open Float.Model.UnpackedFloat
open Float.Model (UnpackedFloat)

/-- **A number is below `2 ^ t`**, and its exponent is one that a float has. -/
inductive Below (t : Int) : UnpackedFloat → Prop
  | zero (s : Sign) : Below t (.zero s)
  | finite {s : Sign} {m : Nat} {e : Int} {hpos : 0 < m} (hm : totalExponent m e ≤ t) (hlow : -1074 ≤ e)
    (hhigh : e ≤ 971) :
    Below t (.finite s m e hpos)

/-- **A number is at least `2 ^ (t - 1)`.** -/
inductive Reaches (t : Int) : UnpackedFloat → Prop
  | finite {s : Sign} {m : Nat} {e : Int} {hpos : 0 < m} (hm : t ≤ totalExponent m e) : Reaches t (.finite s m e hpos)

instance (t : Int) : (f : UnpackedFloat) → Decidable (Reaches t f)
  | .finite _ m e _ => decidable_of_iff (t ≤ totalExponent m e) ⟨.finite, fun | .finite hm => hm⟩
  | .zero _ => .isFalse nofun
  | .infinity _ => .isFalse nofun
  | .notANumber => .isFalse nofun

theorem log2_lt_of_lt {m k : Nat} (h : m < 2 ^ k) (hk : 0 < k) : m.log2 < k := by
  by_cases hm : m = 0
  · rw [hm, Nat.log2_zero]
    exact hk
  · exact (Nat.log2_lt hm).2 h

theorem log2_mono {m n : Nat} (h : m ≤ n) : m.log2 ≤ n.log2 := by
  have hn : m < 2 ^ (n.log2 + 1) := h.trans_lt Nat.lt_log2_self
  have := log2_lt_of_lt hn (Nat.succ_pos _)
  omega

theorem log2_shiftLeft {m : Nat} (hm : m ≠ 0) (k : Nat) : (m <<< k).log2 = m.log2 + k := by
  induction k with
  | zero => rfl
  | succ k ih =>
    have hk : m <<< k ≠ 0 := by
      rw [Nat.shiftLeft_eq]
      exact Nat.mul_ne_zero hm (Nat.two_pow_pos k).ne'
    rw [Nat.shiftLeft_succ, Nat.log2_two_mul hk, ih, Nat.add_assoc]

/-! ## Rounding -/

theorem targetExponent_eq (t : Int) : Format.binary64.targetExponent t = max (t - 53) (-1074) := rfl

theorem mantissa_shiftRight (em : ExtendedMantissa) (k : Nat) :
    (em >>> k).mantissa = em.mantissa / 2 ^ k := by
  induction k with
  | zero => exact (Nat.div_one _).symm
  | succ k ih =>
    change (em >>> k).mantissa / 2 = _
    rw [ih, Nat.div_div_eq_div_mul, Nat.pow_succ]

theorem mantissa_ofMantissaAndAccuracy (m : Nat) (a : Accuracy) :
    (ExtendedMantissa.ofMantissaAndAccuracy m a).mantissa = m := by
  cases a with
  | exact => rfl
  | inexact o => cases o <;> rfl

theorem roundedMantissa_bounds (em : ExtendedMantissa) :
    em.mantissa ≤ em.roundedMantissa ∧ em.roundedMantissa ≤ em.mantissa + 1 := by
  obtain ⟨m, r, s⟩ := em
  cases r <;> cases s <;>
    simp only [ExtendedMantissa.roundedMantissa, ExtendedMantissa.accuracy, Accuracy.roundToNearestEven] <;> omega

/-- The places that are dropped so that at most 53 digits are left, and none below the least place of a float. -/
def dropped (m : Nat) (e : Int) : Nat := (max (totalExponent m e - 53) (-1074) - e).toNat

theorem shiftToTargetExponent_mantissa (m : Nat) (e : Int) (a : Accuracy) :
    (shiftToTargetExponent Format.binary64 m e a).1.mantissa = m / 2 ^ dropped m e := by
  rw [shiftToTargetExponent, targetExponent_eq]
  exact (mantissa_shiftRight _ _).trans (by rw [mantissa_ofMantissaAndAccuracy]; rfl)

theorem shiftToTargetExponent_exponent (m : Nat) (e : Int) (a : Accuracy) :
    (shiftToTargetExponent Format.binary64 m e a).2 = e + dropped m e := rfl

/-- The number of a mantissa, which may be zero, at a place. -/
def ofMantissa (s : Sign) (m : Nat) (e : Int) : UnpackedFloat :=
  if h : m = 0 then .zero s else .finite s m e (Nat.pos_of_ne_zero h)

theorem ofMantissa_zero (s : Sign) (e : Int) : ofMantissa s 0 e = .zero s := rfl

theorem ofMantissa_pos {m : Nat} (h : m ≠ 0) (s : Sign) (e : Int) :
    ofMantissa s m e = .finite s m e (Nat.pos_of_ne_zero h) := dif_neg h

/-- **What rounding leaves**: the digits that are not dropped, rounded up or not, and the same once more should
they be too many after that. -/
theorem roundWithAccuracy_eq (s : Sign) (m : Nat) (e : Int) (a : Accuracy) :
    ∃ r, m / 2 ^ dropped m e ≤ r ∧ r ≤ m / 2 ^ dropped m e + 1 ∧
      roundWithAccuracy Format.binary64 s m e a =
        ofMantissa s (r / 2 ^ dropped r (e + dropped m e)) (e + dropped m e + dropped r (e + dropped m e)) := by
  have hbounds := roundedMantissa_bounds (shiftToTargetExponent Format.binary64 m e a).1
  rw [shiftToTargetExponent_mantissa] at hbounds
  refine ⟨_, hbounds.1, hbounds.2, ?_⟩
  rw [← shiftToTargetExponent_exponent m e a, ← shiftToTargetExponent_exponent _ _ .exact,
    ← shiftToTargetExponent_mantissa _ _ .exact]
  rfl

/-- Digits that are dropped do not move the first one. -/
theorem totalExponent_div {m k : Nat} (h : m / 2 ^ k ≠ 0) (e : Int) :
    totalExponent (m / 2 ^ k) (e + k) = totalExponent m e := by
  have hm : m ≠ 0 := by
    rintro rfl
    exact h (Nat.zero_div _)
  have hle : k ≤ m.log2 := (Nat.le_log2 hm).2 (Nat.div_pos_iff.1 (Nat.pos_of_ne_zero h)).2
  have hlog : (m / 2 ^ k).log2 = m.log2 - k := by
    rw [Nat.log2_eq_log_two, Nat.log2_eq_log_two, Nat.log_div_base_pow]
  rw [totalExponent, totalExponent, hlog]
  omega

/-- A number outlasts the dropping of fewer digits than it has. -/
theorem div_two_pow_ne_zero {m k : Nat} (hm : m ≠ 0) (h : k ≤ m.log2) : m / 2 ^ k ≠ 0 :=
  (Nat.div_pos ((Nat.le_log2 hm).1 h) (Nat.two_pow_pos _)).ne'

/-- One more at the last place adds one digit at most. -/
theorem log2_le_succ {r n : Nat} (h : r ≤ n + 1) : r.log2 ≤ n.log2 + 1 := by
  have hn : n < 2 ^ (n.log2 + 1) := Nat.lt_log2_self
  have hr : r < 2 ^ (n.log2 + 2) := by
    rw [Nat.pow_succ]
    omega
  have := log2_lt_of_lt hr (Nat.succ_pos _)
  omega

/-- Rounding at the first dropping of digits moves the first digit by one place at most. -/
theorem totalExponent_rounded_le {t e : Int} {m r : Nat} (hm : totalExponent m e ≤ t) (hlow : -1074 ≤ t)
    (hr : r ≤ m / 2 ^ dropped m e + 1) : totalExponent r (e + dropped m e) ≤ t + 1 := by
  have hlog := log2_le_succ hr
  by_cases hnone : m / 2 ^ dropped m e = 0
  · -- all digits were below the least place
    have hone : r.log2 < 1 := log2_lt_of_lt (by rw [hnone] at hr; omega) Nat.one_pos
    have hm' : m.log2 < dropped m e ∨ m.log2 = 0 := by
      by_cases h : m = 0
      · exact .inr (h ▸ Nat.log2_zero)
      · exact .inl ((Nat.log2_lt h).2 ((Nat.div_eq_zero_iff_lt (Nat.two_pow_pos _)).1 hnone))
    unfold dropped totalExponent at *
    omega
  · have := totalExponent_div hnone e
    unfold totalExponent at *
    omega

/-- **A rounded number is below the next power of two.** -/
theorem below_round {t e : Int} {m : Nat} (hm : totalExponent m e ≤ t) (he : e ≤ 970) (hlow : -1074 ≤ t)
    (hhigh : t ≤ 1023) (s : Sign) (a : Accuracy) : Below (t + 1) (roundWithAccuracy Format.binary64 s m e a) := by
  obtain ⟨r, -, hr, hround⟩ := roundWithAccuracy_eq s m e a
  have hfirst := totalExponent_rounded_le hm hlow hr
  rw [hround]
  by_cases hzero : r / 2 ^ dropped r (e + dropped m e) = 0
  · rw [hzero, ofMantissa_zero]
    exact .zero s
  · rw [ofMantissa_pos hzero]
    refine .finite ((totalExponent_div hzero _).le.trans hfirst) ?_ ?_ <;> unfold dropped at * <;> omega

/-- **A number of enough digits is rounded to a full mantissa, at its place or the next.** -/
theorem roundWithAccuracy_full {e : Int} {m : Nat} (he : e + 53 ≤ totalExponent m e) (hlow : -1021 ≤ totalExponent m e)
    (s : Sign) (a : Accuracy) : ∃ m' e' h, roundWithAccuracy Format.binary64 s m e a = .finite s m' e' h ∧
      m'.log2 = 52 ∧ totalExponent m e ≤ totalExponent m' e' := by
  obtain ⟨r, hr, -, hround⟩ := roundWithAccuracy_eq s m e a
  have hm : m ≠ 0 := by
    rintro rfl
    simp only [totalExponent, Nat.log2_zero] at he
    omega
  have hnone : m / 2 ^ dropped m e ≠ 0 := by
    refine div_two_pow_ne_zero hm ?_
    unfold dropped totalExponent at *
    omega
  have hfirst := totalExponent_div hnone e
  have hlog := log2_mono hr
  have hr0 : r ≠ 0 := fun h => hnone (Nat.le_zero.1 (h ▸ hr))
  have hzero : r / 2 ^ dropped r (e + dropped m e) ≠ 0 := by
    refine div_two_pow_ne_zero hr0 ?_
    unfold dropped totalExponent at *
    omega
  rw [ofMantissa_pos hzero] at hround
  have hlast := totalExponent_div hzero (e + dropped m e)
  refine ⟨_, _, _, hround, ?_, ?_⟩
  · unfold dropped totalExponent at *
    omega
  · unfold dropped totalExponent at *
    omega

/-! ## Packing -/

abbrev exponentField (b : BitVec 64) : BitVec 11 := @unpackExponent Format.binary64 b

abbrev mantissaField (b : BitVec 64) : BitVec 52 := @unpackMantissa Format.binary64 b

theorem toNat_exponentField_lt {b : BitVec 64} (hfull : exponentField b ≠ -1#11) : (exponentField b).toNat < 2047 := by
  have hlt : (exponentField b).toNat < 2048 := (exponentField b).isLt
  have hne : (exponentField b).toNat ≠ 2047 := fun h => hfull (BitVec.eq_of_toNat_eq h)
  omega

theorem toNat_implicit (m : BitVec 52) : (1#1 ++ m).toNat = 2 ^ 52 + m.toNat := by
  rw [BitVec.toNat_append, ← Nat.shiftLeft_add_eq_or_of_lt m.isLt]
  rfl

/-- **A float is below a power of two when its fields spell a number that is.** -/
theorem below_unpack {t : Int} {b : BitVec 64} (hfull : exponentField b ≠ -1#11)
    (hleast : exponentField b = 0#11 → totalExponent (mantissaField b).toNat (-1074) ≤ t)
    (hother : exponentField b ≠ 0#11 →
      totalExponent (2 ^ 52 + (mantissaField b).toNat) ((exponentField b).toNat - 1075) ≤ t) :
    Below t (unpack Format.binary64 b) := by
  have hlt := toNat_exponentField_lt hfull
  unfold UnpackedFloat.unpack
  dsimp only
  rw [if_neg hfull]
  by_cases hzero : exponentField b = 0#11
  · have hexponent : ((exponentField b).toNat : Int) - (1023 + 52) + 1 = -1074 := by
      rw [hzero]
      rfl
    rw [if_pos hzero]
    by_cases hnone : mantissaField b = 0#52
    · rw [dif_pos hnone]
      exact .zero _
    · rw [dif_neg hnone]
      refine .finite ?_ hexponent.ge (hexponent.le.trans (by decide))
      change totalExponent (mantissaField b).toNat ((exponentField b).toNat - (1023 + 52) + 1) ≤ t
      exact hexponent ▸ hleast hzero
  · have hpos : (exponentField b).toNat ≠ 0 := fun h => hzero (BitVec.eq_of_toNat_eq h)
    rw [if_neg hzero]
    have hplace : ((exponentField b).toNat : Int) - (1023 + 52) = (exponentField b).toNat - 1075 := by omega
    refine .finite ?_ ?_ ?_
    · change totalExponent (1#1 ++ mantissaField b).toNat ((exponentField b).toNat - (1023 + 52)) ≤ t
      rw [toNat_implicit, hplace]
      exact hother hzero
    · change (-1074 : Int) ≤ (exponentField b).toNat - (1023 + 52)
      omega
    · change (exponentField b).toNat - (1023 + 52) ≤ (971 : Int)
      omega

theorem exponentField_packComponents (s : Sign) (x : BitVec 11) (m : BitVec 52) :
    exponentField (packComponents Format.binary64 s x m) = x := unpackExponent_packComponents

theorem mantissaField_packComponents (s : Sign) (x : BitVec 11) (m : BitVec 52) :
    mantissaField (packComponents Format.binary64 s x m) = m := unpackMantissa_packComponents

/-- The fields of a number: an infinity beyond the greatest exponent, and the least exponent unless the mantissa
is full. -/
theorem pack_eq (s : Sign) (m : Nat) (e : Int) (hpos : 0 < m) :
    pack Format.binary64 (.finite s m e hpos) =
      if 2047 ≤ (e + 1075).toNat then packedInfinity Format.binary64 s
      else packComponents Format.binary64 s (if m.log2 = 52 then BitVec.ofNat 11 (e + 1075).toNat else 0#11)
        (BitVec.ofNat 52 m) := by
  have hbias : e + 1023 + 52 = e + 1075 := by omega
  change (if 2047 + 1 ≤ (e + 1023 + 52).toNat + 1 then packedInfinity Format.binary64 s else if m.log2 + 1 = 52 + 1 then
    packComponents Format.binary64 s (BitVec.ofNat 11 (e + 1023 + 52).toNat) (BitVec.ofNat 52 m) else
    packComponents Format.binary64 s 0#11 (BitVec.ofNat 52 m)) = _
  rw [hbias]
  refine if_congr Nat.add_le_add_iff_right rfl ?_
  by_cases hm : m.log2 = 52
  · rw [if_pos hm, if_pos (by rw [hm])]
  · rw [if_neg hm, if_neg (fun h => hm (Nat.succ.inj h))]

theorem pack_finite {e : Int} (hhigh : e ≤ 971) (s : Sign) (m : Nat) (hpos : 0 < m) :
    pack Format.binary64 (.finite s m e hpos) = packComponents Format.binary64 s
      (if m.log2 = 52 then BitVec.ofNat 11 (e + 1075).toNat else 0#11) (BitVec.ofNat 52 m) := by
  rw [pack_eq, if_neg (by omega)]

theorem toNat_bias {e : Int} (hhigh : e ≤ 971) : (BitVec.ofNat 11 (e + 1075).toNat).toNat = (e + 1075).toNat := by
  rw [BitVec.toNat_ofNat]
  exact Nat.mod_eq_of_lt (by omega)

theorem bias_ne_full {e : Int} (hhigh : e ≤ 971) : BitVec.ofNat 11 (e + 1075).toNat ≠ -1#11 := by
  intro hfull
  have hbias := congrArg BitVec.toNat hfull
  rw [toNat_bias hhigh] at hbias
  change _ = 2047 at hbias
  omega

theorem bias_ne_zero {e : Int} (hlow : -1074 ≤ e) (hhigh : e ≤ 971) : BitVec.ofNat 11 (e + 1075).toNat ≠ 0#11 := by
  intro hzero
  have hbias := congrArg BitVec.toNat hzero
  rw [toNat_bias hhigh] at hbias
  change _ = 0 at hbias
  omega

/-- The first digit of a full mantissa is left out, and is there again. -/
theorem toNat_mantissa {m : Nat} (h : m.log2 = 52) : 2 ^ 52 + (BitVec.ofNat 52 m).toNat = m := by
  have hm : m ≠ 0 := by
    rintro rfl
    cases h
  have hbounds := (Nat.log2_eq_iff hm).1 h
  rw [BitVec.toNat_ofNat]
  omega

/-- **A float is packed into one that is no larger.** -/
theorem Below.unpack_pack {t : Int} {f : UnpackedFloat} (h : Below t f) :
    Below t (unpack Format.binary64 (pack Format.binary64 f)) := by
  cases h with
  | zero s => cases s <;> exact .zero _
  | @finite s m e hpos hm hlow hhigh =>
    rw [pack_finite hhigh]
    by_cases hfull : m.log2 = 52
    · rw [if_pos hfull]
      refine below_unpack ?_ (fun hzero => ?_) fun _ => ?_
      · rw [exponentField_packComponents]
        exact bias_ne_full hhigh
      · rw [exponentField_packComponents] at hzero
        exact absurd hzero (bias_ne_zero hlow hhigh)
      · rw [exponentField_packComponents, mantissaField_packComponents, toNat_mantissa hfull, toNat_bias hhigh]
        unfold totalExponent at *
        omega
    · rw [if_neg hfull]
      refine below_unpack ?_ (fun _ => ?_) fun hsome => ?_
      · rw [exponentField_packComponents]
        decide
      · have hdigits : (BitVec.ofNat 52 m).toNat.log2 ≤ m.log2 := by
          rw [BitVec.toNat_ofNat]
          exact log2_mono (Nat.mod_le m _)
        rw [mantissaField_packComponents]
        unfold totalExponent at *
        omega
      · exact (hsome (exponentField_packComponents _ _ _)).elim

/-- **A float with a full mantissa is packed as it is.** -/
theorem reaches_unpack_pack {t e : Int} {m : Nat} (hlow : -1074 ≤ e) (hhigh : e ≤ 971) (hfull : m.log2 = 52)
    (ht : t ≤ totalExponent m e) (s : Sign) (hpos : 0 < m) :
    Reaches t (unpack Format.binary64 (pack Format.binary64 (.finite s m e hpos))) := by
  rw [pack_finite hhigh, if_pos hfull]
  have hfield := exponentField_packComponents s (BitVec.ofNat 11 (e + 1075).toNat) (BitVec.ofNat 52 m)
  unfold UnpackedFloat.unpack
  dsimp only
  rw [if_neg (hfield.trans_ne (bias_ne_full hhigh)), if_neg (hfield.trans_ne (bias_ne_zero hlow hhigh))]
  refine .finite ?_
  change t ≤ totalExponent (1#1 ++ mantissaField (packComponents Format.binary64 s _ _)).toNat
    ((exponentField (packComponents Format.binary64 s _ _)).toNat - (1023 + 52))
  rw [toNat_implicit, mantissaField_packComponents, toNat_mantissa hfull, hfield, toNat_bias hhigh]
  unfold totalExponent at *
  omega

/-- **Bits without the full exponent are a finite float.** -/
theorem below_of_exponentField {b : BitVec 64} (hfull : exponentField b ≠ -1#11) :
    Below 1024 (unpack Format.binary64 b) := by
  have hm : (mantissaField b).toNat < 2 ^ 52 := (mantissaField b).isLt
  have hlt := toNat_exponentField_lt hfull
  refine below_unpack hfull (fun _ => ?_) fun _ => ?_
  · have := log2_lt_of_lt hm (by decide)
    unfold totalExponent
    omega
  · have : (2 ^ 52 + (mantissaField b).toNat).log2 < 53 := log2_lt_of_lt (by omega) (by decide)
    unfold totalExponent
    omega

theorem isFinite_of_below {t : Int} {f : UnpackedFloat} (h : Below t f) : f.isFinite = true := by
  cases h <;> rfl

theorem unpack_infinity (s : Sign) : unpack Format.binary64 (packedInfinity Format.binary64 s) = .infinity s := by
  cases s <;> rfl

/-- **What is packed from a number is a number, or infinite.** -/
theorem isFinite_or_isInf {f : UnpackedFloat} (h : f.isFinite = true) :
    (unpack Format.binary64 (pack Format.binary64 f)).isFinite = true ∨
      (unpack Format.binary64 (pack Format.binary64 f)).isInf = true := by
  cases f with
  | infinity => cases h
  | notANumber => cases h
  | zero s => cases s <;> exact .inl rfl
  | finite s m e hpos =>
    rw [pack_eq]
    by_cases hlarge : 2047 ≤ (e + 1075).toNat
    · rw [if_pos hlarge, unpack_infinity]
      exact .inr rfl
    · rw [if_neg hlarge]
      refine .inl (isFinite_of_below (below_of_exponentField ?_))
      rw [exponentField_packComponents]
      split
      · exact bias_ne_full (by omega)
      · decide

theorem isFinite_roundWithAccuracy (s : Sign) (m : Nat) (e : Int) (a : Accuracy) :
    (roundWithAccuracy Format.binary64 s m e a).isFinite = true := by
  obtain ⟨r, -, -, hround⟩ := roundWithAccuracy_eq s m e a
  rw [hround]
  by_cases hzero : r / 2 ^ dropped r (e + dropped m e) = 0
  · rw [hzero]
    rfl
  · rw [ofMantissa_pos hzero]
    rfl

theorem isFinite_mul {f g : UnpackedFloat} (hf : f.isFinite = true) (hg : g.isFinite = true) :
    (mul Format.binary64 f g).isFinite = true := by
  cases f with
  | infinity => cases hf
  | notANumber => cases hf
  | zero s =>
    cases g with
    | infinity => cases hg
    | notANumber => cases hg
    | zero => rfl
    | finite => rfl
  | finite s m e hpos =>
    cases g with
    | infinity => cases hg
    | notANumber => cases hg
    | zero => rfl
    | finite => exact isFinite_roundWithAccuracy _ _ _ _

/-- The digits of a quotient are not more than those of the dividend without those of the divisor, and one. -/
theorem log2_div_le {m k : Nat} (h : m / k ≠ 0) : (m / k).log2 + k.log2 ≤ m.log2 := by
  have hk : k ≠ 0 := by
    rintro rfl
    exact h (Nat.div_zero m)
  have hm : m ≠ 0 := by
    rintro rfl
    exact h (Nat.zero_div k)
  refine (Nat.le_log2 hm).2 ?_
  calc 2 ^ ((m / k).log2 + k.log2) = 2 ^ (m / k).log2 * 2 ^ k.log2 := Nat.pow_add _ _ _
    _ ≤ m / k * k := Nat.mul_le_mul (Nat.log2_self_le h) (Nat.log2_self_le hk)
    _ ≤ m := Nat.div_mul_le_self m k

/-- The place and the magnitude of a quotient that is still to be rounded. -/
theorem divCore_bounds {m : Nat} (hm : m ≠ 0) (e : Int) (m' : Nat) (e' : Int) :
    (divCore Format.binary64 m e m' e').2.1 ≤ max (totalExponent m e - totalExponent m' e' - 53) (-1074) ∧
      totalExponent (divCore Format.binary64 m e m' e').1 (divCore Format.binary64 m e m' e').2.1 ≤
        max (totalExponent m e - totalExponent m' e' + 1) (-1073) := by
  rw [divCore, targetExponent_eq]
  dsimp only
  generalize hp : min (e - e') (max (totalExponent m e - totalExponent m' e' - 53) (-1074)) = p
  have hshift : p ≤ e - e' := hp ▸ min_le_left _ _
  have hplace : p ≤ max (totalExponent m e - totalExponent m' e' - 53) (-1074) := hp ▸ min_le_right _ _
  refine ⟨hplace, ?_⟩
  by_cases hq : m <<< (e - e' - p).toNat / m' = 0
  · rw [hq]
    unfold totalExponent at *
    rw [Nat.log2_zero]
    omega
  · have hlog := log2_div_le hq
    rw [log2_shiftLeft hm] at hlog
    unfold totalExponent at *
    omega

/-- **A quotient by a number of magnitude two or more is no larger than the dividend.** -/
theorem below_div {t : Int} {f g : UnpackedFloat} (hlow : -1072 ≤ t) (hhigh : t ≤ 1024) (hf : Below t f)
    (hg : Reaches 2 g) :
    Below t (div Format.binary64 f g) := by
  cases hg with
  | @finite s' m' e' hpos' hm' =>
    cases hf with
    | zero => exact .zero _
    | @finite s m e hpos hm =>
      obtain ⟨hplace, hsize⟩ := divCore_bounds hpos.ne' e m' e'
      have hround :=
        below_round (t := t - 1) (hsize.trans (by omega)) (hplace.trans (by omega)) (by omega) (by omega) (s / s')
        (divCore Format.binary64 m e m' e').2.2
      rwa [Int.sub_add_cancel] at hround

theorem log2_mul_le (m n : Nat) : (m * n).log2 ≤ m.log2 + n.log2 + 1 := by
  have hlt : m * n < 2 ^ (m.log2 + n.log2 + 2) :=
    calc m * n < 2 ^ (m.log2 + 1) * 2 ^ (n.log2 + 1) := Nat.mul_lt_mul'' Nat.lt_log2_self Nat.lt_log2_self
      _ = 2 ^ (m.log2 + n.log2 + 2) := by
        rw [← Nat.pow_add]
        congr 1
        omega
  have := log2_lt_of_lt hlt (Nat.succ_pos _)
  omega

theorem below_mul {t t' : Int} {f g : UnpackedFloat} (hf : Below t f) (hg : Below t' g) (hlow : -1074 ≤ t + t')
    (hhigh : t + t' ≤ 970) : Below (t + t' + 1) (mul Format.binary64 f g) := by
  cases hf with
  | zero => cases hg <;> exact .zero _
  | @finite s m e hpos hm =>
    cases hg with
    | zero => exact .zero _
    | @finite s' m' e' hpos' hm' =>
      have hlog := log2_mul_le m m'
      unfold totalExponent at hm hm'
      refine below_round ?_ (by omega) hlow (by omega) _ _
      unfold totalExponent
      omega

end Magnitude
end RowSql
