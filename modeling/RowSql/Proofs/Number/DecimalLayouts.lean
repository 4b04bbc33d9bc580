import RowSql.Proofs.Number.DecimalArith
import RowSql.Proofs.Number.DecimalText
import RowSql.Text.Digits
/-!
# DecimalLayouts — decimals that were written

The text of a decimal is a mantissa, which is digits with at most one point, and perhaps an exponent.  Where the
point stands and whether there is an exponent depends on the scale and on the number of digits; the reader gets
the digits and the places of each mantissa (`IsMantissa`) and takes the exponent off the places, which gives the
scale again.  Only zeros that stand for a negative scale have become digits, and a zero is written without its
scale.  So what is read from the text of a decimal (`ofText?_toString`) is the same number (`value_reread`).
-/
namespace RowSql
namespace Decimal

/-! ## Digits -/

theorem readDigits_digits : ∀ (ds : List Char) (acc : Nat), (∀ c ∈ ds, c.isDigit = true) →
    readDigits acc ds = some (Nat.ofDigitChars 10 ds acc)
  | [], _, _ => rfl
  | d :: ds, acc, h => by
    obtain ⟨hd, hds⟩ := List.forall_mem_cons.1 h
    have hvalue : digitValue? d = some (d.toNat - '0'.toNat) := if_pos hd
    rw [readDigits.eq_3 _ _ _ (ne_of_isDigit hd rfl), hvalue, Nat.ofDigitChars_cons, Nat.mul_comm 10]
    exact readDigits_digits ds _ hds

theorem readNatural_digits {ds : List Char} (hne : ds ≠ []) (h : ∀ c ∈ ds, c.isDigit = true) :
    readNatural ds = some (Nat.ofDigitChars 10 ds 0) := by
  obtain ⟨d, rest, rfl⟩ := List.exists_cons_of_ne_nil hne
  have hd : d ≠ '_' := ne_of_isDigit (h d List.mem_cons_self) rfl
  rw [readNatural.eq_3 _ (List.cons_ne_nil d rest) fun rest' heq => hd (List.cons.inj heq).1]
  exact readDigits_digits _ 0 h

theorem readInteger_digits {ds : List Char} (hne : ds ≠ []) (h : ∀ c ∈ ds, c.isDigit = true) :
    readInteger ds = some (Nat.ofDigitChars 10 ds 0 : Nat) := by
  obtain ⟨d, rest, rfl⟩ := List.exists_cons_of_ne_nil hne
  rw [readInteger_of_digit (h d List.mem_cons_self), readNatural_digits hne h]
  rfl

theorem isDigit_digitChars (n : Nat) : ∀ c ∈ digitChars n, c.isDigit = true := fun _ hc =>
  Nat.isDigit_of_mem_toDigits (by decide) (by decide) hc

theorem isDigit_zeros (n : Nat) : ∀ c ∈ zeros n, c.isDigit = true := by
  intro c hc
  rw [List.eq_of_mem_replicate hc]
  rfl

theorem digitChars_ne_nil (n : Nat) : digitChars n ≠ [] := Nat.toDigits_ne_nil

theorem ofDigitChars_digitChars (n : Nat) : Nat.ofDigitChars 10 (digitChars n) 0 = n := Nat.ofDigitChars_ten_toDigits

theorem readPlain_digitChars (n : Nat) : readPlain (digitChars n) = some n := by
  rw [readPlain, if_pos (List.all_eq_true.2 (isDigit_digitChars n)),
    readNatural_digits (digitChars_ne_nil n) (isDigit_digitChars n), ofDigitChars_digitChars]

/-! ## Mantissas -/

theorem splitAt?_append {p : Char → Bool} {c : Char} (hc : p c = true) (b : List Char) : ∀ {a : List Char},
    (∀ x ∈ a, p x = false) → splitAt? p (a ++ c :: b) = some (a, b)
  | [], _ => by rw [List.nil_append, splitAt?, if_pos hc]
  | x :: a, h => by
    obtain ⟨hx, ha⟩ := List.forall_mem_cons.1 h
    rw [List.cons_append, splitAt?_cons_of_neg hx, splitAt?_append hc b ha]
    rfl

/-- **The text is a mantissa**: it begins with a digit, has no exponent, and is read as digits with a number of
places. -/
structure IsMantissa (cs : List Char) (n places : Nat) : Prop where
  first : isUnsigned cs = true
  marks : ∀ c ∈ cs, isExponentMark c = false
  reads : readMantissa cs = some ((n : Int), places)

theorem isUnsigned_digits {ds : List Char} (hne : ds ≠ []) (h : ∀ c ∈ ds, c.isDigit = true) : isUnsigned ds = true := by
  obtain ⟨d, rest, rfl⟩ := List.exists_cons_of_ne_nil hne
  exact isUnsigned_cons (h d List.mem_cons_self) rest

theorem isUnsigned_append {cs : List Char} (h : isUnsigned cs = true) (tail : List Char) :
    isUnsigned (cs ++ tail) = true := by
  rcases isUnsigned_cases h with ⟨d, ds, rfl, hd⟩ | ⟨d, ds, rfl, hd⟩
  · exact isUnsigned_cons hd _
  · exact hd

theorem isMantissa_digits {ds : List Char} (hne : ds ≠ []) (h : ∀ c ∈ ds, c.isDigit = true) :
    IsMantissa ds (Nat.ofDigitChars 10 ds 0) 0 where
  first := isUnsigned_digits hne h
  marks := fun c hc => not_isExponentMark (h c hc)
  reads := by
    rw [readMantissa, splitAt?_of_forall fun c hc => beq_false_of_ne (ne_of_isDigit (h c hc) rfl)]
    dsimp only
    rw [readInteger_digits hne h]
    rfl

theorem isMantissa_point {lead trail : List Char} (hne : lead ≠ []) (hlead : ∀ c ∈ lead, c.isDigit = true)
    (htrail : ∀ c ∈ trail, c.isDigit = true) :
    IsMantissa (lead ++ '.' :: trail) (Nat.ofDigitChars 10 (lead ++ trail) 0) trail.length where
  first := isUnsigned_append (isUnsigned_digits hne hlead) _
  marks := by
    intro c hc
    rcases List.mem_append.1 hc with hc | hc
    · exact not_isExponentMark (hlead c hc)
    rcases List.mem_cons.1 hc with rfl | hc
    · rfl
    · exact not_isExponentMark (htrail c hc)
  reads := by
    have hplaces : trail.filter (· != '_') = trail := by
      rw [List.filter_eq_self]
      intro c hc
      simpa using ne_of_isDigit (htrail c hc) (c := '_') rfl
    have hsplit : splitAt? (· == '.') (lead ++ '.' :: trail) = some (lead, trail) :=
      splitAt?_append rfl trail fun c hc => beq_false_of_ne (ne_of_isDigit (hlead c hc) rfl)
    have hdigits : ∀ c ∈ lead ++ trail, c.isDigit = true := List.forall_mem_append.2 ⟨hlead, htrail⟩
    rw [readMantissa, hsplit]
    dsimp only
    rw [readInteger_digits (List.append_ne_nil_of_left_ne_nil hne trail) hdigits, hplaces]
    rfl

theorem isMantissa_pointed (n : Nat) : IsMantissa (pointed (digitChars n)) n ((digitChars n).length - 1) := by
  have hdigit := isDigit_digitChars n
  have hvalue := ofDigitChars_digitChars n
  rcases hds : digitChars n with _ | ⟨d, _ | ⟨d', ds⟩⟩
  · exact absurd hds (digitChars_ne_nil n)
  · rw [hds] at hdigit hvalue
    have h := isMantissa_digits (List.cons_ne_nil d []) hdigit
    rw [hvalue] at h
    exact h
  · rw [hds] at hdigit hvalue
    obtain ⟨hd, hrest⟩ := List.forall_mem_cons.1 hdigit
    have h := isMantissa_point (List.cons_ne_nil d []) (List.forall_mem_singleton.2 hd) hrest
    rw [List.singleton_append, List.singleton_append, hvalue] at h
    exact h

theorem isMantissa_plainChars (n places : Nat) : IsMantissa (plainChars (digitChars n) places) n places := by
  have hdigit := isDigit_digitChars n
  have hvalue := ofDigitChars_digitChars n
  unfold plainChars
  by_cases hnone : places = 0
  · rw [if_pos hnone, hnone]
    have h := isMantissa_digits (digitChars_ne_nil n) hdigit
    rwa [hvalue] at h
  rw [if_neg hnone]
  by_cases hmany : (digitChars n).length ≤ places
  · -- all digits stand behind the point, after as many zeros as are missing
    rw [if_pos hmany]
    have htrail : ∀ c ∈ zeros (places - (digitChars n).length) ++ digitChars n, c.isDigit = true :=
      List.forall_mem_append.2 ⟨isDigit_zeros _, hdigit⟩
    have h := isMantissa_point (List.cons_ne_nil '0' []) (List.forall_mem_singleton.2 rfl) htrail
    have hnumber : Nat.ofDigitChars 10 (['0'] ++ (zeros (places - (digitChars n).length) ++ digitChars n)) 0 = n := by
      rw [List.singleton_append, Nat.ofDigitChars_cons, Nat.ofDigitChars_append, zeros, Nat.ofDigitChars_replicate_zero]
      simpa using hvalue
    have hplaces : (zeros (places - (digitChars n).length) ++ digitChars n).length = places := by
      rw [List.length_append, zeros, List.length_replicate]
      omega
    rwa [hnumber, hplaces] at h
  · rw [if_neg hmany]
    have hlead : (digitChars n).take ((digitChars n).length - places) ≠ [] := by
      intro hnil
      have hlength := congrArg List.length hnil
      rw [List.length_take, List.length_nil] at hlength
      omega
    have h := isMantissa_point hlead (fun c hc => hdigit c (List.mem_of_mem_take hc))
      fun c (hc : c ∈ (digitChars n).drop ((digitChars n).length - places)) => hdigit c (List.mem_of_mem_drop hc)
    have hplaces : ((digitChars n).drop ((digitChars n).length - places)).length = places := by
      rw [List.length_drop]
      omega
    rwa [List.take_append_drop, hvalue, hplaces] at h

/-! ## Exponents -/

theorem scale_inRange {s : Int} (hs : s.natAbs ≤ scaleLimit) : Whole.least ≤ s ∧ s ≤ Whole.greatest := by
  unfold scaleLimit at hs
  unfold Whole.least Whole.greatest
  omega

theorem parse?_mantissa {cs : List Char} {n places : Nat} {s : Int} (h : IsMantissa cs n places) (hplaces : places = s)
    (hs : s.natAbs ≤ scaleLimit) : parse? cs = some ⟨n, s⟩ := by
  have hmark : splitAt? (fun c => c == 'e' || c == 'E') cs = none := splitAt?_of_forall h.marks
  rw [parse?, hmark]
  simp only [Option.bind_eq_bind, Option.bind_some, h.reads, sub_zero, hplaces]
  exact if_pos (scale_inRange hs)

theorem parse?_exponent {cs exp : List Char} {n places : Nat} {e s : Int} {mark : Char} (h : IsMantissa cs n places)
    (hmark : isExponentMark mark = true) (he : readExponent exp = some e) (hplaces : places - e = s)
    (hs : s.natAbs ≤ scaleLimit) : parse? (cs ++ mark :: exp) = some ⟨n, s⟩ := by
  have hsplit : splitAt? (fun c => c == 'e' || c == 'E') (cs ++ mark :: exp) = some (cs, exp) :=
    splitAt?_append hmark exp h.marks
  rw [parse?, hsplit]
  simp only [he, Option.map_some, Option.bind_eq_bind, Option.bind_some, h.reads, hplaces]
  exact if_pos (scale_inRange hs)

theorem exponent_inRange {e : Int} (h : e.natAbs ≤ scaleLimit + 1) :
    -(exponentLimit : Int) ≤ e ∧ e < exponentLimit := by
  have hlimit : e.natAbs < exponentLimit := h.trans_lt (by decide)
  generalize exponentLimit = limit at hlimit ⊢
  omega

theorem readExponent_minus {n : Nat} (hn : n ≤ scaleLimit + 1) :
    readExponent ('-' :: digitChars n) = some (-(n : Int)) := by
  have hread : Option.map (fun e => -e) (do let k ← readPlain (digitChars n); pure (k : Int)) = some (-(n : Int)) := by
    rw [readPlain_digitChars]
    rfl
  have hrange := exponent_inRange (e := -(n : Int)) (by omega)
  unfold readExponent
  exact Option.bind_eq_some_iff.2 ⟨_, hread, if_pos hrange⟩

theorem readExponent_plus {n : Nat} (hn : n ≤ scaleLimit + 1) :
    readExponent ('+' :: digitChars n) = some (n : Int) := by
  have hread : Option.map (fun e => e) (do let k ← readPlain (digitChars n); pure (k : Int)) = some (n : Int) := by
    rw [readPlain_digitChars]
    rfl
  have hrange := exponent_inRange (e := (n : Int)) (by omega)
  unfold readExponent
  exact Option.bind_eq_some_iff.2 ⟨_, hread, if_pos hrange⟩

/-! ## Layouts -/

/-- **The decimal that is read from the text of `d`**: zeros that stand for a small negative scale are digits
there, and a zero has no scale. -/
def reread (d : Decimal) : Decimal :=
  if d.isZero then ⟨0, 0⟩
  else if -(trailingZeroLimit : Int) ≤ d.scale ∧ d.scale < 0 then d.extend 0
  else d

theorem value_reread (d : Decimal) : d.reread.value = d.value := by
  unfold reread
  by_cases hzero : d.isZero = true
  · rw [if_pos hzero, (value_eq_zero_iff d).2 hzero]
    exact (value_eq_zero_iff _).2 rfl
  rw [if_neg hzero]
  by_cases hscale : -(trailingZeroLimit : Int) ≤ d.scale ∧ d.scale < 0
  · rw [if_pos hscale]
    exact value_extend hscale.2.le
  · rw [if_neg hscale]

theorem parse?_renderMagnitude {n : Nat} {s : Int} (hn : n ≠ 0) (hs : s.natAbs ≤ scaleLimit) :
    parse? (renderMagnitude n s) = some (reread ⟨n, s⟩) := by
  have hplain : isZero ⟨n, s⟩ = false := beq_false_of_ne (Int.natCast_ne_zero.2 hn)
  have hcount : 0 < (digitChars n).length := List.length_pos_iff.2 (digitChars_ne_nil n)
  rw [reread, if_neg (ne_true_of_eq_false hplain), renderMagnitude]
  dsimp only
  by_cases hsign : 0 ≤ s
  · have hkept : ¬ (-(trailingZeroLimit : Int) ≤ s ∧ s < 0) := by omega
    rw [if_pos hsign, if_neg hkept]
    by_cases hlead : (digitChars n).length + leadingZeroLimit < s.toNat
    · -- the places of the mantissa and the exponent make up the scale
      have hmark : isExponentMark 'E' = true := rfl
      have hexp := readExponent_minus (n := s.toNat + 1 - (digitChars n).length) (by omega)
      rw [if_pos hlead]
      unfold leadingZeroLimit at hlead
      exact parse?_exponent (isMantissa_pointed n) hmark hexp (by omega) hs
    · rw [if_neg hlead]
      exact parse?_mantissa (isMantissa_plainChars n s.toNat) (Int.toNat_of_nonneg hsign) hs
  rw [if_neg hsign]
  by_cases hfew : s.natAbs ≤ trailingZeroLimit
  · have hzeros : -(trailingZeroLimit : Int) ≤ s ∧ s < 0 := by omega
    have hdigits : ∀ c ∈ digitChars n ++ zeros s.natAbs, c.isDigit = true :=
      List.forall_mem_append.2 ⟨isDigit_digitChars n, isDigit_zeros _⟩
    have hnumber : (Nat.ofDigitChars 10 (digitChars n ++ zeros s.natAbs) 0 : Int) = digitsAt ⟨n, s⟩ 0 := by
      have hcount : (0 - s).toNat = s.natAbs := by omega
      rw [Nat.ofDigitChars_append, ofDigitChars_digitChars, zeros, Nat.ofDigitChars_replicate_zero, digitsAt, hcount,
        Nat.mul_comm, Int.natCast_mul]
      rfl
    have hmantissa := isMantissa_digits (List.append_ne_nil_of_left_ne_nil (digitChars_ne_nil n) _) hdigits
    rw [if_pos hfew, if_pos hzeros, parse?_mantissa hmantissa rfl (Nat.zero_le _), hnumber]
    rfl
  · have hmany : ¬ (-(trailingZeroLimit : Int) ≤ s ∧ s < 0) := by omega
    have hmark : isExponentMark 'e' = true := rfl
    have hmantissa := isMantissa_digits (digitChars_ne_nil n) (isDigit_digitChars n)
    rw [ofDigitChars_digitChars] at hmantissa
    rw [if_neg hfew, if_neg hmany]
    exact parse?_exponent hmantissa hmark (readExponent_plus (by omega)) (by omega) hs

theorem isUnsigned_renderMagnitude (n : Nat) (s : Int) : isUnsigned (renderMagnitude n s) = true := by
  have hdigits := isUnsigned_digits (digitChars_ne_nil n) (isDigit_digitChars n)
  unfold renderMagnitude
  dsimp only
  split
  · split
    · exact isUnsigned_append (isMantissa_pointed n).first _
    · exact (isMantissa_plainChars n _).first
  · split <;> exact isUnsigned_append hdigits _

theorem reread_neg (d : Decimal) : d.neg.reread = d.reread.neg := by
  have hzero : d.neg.isZero = d.isZero := by
    rw [isZero, isZero, neg, Bool.eq_iff_iff, beq_iff_eq, beq_iff_eq, Int.neg_eq_zero]
  have hextend : d.neg.extend 0 = (d.extend 0).neg := by
    simp only [extend, digitsAt, neg, Int.neg_mul]
  rw [reread, reread, hzero, hextend, apply_ite neg, apply_ite neg]
  rfl

theorem parse?_render {d : Decimal} (hs : d.scale.natAbs ≤ scaleLimit) : parse? d.render = some d.reread := by
  unfold render
  by_cases hzero : d.isZero = true
  · rw [if_pos hzero, reread, if_pos hzero]
    rfl
  have hdigits : d.digits.natAbs ≠ 0 := fun h => hzero (beq_iff_eq.2 (Int.natAbs_eq_zero.1 h))
  have hmagnitude := parse?_renderMagnitude hdigits hs
  rw [if_neg hzero]
  by_cases hneg : d.digits < 0
  · have hd : d = neg ⟨d.digits.natAbs, d.scale⟩ := by
      rw [neg, Int.ofNat_natAbs_of_nonpos hneg.le, Int.neg_neg]
    rw [if_pos hneg, parse?_neg (isUnsigned_renderMagnitude _ _), hmagnitude, Option.map_some, ← reread_neg, ← hd]
  · rw [if_neg hneg, hmagnitude, Int.natAbs_of_nonneg (Int.not_lt.1 hneg)]

theorem not_isSpace_of_isNumeral {c : Char} (h : isNumeral c = true) : Text.isSpace c = false := by
  rcases Bool.or_eq_true _ _ ▸ h with hdigit | hother
  · exact Text.not_isSpace_of_isDigit hdigit
  · have hmark : c ∈ ['_', '+', '-', '.', 'e', 'E'] := List.contains_iff_mem.1 hother
    simp only [List.mem_cons, List.not_mem_nil, or_false] at hmark
    rcases hmark with rfl | rfl | rfl | rfl | rfl | rfl <;> rfl

theorem natAbs_scale_reread_le (d : Decimal) : d.reread.scale.natAbs ≤ d.scale.natAbs := by
  unfold reread
  split
  · exact Nat.zero_le _
  · split
    · exact Nat.zero_le _
    · exact Nat.le_refl _

/-- **The text of a decimal reads as a decimal of the same value**, if its scale is one that is read from data. -/
theorem ofText?_toString {d : Decimal} (hs : d.scale.natAbs ≤ scaleLimit) : ofText? (toString d) = some d.reread := by
  have hread := parse?_render hs
  have hchars : (toString d).toList = d.render := String.toList_ofList
  have htrim : Text.trim d.render = d.render :=
    Text.trim_of_forall fun c hc => not_isSpace_of_isNumeral (isNumeral_of_parse? hread c hc)
  have hreread : d.reread.scale.natAbs ≤ scaleLimit := (natAbs_scale_reread_le d).trans hs
  rw [ofText?, hchars, htrim, hread, Option.filter_some, if_pos (decide_eq_true hreread)]

theorem not_isZero_ofInt {n : Int} (h : n ≠ 0) : ¬ (ofInt n).isZero = true :=
  fun hzero => h (beq_iff_eq.1 hzero)

theorem toString_ofInt (n : Int) : toString (ofInt n) = toString n := by
  have hmagnitude : ∀ m : Nat, renderMagnitude m 0 = digitChars m := fun _ => rfl
  have hrender : (ofInt n).render = (toString n).toList := by
    rw [Text.toList_toString, render]
    by_cases hzero : n = 0
    · rw [hzero]
      rfl
    · rw [if_neg (not_isZero_ofInt hzero), ofInt, hmagnitude]
      by_cases hneg : n < 0
      · rw [if_pos hneg, if_neg (Int.not_le.2 hneg)]
        rfl
      · rw [if_neg hneg, if_pos (Int.not_lt.1 hneg)]
        rfl
  change String.ofList (ofInt n).render = _
  rw [hrender, String.ofList_toList]

/-- The text of a whole number reads as that number, at scale 0. -/
theorem ofText?_toString_int (n : Int) : ofText? (toString n) = some (ofInt n) := by
  have hreread : (ofInt n).reread = ofInt n := by
    unfold reread
    by_cases hzero : n = 0
    · rw [hzero]
      rfl
    · have hscale : ¬ (-(trailingZeroLimit : Int) ≤ (ofInt n).scale ∧ (ofInt n).scale < 0) :=
        fun h => Int.lt_irrefl 0 h.2
      rw [if_neg (not_isZero_ofInt hzero), if_neg hscale]
  rw [← toString_ofInt, ofText?_toString (Nat.zero_le _), hreread]

end Decimal
end RowSql
