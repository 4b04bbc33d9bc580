import RowSql.Arithmetic
import RowSql.Expr.Eval
import RowSql.Proofs.Number.Decimal
import RowSql.Proofs.Number.DecimalText
/-!
# Order — when the order behind comparisons is transitive

Of values that are there and no floats any two have an order, and it is turned round with them.  Values that
read as numbers are in the order of their numbers (`order?_of_numbers`), all others in that of their texts, and
each of the two orders is transitive by itself.  They need not agree: `10` is before `1a` and `1a` before `9` as
texts, and `9` before `10` as numbers.  So `<=` is transitive where all three values read as numbers, or where
those that do come in one order as numbers and as texts (`order?_of_inStep`).
-/
namespace RowSql
namespace Value

/-- A value that is there and is no float; any two of these have an order. -/
structure Orderable (v : Value) : Prop where
  present : v.isNull = false
  noFloat : v.isFloat = false

/-- The number that a value reads as. -/
def number? (v : Value) : Option ℚ := v.toDecimal?.map Decimal.value

/-- **A value other than a float that reads as the number `x`.** -/
structure Reads (v : Value) (x : ℚ) : Prop where
  noFloat : v.isFloat = false
  number : v.number? = some x

theorem Reads.exists_decimal {v : Value} {x : ℚ} (h : v.Reads x) : ∃ d, v.toDecimal? = some d ∧ d.value = x :=
  Option.map_eq_some_iff.1 h.number

theorem Reads.orderable {v : Value} {x : ℚ} (h : v.Reads x) : v.Orderable := by
  refine ⟨?_, h.noFloat⟩
  cases v with
  | null => cases h.number
  | _ => rfl

theorem Reads.unique {v : Value} {x y : ℚ} (hx : v.Reads x) (hy : v.Reads y) : x = y :=
  Option.some.inj (hx.number.symm.trans hy.number)

theorem not_halts_of_toDecimal? {v : Value} {d : Decimal} (h : v.toDecimal? = some d) : v.halts = false := by
  cases v with
  | text s => exact Decimal.not_halts_of_ofText? h
  | null | bool | int | decimal | float | array | row => rfl

/-- **The program does not halt over a value that has a number.** -/
theorem not_halts_of_number? {v : Value} {x : ℚ} (h : v.number? = some x) : v.halts = false := by
  obtain ⟨d, hd, -⟩ := Option.map_eq_some_iff.1 h
  exact not_halts_of_toDecimal? hd

/-- **Two values come in the same order as numbers**, if both read as one, **and as texts**. -/
def InStep (a b : Value) : Prop := ∀ x ∈ a.number?, ∀ y ∈ b.number?, compare x y = textOrder a.render b.render

theorem textOrder_eq_compare (a b : String) : textOrder a b = compare a b := by
  simp only [textOrder, beq_iff_eq]
  rfl

theorem boolOrder_eq_textOrder (a b : Bool) : boolOrder a b = textOrder (render (.bool a)) (render (.bool b)) := by
  cases a <;> cases b <;> rfl

theorem numberOrder?_eq {a : Value} (ha : a.isFloat = false) (b : Value) :
    a.numberOrder? b = a.number?.bind fun x => b.number?.map (compare x) := by
  unfold numberOrder?
  split
  · rename_i m n
    have hcast : compare m.toInt n.toInt = compare (m.toInt : ℚ) n.toInt := by
      rw [← cmp_eq_compare, ← cmp_eq_compare, Int.cast_strictMono.cmp_map_eq]
    simp [number?, toDecimal?, hcast]
  · cases ha
  · rw [number?, number?]
    cases a.toDecimal? <;> cases b.toDecimal? <;> simp [Decimal.order_eq_compare]

/-- **The order of two values**: that of their numbers if both read as one, and else that of their texts. -/
theorem order?_eq_some {a b : Value} (ha : a.Orderable) (hb : b.Orderable) :
    a.order? b = some ((a.numberOrder? b).getD (textOrder a.render b.render)) := by
  unfold order?
  split
  · cases ha.present
  · cases hb.present
  · exact congrArg some (boolOrder_eq_textOrder _ _)
  · rfl

theorem order?_of_numbers {a b : Value} (ha : a.Orderable) (hb : b.Orderable) {x y : ℚ} (hx : a.number? = some x)
    (hy : b.number? = some y) : a.order? b = some (compare x y) := by
  rw [order?_eq_some ha hb, numberOrder?_eq ha.noFloat, hx, hy]
  rfl

theorem order?_of_inStep {a b : Value} (ha : a.Orderable) (hb : b.Orderable) (h : InStep a b) :
    a.order? b = some (compare a.render b.render) := by
  rw [order?_eq_some ha hb, numberOrder?_eq ha.noFloat, ← textOrder_eq_compare]
  cases hx : a.number? with
  | none => rfl
  | some x =>
    cases hy : b.number? with
    | none => rfl
    | some y => exact congrArg some (h x hx y hy)

theorem InStep.symm {a b : Value} (h : InStep a b) : InStep b a := by
  intro y hy x hx
  rw [Std.OrientedOrd.eq_swap, h x hx y hy, textOrder_eq_compare, textOrder_eq_compare]
  exact Std.OrientedOrd.eq_swap.symm

theorem numbers_or_inStep (a b : Value) : (∃ x y, a.number? = some x ∧ b.number? = some y) ∨ InStep a b := by
  cases hx : a.number? with
  | none => exact .inr fun x hx' => absurd (hx.symm.trans hx') nofun
  | some x =>
    cases hy : b.number? with
    | none => exact .inr fun _ _ y hy' => absurd (hy.symm.trans hy') nofun
    | some y => exact .inl ⟨x, y, rfl, rfl⟩

theorem order?_swap {a b : Value} (ha : a.Orderable) (hb : b.Orderable) :
    ∃ o, a.order? b = some o ∧ b.order? a = some o.swap := by
  rcases numbers_or_inStep a b with ⟨x, y, hx, hy⟩ | h
  · refine ⟨compare x y, order?_of_numbers ha hb hx hy, ?_⟩
    rw [order?_of_numbers hb ha hy hx, Std.OrientedOrd.eq_swap]
  · refine ⟨compare a.render b.render, order?_of_inStep ha hb h, ?_⟩
    rw [order?_of_inStep hb ha h.symm, Std.OrientedOrd.eq_swap]

theorem compare_trans {α : Type} [Ord α] [Std.TransOrd α] {x y z : α} (hxy : some (compare x y) ≠ some .gt)
    (hyz : some (compare y z) ≠ some .gt) : some (compare x z) ≠ some .gt := by
  simp only [ne_eq, Option.some_inj, Ordering.ne_gt_iff_isLE] at *
  exact Std.TransCmp.isLE_trans hxy hyz

variable {a b c : Value}

theorem order?_trans_of_numbers (ha : a.Orderable) (hb : b.Orderable) (hc : c.Orderable)
    (hn : ∀ v ∈ [a, b, c], v.number?.isSome = true) (hab : a.order? b ≠ some .gt) (hbc : b.order? c ≠ some .gt) :
    a.order? c ≠ some .gt := by
  obtain ⟨x, hx⟩ := Option.isSome_iff_exists.1 (hn a (by simp))
  obtain ⟨y, hy⟩ := Option.isSome_iff_exists.1 (hn b (by simp))
  obtain ⟨z, hz⟩ := Option.isSome_iff_exists.1 (hn c (by simp))
  rw [order?_of_numbers ha hb hx hy] at hab
  rw [order?_of_numbers hb hc hy hz] at hbc
  rw [order?_of_numbers ha hc hx hz]
  exact compare_trans hab hbc

theorem order?_trans_of_inStep (ha : a.Orderable) (hb : b.Orderable) (hc : c.Orderable) (hstepAB : InStep a b)
    (hstepBC : InStep b c) (hstepAC : InStep a c) (hab : a.order? b ≠ some .gt) (hbc : b.order? c ≠ some .gt) :
    a.order? c ≠ some .gt := by
  rw [order?_of_inStep ha hb hstepAB] at hab
  rw [order?_of_inStep hb hc hstepBC] at hbc
  rw [order?_of_inStep ha hc hstepAC]
  exact compare_trans hab hbc

theorem compared_le_iff (ha : a.Orderable) (hb : b.Orderable) :
    a.compared .le b = .bool true ↔ a.order? b ≠ some .gt := by
  rw [compared, order?_eq_some ha hb]
  generalize (a.numberOrder? b).getD _ = o
  cases o <;> simp [ofBool?, CompareOp.holds]

/-! ## Texts that read as numbers -/

theorem lt_append_nul (cs : List Char) : cs < cs ++ ['\x00'] := by
  induction cs with
  | nil => exact List.nil_lt_cons _ _
  | cons c cs ih => exact List.cons_lt_cons_iff.2 (.inr ⟨rfl, ih⟩)

/-- No text without the least character comes between a text and the text with that character at its end. -/
theorem append_nul_lt {cs ds : List Char} (h : cs < ds) (hd : '\x00' ∉ ds) : cs ++ ['\x00'] < ds := by
  induction cs generalizing ds with
  | nil =>
    cases ds with
    | nil => cases h
    | cons d ds =>
      have hne : d ≠ '\x00' := fun hnul => hd (hnul ▸ List.mem_cons_self)
      have hpos : 0 < d.val.toNat := Nat.pos_of_ne_zero fun h0 => hne (Char.ext (UInt32.toNat_inj.1 h0))
      exact List.cons_lt_cons_iff.2 (.inl (Char.lt_def.2 (UInt32.lt_iff_toNat_lt.2 hpos)))
  | cons c cs ih =>
    cases ds with
    | nil => cases h
    | cons d ds =>
      rcases List.cons_lt_cons_iff.1 h with hlt | ⟨rfl, hrest⟩
      · exact List.cons_lt_cons_iff.2 (.inl hlt)
      · exact List.cons_lt_cons_iff.2 (.inr ⟨rfl, ih hrest fun hm => hd (List.mem_cons_of_mem _ hm)⟩)

theorem nul_not_mem {s : String} {x : ℚ} (h : (text s).number? = some x) : '\x00' ∉ s.toList := by
  intro hmem
  obtain ⟨d, hd, -⟩ := Option.map_eq_some_iff.1 h
  rcases Decimal.isNumeral_of_ofText? hd _ hmem with hnumeral | hspace
  · revert hnumeral
    decide
  · revert hspace
    decide

theorem orderable_text (s : String) : (text s).Orderable := ⟨rfl, rfl⟩

theorem order?_text_of_not_number {s t : String} (h : (text s).number? = none ∨ (text t).number? = none) :
    (text s).order? (text t) = some (textOrder s t) := by
  have hstep : InStep (text s) (text t) := by
    intro x hx y hy
    rcases h with hs | ht
    · cases hs.symm.trans hx
    · cases ht.symm.trans hy
  rw [textOrder_eq_compare]
  exact order?_of_inStep (orderable_text s) (orderable_text t) hstep

/-- **Two texts that are in one order as texts and not as numbers have a third text between them**, so that `<=`
goes round. -/
theorem exists_text_between {s t : String} {x y : ℚ} (hx : (text s).number? = some x) (hy : (text t).number? = some y)
    (hst : s < t) (hyx : y ≤ x) :
    (text t).order? (text s) ≠ some .gt ∧
      ∃ u, (text s).order? (text u) = some .lt ∧ (text u).order? (text t) = some .lt := by
  have hu : (text (s ++ "\x00")).number? = none := by
    by_contra h
    obtain ⟨z, hz⟩ := Option.ne_none_iff_exists'.1 h
    exact nul_not_mem hz (by simp)
  have hsu : s < s ++ "\x00" := by
    rw [String.lt_iff, String.toList_append]
    exact lt_append_nul _
  have hut : s ++ "\x00" < t := by
    rw [String.lt_iff, String.toList_append]
    exact append_nul_lt (String.lt_iff.1 hst) (nul_not_mem hy)
  refine ⟨?_, s ++ "\x00", ?_, ?_⟩
  · rw [order?_of_numbers (orderable_text t) (orderable_text s) hy hx]
    simpa [compare_gt_iff_gt] using hyx
  · rw [order?_text_of_not_number (.inr hu), textOrder, if_pos hsu]
  · rw [order?_text_of_not_number (.inl hu), textOrder, if_pos hut]

/-! ## The order of three values -/

/-- The numbers among three values do not come in another order as texts, or nothing else is among them. -/
def Coherent (a b c : Value) : Prop :=
  (∀ v ∈ [a, b, c], v.number?.isSome = true) ∨ (InStep a b ∧ InStep b c ∧ InStep a c)

/-- **The order behind comparisons**, on values that are there and no floats.  Any two have an order, and it is
turned round with them.  What is not after a second value, which is not after a third one, is not after the
third one, if all three read as numbers or those that do come in the same order as texts.  The condition cannot
be left out: wherever two texts come in one order as texts and not as numbers, there is a third text with which
`<=` goes round. -/
theorem order_laws (ha : a.Orderable) (hb : b.Orderable) (hc : c.Orderable) :
    (∃ o, a.order? b = some o ∧ b.order? a = some o.swap) ∧
    (Coherent a b c →
      (a.order? b ≠ some .gt → b.order? c ≠ some .gt → a.order? c ≠ some .gt) ∧
      (a.compared .le b = .bool true → b.compared .le c = .bool true → a.compared .le c = .bool true)) ∧
    (∀ s t : String, ∀ x ∈ (text s).number?, ∀ y ∈ (text t).number?, s < t → y ≤ x →
      (text t).order? (text s) ≠ some .gt ∧
        ∃ u, (text s).order? (text u) = some .lt ∧ (text u).order? (text t) = some .lt) := by
  refine ⟨order?_swap ha hb, fun hcoherent => ?_, fun s t x hx y hy => exists_text_between hx hy⟩
  have htrans : a.order? b ≠ some .gt → b.order? c ≠ some .gt → a.order? c ≠ some .gt := by
    rcases hcoherent with hnumbers | ⟨hstepAB, hstepBC, hstepAC⟩
    · exact order?_trans_of_numbers ha hb hc hnumbers
    · exact order?_trans_of_inStep ha hb hc hstepAB hstepBC hstepAC
  refine ⟨htrans, ?_⟩
  rw [compared_le_iff ha hb, compared_le_iff hb hc, compared_le_iff ha hc]
  exact htrans

theorem inStep_of_decimals {d e : Decimal} (ha : a.toDecimal? = some d) (hb : b.toDecimal? = some e)
    (h : d.order e = textOrder a.render b.render) : InStep a b := by
  intro x hx y hy
  rw [number?, ha] at hx
  rw [number?, hb] at hy
  cases hx
  cases hy
  rw [← Decimal.order_eq_compare, h]

/-- Two numbers and a word between which both orders agree. -/
theorem order_laws_mixed :
    (∃ o, (text "10").order? (decimal ⟨125, 1⟩) = some o ∧ (decimal ⟨125, 1⟩).order? (text "10") = some o.swap) ∧
    (text "10").compared .le (text "1a") = .bool true := by
  have hmiddle : (decimal ⟨125, 1⟩).Orderable := ⟨rfl, rfl⟩
  have hnone : (text "1a").number? = none := rfl
  have hread : (text "10").toDecimal? = some ⟨10, 0⟩ := by decide +kernel
  have hstep : InStep (text "10") (decimal ⟨125, 1⟩) := inStep_of_decimals hread rfl (by decide +kernel)
  have hcoherent : Coherent (text "10") (decimal ⟨125, 1⟩) (text "1a") :=
    .inr ⟨hstep, fun _ _ y hy => absurd (hnone.symm.trans hy) nofun, fun _ _ y hy => absurd (hnone.symm.trans hy) nofun⟩
  obtain ⟨hswap, htrans, -⟩ := order_laws (orderable_text "10") hmiddle (orderable_text "1a")
  exact ⟨hswap, (htrans hcoherent).2 rfl rfl⟩

/-- The two orders do not agree on `9`, `10` and `1a`. -/
theorem order_not_transitive :
    ¬ ∀ a b c : Value, a.Orderable → b.Orderable → c.Orderable →
      (∃ o, a.order? b = some o ∧ b.order? a = some o.swap) ∧
      (a.order? b ≠ some .gt → b.order? c ≠ some .gt → a.order? c ≠ some .gt) := by
  intro h
  have hfirst : (text "10").order? (text "1a") = some .lt := rfl
  have hsecond : (text "1a").order? (text "9") = some .lt := rfl
  have hround : (text "10").order? (text "9") = some .gt := rfl
  obtain ⟨-, htrans⟩ := h (text "10") (text "1a") (text "9") (orderable_text _) (orderable_text _) (orderable_text _)
  exact htrans (by simp [hfirst]) (by simp [hsecond]) hround

end Value
end RowSql
