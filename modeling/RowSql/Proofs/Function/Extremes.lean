import RowSql.Proofs.Function.Halting
import RowSql.Proofs.Value.Order
/-!
# Extremes — the greatest and the least of numbers

The loop behind these functions keeps the first of the values so far that none of them is beyond (`Foremost`): a
step keeps it so (`Foremost.step`), and a run ends with that of all values (`foremost_extremeFrom`).  Functions
on an array look at the elements that are there only, so it does not matter where nothing stands in it
(`Padded`).
-/
namespace RowSql
namespace Value

/-- The numbers that the values read as. -/
def numbersOf (vs : List Value) : Set ℚ := {x | ∃ v ∈ vs, v.Reads x}

/-- **The first of the values that read as `x`.** -/
def IsFirstWith (vs : List Value) (x : ℚ) (v : Value) : Prop :=
  ∃ before after, vs = before ++ v :: after ∧ v.Reads x ∧ ∀ u ∈ before, ¬ u.Reads x

/-- **`best` is the first of the values whose number `x` no other number is beyond.** -/
structure Foremost (beyond : ℚ → ℚ → Prop) (vs : List Value) (best : Value) (x : ℚ) : Prop where
  first : IsFirstWith vs x best
  bound : ∀ v ∈ vs, ∀ y, v.Reads y → ¬ beyond x y

variable {beyond : ℚ → ℚ → Prop} {vs : List Value} {v best : Value} {x y : ℚ}

theorem IsFirstWith.reads (h : IsFirstWith vs x v) : v.Reads x := by
  obtain ⟨_, _, _, hreads, _⟩ := h
  exact hreads

theorem IsFirstWith.mem_numbersOf (h : IsFirstWith vs x v) : x ∈ numbersOf vs := by
  obtain ⟨before, after, rfl, hreads, -⟩ := h
  exact ⟨v, by simp, hreads⟩

theorem foremost_singleton [Std.Irrefl beyond] (hv : v.Reads x) : Foremost beyond [v] v x := by
  refine ⟨⟨[], [], rfl, hv, by simp⟩, fun u hu y hy => ?_⟩
  rw [List.mem_singleton] at hu
  subst hu
  rw [hy.unique hv]
  exact irrefl x

/-- **A step**: a value whose number is beyond is the first with it, and any other value changes nothing. -/
theorem Foremost.step [Std.Irrefl beyond] [IsTrans ℚ beyond] (h : Foremost beyond vs best x) (hv : v.Reads y) :
    (beyond x y → Foremost beyond (vs ++ [v]) v y) ∧ (¬ beyond x y → Foremost beyond (vs ++ [v]) best x) := by
  have hmem {P : Value → Prop} (hold : ∀ u ∈ vs, P u) (hnew : P v) : ∀ u ∈ vs ++ [v], P u := by
    simpa [or_imp, forall_and] using ⟨hold, hnew⟩
  constructor
  · intro hbeyond
    refine ⟨⟨vs, [], rfl, hv, fun u hu hy => h.bound u hu y hy hbeyond⟩, hmem (fun u hu z hz hyz => ?_) fun z hz => ?_⟩
    · exact h.bound u hu z hz (IsTrans.trans x y z hbeyond hyz)
    · rw [hz.unique hv]
      exact irrefl y
  · intro hbeyond
    obtain ⟨before, after, hsplit, hreads, hbefore⟩ := h.first
    refine ⟨⟨before, after ++ [v], by simp [hsplit], hreads, hbefore⟩, hmem h.bound fun z hz => ?_⟩
    rwa [hz.unique hv]

theorem Foremost.isGreatest (h : Foremost (· < ·) vs best x) : IsGreatest (numbersOf vs) x :=
  ⟨h.first.mem_numbersOf, fun y ⟨u, hu, hy⟩ => not_lt.1 (h.bound u hu y hy)⟩

theorem Foremost.isLeast (h : Foremost (· > ·) vs best x) : IsLeast (numbersOf vs) x :=
  ⟨h.first.mem_numbersOf, fun y ⟨u, hu, hy⟩ => not_lt.1 (h.bound u hu y hy)⟩

end Value

namespace ArrayFunction

open Value (Reads Foremost)

variable {want : Ordering} {beyond : ℚ → ℚ → Prop}

/-- **The loop over values that read as numbers** ends with the first of them that nothing is beyond. -/
theorem foremost_extremeFrom [Std.Irrefl beyond] [IsTrans ℚ beyond] (hbeyond : ∀ x y, compare y x = want ↔ beyond x y) :
    ∀ (vs : List Value), (∀ v ∈ vs, ∃ y, v.Reads y) → ∀ {seen : List Value} {best : Value} {x : ℚ},
      Foremost beyond seen best x → ∃ z, Foremost beyond (seen ++ vs) (extremeFrom want best vs) z
  | [], _, _, _, x, h => ⟨x, by rwa [List.append_nil]⟩
  | v :: vs, hvs, seen, best, x, h => by
    obtain ⟨y, hy⟩ := hvs v List.mem_cons_self
    have hrest : ∀ u ∈ vs, ∃ z, u.Reads z := fun u hu => hvs u (List.mem_cons_of_mem v hu)
    have horder : v.order? best = some (compare y x) :=
      Value.order?_of_numbers hy.orderable h.first.reads.orderable hy.number h.first.reads.number
    rw [extremeFrom, horder, ← List.singleton_append, ← List.append_assoc]
    dsimp only
    split
    · rename_i hwant
      exact foremost_extremeFrom hbeyond vs hrest ((h.step hy).1 ((hbeyond x y).1 (beq_iff_eq.1 hwant)))
    · rename_i hwant
      exact foremost_extremeFrom hbeyond vs hrest ((h.step hy).2 fun hxy => hwant (beq_iff_eq.2 ((hbeyond x y).2 hxy)))

/-- **`padded` is `vs` with nothing put in anywhere.** -/
inductive Padded : List Value → List Value → Prop
  | nil : Padded [] []
  | pad {vs padded : List Value} : Padded vs padded → Padded vs (.null :: padded)
  | cons (v : Value) {vs padded : List Value} : Padded vs padded → Padded (v :: vs) (v :: padded)

theorem Padded.refl : ∀ vs : List Value, Padded vs vs
  | [] => .nil
  | v :: vs => .cons v (Padded.refl vs)

theorem Padded.filter_eq {vs padded : List Value} (h : Padded vs padded) :
    padded.filter (fun v => !v.isNull) = vs.filter fun v => !v.isNull := by
  induction h with
  | nil => rfl
  | pad _ ih => exact ih
  | cons v _ ih => rw [List.filter_cons, List.filter_cons, ih]

/-- Nothing among the elements does not change which of them is the most extreme. -/
theorem Padded.extreme_eq {vs padded : List Value} (h : Padded vs padded) (want : Ordering) :
    extreme want padded = extreme want vs := by
  rw [extreme, extreme, h.filter_eq]

theorem Padded.mem {vs padded : List Value} (h : Padded vs padded) : ∀ v ∈ padded, v ∈ vs ∨ v = .null := by
  induction h with
  | nil => exact List.forall_mem_nil _
  | pad _ ih => exact List.forall_mem_cons.2 ⟨.inr rfl, ih⟩
  | cons v _ ih =>
    exact List.forall_mem_cons.2 ⟨.inl List.mem_cons_self, fun w hw => (ih w hw).imp_left (List.mem_cons_of_mem v)⟩

/-- The most extreme element of an array of values that are there is the most extreme of these. -/
theorem extreme_of_present {vs : List Value} (h : ∀ v ∈ vs, v.isNull = false) (want : Ordering) :
    extreme want vs = NumberFunction.extreme want vs := by
  have hall : vs.filter (fun v => !v.isNull) = vs := List.filter_eq_self.2 fun v hv => by rw [h v hv, Bool.not_false]
  rw [extreme, hall]
  cases vs <;> rfl

end ArrayFunction

namespace Function

open Value (numbersOf IsFirstWith Foremost)
open ArrayFunction (Padded)

/-- **No function halts over values that all read as numbers**, or over an array of them. -/
theorem not_halts_of_reads (f : Function) {vs : List Value} (hvs : ∀ v ∈ vs, ∃ x, v.Reads x) : f.halts vs = false := by
  refine eq_false_of_ne_true fun h => ?_
  obtain ⟨v, hv, hholds⟩ := f.someHalts h
  obtain ⟨x, hx⟩ := hvs v hv
  have hhalts := Value.not_halts_of_number? hx.number
  cases v with
  | array items => cases hx.number
  | text s => exact absurd hholds (Bool.eq_false_iff.1 hhalts)
  | null | bool | int | decimal | float | row => cases hholds

theorem not_halts_of_padded (f : Function) {vs padded : List Value} (hvs : ∀ v ∈ vs, ∃ x, v.Reads x)
    (hpadded : Padded vs padded) : f.halts [.array padded] = false := by
  refine eq_false_of_ne_true fun h => ?_
  obtain ⟨v, hv, hholds⟩ := f.someHalts h
  rw [List.mem_singleton.1 hv] at hholds
  obtain ⟨w, hw, hhalts⟩ := hholds
  rcases hpadded.mem w hw with hmem | rfl
  · obtain ⟨x, hx⟩ := hvs w hmem
    rw [Value.not_halts_of_number? hx.number] at hhalts
    cases hhalts
  · cases hhalts

/-- **Both loops find the foremost value**: that over the arguments and that over an array, whatever nothing
stands in it. -/
theorem exists_foremost {want : Ordering} {beyond : ℚ → ℚ → Prop} [Std.Irrefl beyond] [IsTrans ℚ beyond]
    (hbeyond : ∀ x y, compare y x = want ↔ beyond x y) {vs : List Value} (hne : vs ≠ [])
    (hvs : ∀ v ∈ vs, ∃ x, v.Reads x) :
    ∃ best x, Foremost beyond vs best x ∧ NumberFunction.extreme want vs = best ∧
      ∀ padded, Padded vs padded → ArrayFunction.extreme want padded = best := by
  cases vs with
  | nil => exact absurd rfl hne
  | cons v vs =>
    obtain ⟨y, hy⟩ := hvs v List.mem_cons_self
    have hrest : ∀ u ∈ vs, ∃ z, u.Reads z := fun u hu => hvs u (List.mem_cons_of_mem v hu)
    have hpresent : ∀ u ∈ v :: vs, u.isNull = false := fun u hu => (hvs u hu).choose_spec.orderable.present
    obtain ⟨x, hx⟩ := ArrayFunction.foremost_extremeFrom hbeyond vs hrest (Value.foremost_singleton hy)
    refine ⟨_, x, hx, rfl, fun padded hpadded => ?_⟩
    rw [hpadded.extreme_eq, ArrayFunction.extreme_of_present hpresent]
    rfl

/-- **The extremes of numbers.**  Of values that all read as numbers and are no floats, in whatever kinds they
come, the greatest argument and the greatest element are the first value with the greatest number, the least
ones the first with the least, and nothing among the elements of the array changes that. -/
theorem extremes_of_numbers {vs : List Value} (hne : vs ≠ []) (hvs : ∀ v ∈ vs, ∃ x, v.Reads x) (context : Context) :
    (∃ x high, IsGreatest (numbersOf vs) x ∧ IsFirstWith vs x high ∧
      (Function.number .greatest).apply context vs = .ok high ∧
      (Function.array .max).apply context [.array vs] = .ok high ∧
      ∀ padded, Padded vs padded → (Function.array .max).apply context [.array padded] = .ok high) ∧
    ∃ x low, IsLeast (numbersOf vs) x ∧ IsFirstWith vs x low ∧
      (Function.number .least).apply context vs = .ok low ∧ (Function.array .min).apply context [.array vs] = .ok low ∧
      ∀ padded, Padded vs padded → (Function.array .min).apply context [.array padded] = .ok low := by
  have hpresent : ∀ v ∈ vs, v.isNull = false := fun v hv => (hvs v hv).choose_spec.orderable.present
  have harray (items : List Value) : ∀ v ∈ [Value.array items], v.isNull = false := by simp
  have hself : Padded vs vs := Padded.refl vs
  obtain ⟨high, x, hhigh, hgreatest, hmax⟩ := exists_foremost (fun _ _ => compare_gt_iff_gt) hne hvs
  obtain ⟨low, y, hlow, hleast, hmin⟩ := exists_foremost (fun _ _ => compare_lt_iff_lt) hne hvs
  refine ⟨⟨x, high, hhigh.isGreatest, hhigh.first, ?_, ?_, fun padded hpadded => ?_⟩,
    y, low, hlow.isLeast, hlow.first, ?_, ?_, fun padded hpadded => ?_⟩
  · rw [apply_of_present _ _ hpresent (not_halts_of_reads _ hvs), body, NumberFunction.apply, hgreatest]
  · rw [apply_of_present _ _ (harray _) (not_halts_of_padded _ hvs hself), body, ArrayFunction.apply, hmax _ hself]
  · rw [apply_of_present _ _ (harray _) (not_halts_of_padded _ hvs hpadded), body, ArrayFunction.apply, hmax _ hpadded]
  · rw [apply_of_present _ _ hpresent (not_halts_of_reads _ hvs), body, NumberFunction.apply, hleast]
  · rw [apply_of_present _ _ (harray _) (not_halts_of_padded _ hvs hself), body, ArrayFunction.apply, hmin _ hself]
  · rw [apply_of_present _ _ (harray _) (not_halts_of_padded _ hvs hpadded), body, ArrayFunction.apply, hmin _ hpadded]

/-- Ten comes twice, as a text and as a decimal. -/
theorem extremes_of_numbers_twoTens :
    [Value.int 3, .text "1e1", .decimal ⟨100, 1⟩] ≠ [] ∧
    (∀ v ∈ [Value.int 3, .text "1e1", .decimal ⟨100, 1⟩], ∃ x, v.Reads x) ∧
    ∃ x high, IsGreatest (numbersOf [.int 3, .text "1e1", .decimal ⟨100, 1⟩]) x ∧
      IsFirstWith [.int 3, .text "1e1", .decimal ⟨100, 1⟩] x high ∧
      (Function.number .greatest).apply default [.int 3, .text "1e1", .decimal ⟨100, 1⟩] = .ok high ∧
      (Function.array .max).apply default [.array [.int 3, .null, .text "1e1", .decimal ⟨100, 1⟩, .null]] =
      .ok high := by
  have hread : (Value.text "1e1").toDecimal? = some ⟨1, -1⟩ := by decide +kernel
  have hvs : ∀ v ∈ [Value.int 3, .text "1e1", .decimal ⟨100, 1⟩], ∃ x, v.Reads x := by
    simp only [List.forall_mem_cons, List.not_mem_nil, false_imp_iff, implies_true, and_true]
    exact ⟨⟨_, rfl, rfl⟩, ⟨_, rfl, congrArg (Option.map Decimal.value) hread⟩, ⟨_, rfl, rfl⟩⟩
  obtain ⟨x, high, hgreatest, hfirst, hargs, -, hpadded⟩ := (extremes_of_numbers (by simp) hvs default).1
  exact ⟨by simp, hvs, x, high, hgreatest, hfirst, hargs, hpadded _ (.cons _ (.pad (.cons _ (.cons _ (.pad .nil)))))⟩

example : ArrayFunction.extreme .gt [.int 3, .null, .text "1e1", .decimal ⟨100, 1⟩, .null] = .text "1e1" := by rfl

end Function
end RowSql
