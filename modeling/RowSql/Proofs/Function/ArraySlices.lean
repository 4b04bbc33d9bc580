import RowSql.Function
import RowSql.Proofs.Position
/-!
# ArraySlices — elements and slices of an array by position

A position has a place in an array exactly where, counted from the start, it is one of the positions of the
array (`IsInside`).  What stands at a position and what a slice holds are read off that: a slice holds the
elements between two positions (`sliceOf_int`), a head and the slice behind it make up the array
(`sliceOf_append`), and counting from the end is counting from the start in the reversed array
(`elementAt_reverse`).
-/
namespace RowSql
namespace ArrayFunction

open Position (fromStart between)

/-- **A position of a sequence of a length**: other than zero, and inside when it is counted from the start. -/
def IsInside (i : Int) (length : Nat) : Prop := i ≠ 0 ∧ 1 ≤ fromStart i length ∧ fromStart i length ≤ length

instance (i : Int) (length : Nat) : Decidable (IsInside i length) := inferInstanceAs (Decidable (_ ∧ _ ∧ _))

variable {i : Int} {length n : Nat} {items : List Value}

/-! ## Places -/

theorem isInside_iff : IsInside i length ↔ 1 ≤ i ∧ i ≤ length ∨ -length ≤ i ∧ i ≤ -1 := by
  unfold IsInside fromStart
  split <;> omega

theorem index?_eq (i : Int) (length : Nat) :
    index? i length = if IsInside i length then some (fromStart i length - 1).toNat else none := by
  have hiff : (i ≠ 0 ∧ 0 ≤ fromStart i length - 1 ∧ fromStart i length - 1 < length) ↔ IsInside i length := by
    unfold IsInside
    omega
  unfold index?
  rw [Position.place_eq]
  simp only [hiff]

theorem index?_eq_some_iff : index? i length = some n ↔ n < length ∧ (i = n + 1 ∨ i = n - length) := by
  rw [index?_eq]
  by_cases h : IsInside i length
  · have hi := isInside_iff.1 h
    rw [if_pos h, Option.some_inj]
    unfold fromStart
    split <;> omega
  · rw [if_neg h]
    rw [isInside_iff] at h
    exact iff_of_false nofun (by omega)

theorem index?_eq_none_iff : index? i length = none ↔ ¬ IsInside i length := by
  rw [index?_eq]
  split <;> simp [*]

/-- Places from the end are places from the start, the other way round. -/
theorem index?_neg (h : 1 ≤ i) (length : Nat) : index? (-i) length = (index? i length).map fun n => length - 1 - n := by
  cases hi : index? i length with
  | none =>
    rw [index?_eq_none_iff, isInside_iff] at hi
    rw [Option.map_none, index?_eq_none_iff, isInside_iff]
    omega
  | some n =>
    rw [index?_eq_some_iff] at hi
    rw [Option.map_some, index?_eq_some_iff]
    omega

/-! ## Elements -/

theorem elementAt_eq (items : List Value) (i : Whole) :
    ArrayFunction.apply .elementAt [.array items, .int i]
      = ((index? i.toInt items.length).bind fun n => items[n]?).getD .null := by
  rw [ArrayFunction.apply, Value.toWhole?_int, Option.bind_some]
  cases index? i.toInt items.length with
  | none => rfl
  | some n => exact List.getD_eq_getElem?_getD

theorem elementAt_of_getElem? {i : Whole} {v : Value} (hv : items[n]? = some v)
    (hi : i.toInt = n + 1 ∨ i.toInt = n - items.length) :
    ArrayFunction.apply .elementAt [.array items, .int i] = v := by
  obtain ⟨hn, -⟩ := List.getElem?_eq_some_iff.1 hv
  rw [elementAt_eq, index?_eq_some_iff.2 ⟨hn, hi⟩, Option.bind_some, hv, Option.getD_some]

theorem elementAt_of_outside {i : Whole} (h : ¬ IsInside i.toInt items.length) :
    ArrayFunction.apply .elementAt [.array items, .int i] = .null := by
  rw [elementAt_eq, index?_eq_none_iff.2 h]
  rfl

theorem apply_elementAt {i : Whole} (hi : i.toInt = n + 1) (items : List Value) :
    ArrayFunction.apply .elementAt [.array items, .int i] = items[n]?.getD .null := by
  cases hv : items[n]? with
  | some v => exact elementAt_of_getElem? hv (.inl hi)
  | none =>
    rw [List.getElem?_eq_none_iff] at hv
    refine elementAt_of_outside ?_
    rw [isInside_iff]
    omega

theorem elementAt_reverse (items : List Value) {i j : Whole} (hi : 1 ≤ i.toInt) (hj : j.toInt = -i.toInt) :
    ArrayFunction.apply .elementAt [.array items, .int j] =
      ArrayFunction.apply .elementAt [.array items.reverse, .int i] := by
  rw [elementAt_eq, elementAt_eq, hj, index?_neg hi, List.length_reverse]
  cases hplace : index? i.toInt items.length with
  | none => rfl
  | some n =>
    rw [index?_eq_some_iff] at hplace
    rw [Option.map_some, Option.bind_some, Option.bind_some, List.getElem?_reverse hplace.1]

/-! ## Slices -/

/-- **A slice with a length** holds the elements between two positions. -/
theorem sliceOf_int (items : List Value) (start : Whole) {n : Whole} (hn : 0 ≤ n.toInt) {p : Int}
    (hp : p = fromStart start.toInt items.length) :
    sliceOf items (.int start) (some (.int n))
      = .array (if IsInside start.toInt items.length then between p (p + n.toInt - 1) items else []) := by
  have hnot : ¬ n.toInt < 0 := by omega
  unfold sliceOf
  simp only [Value.toWhole?_int]
  rw [index?_eq, ← hp]
  by_cases hinside : IsInside start.toInt items.length
  · have hlength : p + n.toInt - 1 + 1 - p = n.toInt := by omega
    have hfirst : 1 ≤ p := hp ▸ hinside.2.1
    rw [if_pos hinside, if_pos hinside, Position.between_eq hfirst, hlength]
    exact if_neg hnot
  · rw [if_neg hinside, if_neg hinside]

/-- **A slice without one** runs to the end. -/
theorem sliceOf_none (items : List Value) (start : Whole) {p : Int} (hp : p = fromStart start.toInt items.length) :
    sliceOf items (.int start) none
      = .array (if IsInside start.toInt items.length then between p items.length items else []) := by
  unfold sliceOf
  simp only [Value.toWhole?_int]
  rw [index?_eq, ← hp]
  by_cases hinside : IsInside start.toInt items.length
  · have hfirst : 1 ≤ p := hp ▸ hinside.2.1
    rw [if_pos hinside, if_pos hinside, Position.between_length hfirst]
  · rw [if_neg hinside, if_neg hinside]

/-- Counted from the start, a position behind the end needs no case of its own. -/
theorem ite_isInside_between (h : 1 ≤ i) (last : Int) (items : List Value) :
    (if IsInside i items.length then between (fromStart i items.length) last items else []) = between i last items := by
  rw [Position.fromStart_of_pos (by omega)]
  by_cases hinside : IsInside i items.length
  · rw [if_pos hinside]
  · rw [isInside_iff] at hinside
    rw [if_neg (by rwa [isInside_iff]), Position.between_of_length_lt (by omega)]

/-- **A head and the slice behind it make up the array.** -/
theorem sliceOf_append (items : List Value) {k : Whole} (hk : 0 ≤ k.toInt) (hlast : k.toInt < Whole.greatest) :
    ∃ head rest, sliceOf items (.int 1) (some (.int k)) = .array head ∧
      sliceOf items (.int (k + 1)) none = .array rest ∧
      head ++ rest = items := by
  have hone : (1 : Whole).toInt = 1 := rfl
  have hnext : (k + 1).toInt = k.toInt + 1 := Whole.toInt_add_one hlast
  have hend : fromStart 1 items.length + k.toInt - 1 = k.toInt := by
    rw [Position.fromStart_of_pos (by omega)]
    omega
  refine ⟨_, _, sliceOf_int items 1 hk rfl, sliceOf_none items (k + 1) rfl, ?_⟩
  rw [hone, hnext, hend, ite_isInside_between (by omega), ite_isInside_between (by omega), Position.between_append hk]

end ArrayFunction

namespace Function

open Position (fromStart between)

/-- **Elements and slices by position**, at every word.  The element at place `n` is the one at position `n + 1`
and, from the end, at position `n` less the length, and there is nothing at any other position.  A slice holds
the elements at as many positions as it is long, from its start on, and is empty if the array has no such
position.  A head and the slice behind it make up the array, and a position from the end is one from the start
in the reversed array.  Places are words, if a word can say how long the array is. -/
theorem array_positions (items : List Value) (context : Context) :
    (∀ (i : Whole) (n : Nat) (v : Value), items[n]? = some v → (i.toInt = n + 1 ∨ i.toInt = n - items.length) →
      (Function.array .elementAt).apply context [.array items, .int i] = .ok v) ∧
    (∀ i : Whole, ¬ (1 ≤ i.toInt ∧ i.toInt ≤ items.length) → ¬ (-items.length ≤ i.toInt ∧ i.toInt ≤ -1) →
      (Function.array .elementAt).apply context [.array items, .int i] = .ok .null) ∧
    (∀ (start n : Whole) (p : Int), 0 ≤ n.toInt → p = fromStart start.toInt items.length →
      (Function.array .slice).apply context [.array items, .int start, .int n] =
        .ok (.array (if start.toInt ≠ 0 ∧ 1 ≤ p ∧ p ≤ items.length
          then between p (min (p + n.toInt - 1) items.length) items else []))) ∧
    (∀ k : Whole, 0 ≤ k.toInt → k.toInt < Whole.greatest → ∃ head rest,
      (Function.array .slice).apply context [.array items, .int 1, .int k] = .ok (.array head) ∧
      (Function.array .slice).apply context [.array items, .int (k + 1)] = .ok (.array rest) ∧ head ++ rest = items) ∧
    (∀ i : Whole, 1 ≤ i.toInt → ∃ reversed,
      (Function.array .reverse).apply context [.array items] = .ok (.array reversed) ∧
      (Function.array .elementAt).apply context [.array items, .int (-i)] =
        (Function.array .elementAt).apply context [.array reversed, .int i]) ∧
    (items.length ≤ Whole.greatest → ∀ i : Whole,
      Whole.least ≤ Position.place i.toInt items.length ∧ Position.place i.toInt items.length ≤ Whole.greatest) := by
  have helement (items : List Value) (i : Whole) :
      (Function.array .elementAt).apply context [.array items, .int i] =
        .ok (ArrayFunction.apply .elementAt [.array items, .int i]) :=
    apply_of_present _ _ (by simp [Value.isNull]) rfl
  have hslice (start n : Whole) : (Function.array .slice).apply context [.array items, .int start, .int n] =
      .ok (ArrayFunction.sliceOf items (.int start) (some (.int n))) :=
    apply_of_present _ _ (by simp [Value.isNull]) rfl
  have hrest (start : Whole) : (Function.array .slice).apply context [.array items, .int start] =
      .ok (ArrayFunction.sliceOf items (.int start) none) :=
    apply_of_present _ _ (by simp [Value.isNull]) rfl
  refine ⟨fun i n v hv hi => ?_, fun i hstart hend => ?_, fun start n p hn hp => ?_,
    fun k hk hlast => ?_, fun i hi => ?_, fun hlength i => Position.place_inRange i hlength⟩
  · rw [helement, ArrayFunction.elementAt_of_getElem? hv hi]
  · rw [helement, ArrayFunction.elementAt_of_outside]
    rw [ArrayFunction.isInside_iff, not_or]
    exact ⟨hstart, hend⟩
  · rw [hslice, ArrayFunction.sliceOf_int items start hn hp, Position.between_min, hp]
    rfl
  · obtain ⟨head, rest, hhead, hbehind, happend⟩ := ArrayFunction.sliceOf_append items hk hlast
    exact ⟨head, rest, by rw [hslice, hhead], by rw [hrest, hbehind], happend⟩
  · have hneg : (-i).toInt = -i.toInt := Whole.toInt_neg (by unfold Whole.least; omega)
    refine ⟨items.reverse, apply_of_present _ _ (by simp) rfl, ?_⟩
    rw [helement, helement, ArrayFunction.elementAt_reverse items hi hneg]

/-- Positions at both ends of the words, in an array of three elements with nothing in the middle. -/
theorem array_positions_endsOfWords :
    [Value.int 4, .null, .text "x"][2]? = some (.text "x") ∧ (-1 : Whole).toInt = (2 : Nat) - (3 : Nat) ∧
    (Function.array .elementAt).apply default [.array [.int 4, .null, .text "x"], .int (-1)] = .ok (.text "x") ∧
    ¬ (1 ≤ Int64.minValue.toInt ∧ Int64.minValue.toInt ≤ (3 : Nat)) ∧
    ¬ (-(3 : Nat) ≤ Int64.minValue.toInt ∧ Int64.minValue.toInt ≤ -1) ∧
    (Function.array .elementAt).apply default [.array [.int 4, .null, .text "x"], .int Int64.minValue] = .ok .null ∧
    0 ≤ Int64.maxValue.toInt ∧ 2 = fromStart (-2 : Whole).toInt 3 ∧
    (Function.array .slice).apply default [.array [.int 4, .null, .text "x"], .int (-2), .int Int64.maxValue] =
      .ok (.array [.null, .text "x"]) ∧
    0 ≤ (2 : Whole).toInt ∧ (2 : Whole).toInt < Whole.greatest ∧ (∃ head rest,
      (Function.array .slice).apply default [.array [.int 4, .null, .text "x"], .int 1, .int 2] = .ok (.array head) ∧
      (Function.array .slice).apply default [.array [.int 4, .null, .text "x"], .int (2 + 1)] = .ok (.array rest) ∧
      head ++ rest = [.int 4, .null, .text "x"]) ∧
    1 ≤ Int64.maxValue.toInt ∧ (∃ reversed,
      (Function.array .reverse).apply default [.array [.int 4, .null, .text "x"]] = .ok (.array reversed) ∧
      (Function.array .elementAt).apply default [.array [.int 4, .null, .text "x"], .int (-Int64.maxValue)] =
        (Function.array .elementAt).apply default [.array reversed, .int Int64.maxValue]) ∧
    (3 : Nat) ≤ Whole.greatest ∧ Whole.least ≤ Position.place Int64.minValue.toInt 3 := by
  obtain ⟨helement, houtside, hslice, hcut, hreverse, hplace⟩ :=
    array_positions [Value.int 4, .null, .text "x"] (default : Context)
  have hlow : ¬ (1 ≤ Int64.minValue.toInt ∧ Int64.minValue.toInt ≤ (3 : Nat)) := by decide
  have hhigh : ¬ (-(3 : Nat) ≤ Int64.minValue.toInt ∧ Int64.minValue.toInt ≤ -1) := by decide
  have hstart : 2 = fromStart (-2 : Whole).toInt 3 := by decide
  have hlength : (3 : Nat) ≤ Whole.greatest := by decide
  exact ⟨rfl, by decide, helement (-1) 2 (.text "x") rfl (.inr (by decide)), hlow, hhigh,
    houtside _ hlow hhigh, by decide, hstart, hslice (-2) Int64.maxValue 2 (by decide) hstart, by decide, by decide,
    hcut 2 (by decide) (by decide), by decide, hreverse _ (by decide), hlength, (hplace hlength Int64.minValue).1⟩

end Function
end RowSql
