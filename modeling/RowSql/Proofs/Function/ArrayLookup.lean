import RowSql.Proofs.Function.ArraySlices
import RowSql.Proofs.Value.Sameness
/-!
# ArrayLookup — finding a value in an array

The functions that find a value ask for it in different ways: positions and removal by equality, containment by
sameness.  For a value that is there the two are one test (`equal_of_present`), so that the position is that of
the first element which is equal, there is none exactly where the array does not contain the value, and removal
leaves an array that does not contain it.
-/
namespace RowSql
namespace ArrayFunction

variable {items : List Value} {v : Value}

theorem has_eq_any_equal (hv : v.isNull = false) (items : List Value) : has items v = items.any fun w => w.equal v := by
  simp only [has, Value.equal_of_present hv]

theorem has_eq_isSome (hv : v.isNull = false) (items : List Value) :
    has items v = (items.findIdx? fun w => w.equal v).isSome := by
  rw [has_eq_any_equal hv, List.findIdx?_isSome]

/-! ## Positions -/

/-- **The element at place `n` is equal to `v`**, counting from zero. -/
def EqualAt (items : List Value) (v : Value) (n : Nat) : Prop := ∃ w, items[n]? = some w ∧ w.equal v = true

theorem findIdx?_equal_iff {n : Nat} :
    (items.findIdx? fun w => w.equal v) = some n ↔ EqualAt items v n ∧ ∀ m < n, ¬ EqualAt items v m := by
  have hat {m : Nat} (h : m < items.length) : EqualAt items v m ↔ items[m].equal v = true := by
    simp [EqualAt, List.getElem?_eq_getElem h]
  rw [List.findIdx?_eq_some_iff_getElem]
  constructor
  · rintro ⟨hn, hequal, hbefore⟩
    exact ⟨(hat hn).2 hequal, fun m hm h => hbefore m hm ((hat (hm.trans hn)).1 h)⟩
  · rintro ⟨hequal, hbefore⟩
    obtain ⟨hn, -⟩ := List.getElem?_eq_some_iff.1 hequal.choose_spec.1
    exact ⟨hn, (hat hn).1 hequal, fun m hm h => hbefore m hm ((hat (hm.trans hn)).2 h)⟩

theorem ofNat_eq_int_iff {n : Nat} {k : Whole} : Value.ofNat n = .int k ↔ k.toInt = n := by
  rw [Value.ofNat, ← Whole.ofInt?_eq_some_iff]
  cases Whole.ofInt? n <;> simp

theorem positionOf_eq (hne : items ≠ []) (v : Value) :
    positionOf items v = .ofNat ((items.findIdx? fun w => w.equal v).elim 0 (· + 1)) := by
  have hfull : ¬ items.isEmpty = true := fun h => hne (List.isEmpty_iff.1 h)
  rw [positionOf, if_neg hfull]
  cases items.findIdx? fun w => w.equal v <;> rfl

theorem positionOf_eq_int_iff (hne : items ≠ []) {k : Whole} {n : Nat} (hk : k.toInt = n + 1) :
    positionOf items v = .int k ↔ (items.findIdx? fun w => w.equal v) = some n := by
  rw [positionOf_eq hne, ofNat_eq_int_iff, hk]
  cases items.findIdx? fun w => w.equal v with
  | none => exact iff_of_false (by rw [Option.elim_none]; omega) nofun
  | some m =>
    rw [Option.elim_some, Option.some_inj]
    omega

theorem positionOf_eq_zero_iff (hne : items ≠ []) :
    positionOf items v = .int 0 ↔ (items.findIdx? fun w => w.equal v) = none := by
  have hzero : (0 : Whole).toInt = 0 := rfl
  rw [positionOf_eq hne, ofNat_eq_int_iff, hzero]
  cases items.findIdx? fun w => w.equal v with
  | none => exact iff_of_true rfl rfl
  | some m => exact iff_of_false (by rw [Option.elim_some]; omega) nofun

/-! ## Removal -/

theorem has_filter_not_equal (hv : v.isNull = false) (items : List Value) :
    has (items.filter fun w => !w.equal v) v = false := by
  rw [has_eq_any_equal hv, List.any_filter, List.any_eq_false]
  simp

/-- Nothing is equal to nothing, so it is not removed. -/
theorem filter_isNull_filter_not_equal (items : List Value) (v : Value) :
    (items.filter fun w => !w.equal v).filter Value.isNull = items.filter Value.isNull := by
  rw [List.filter_filter]
  refine List.filter_congr fun w _ => ?_
  cases hw : w.isNull with
  | true => rw [Value.equal, hw]; rfl
  | false => rfl

end ArrayFunction

namespace Function

open ArrayFunction (EqualAt)

/-- **The element at position `k` is equal to `v`**, counting from one. -/
def EqualElement (context : Context) (items : List Value) (v : Value) (k : Whole) : Prop :=
  ∃ w, (Function.array .elementAt).apply context [.array items, .int k] = .ok w ∧ w.equal v = true

theorem equalElement_iff {context : Context} {items : List Value} {v : Value} {k : Whole} {n : Nat}
    (hk : k.toInt = n + 1) :
    EqualElement context items v k ↔ EqualAt items v n := by
  have happly : (Function.array .elementAt).apply context [.array items, .int k] = .ok (items[n]?.getD .null) := by
    rw [apply_of_present _ _ (by simp [Value.isNull]) rfl, body, ArrayFunction.apply_elementAt hk]
  rw [EqualElement, happly, EqualAt]
  cases items[n]? with
  | none => simp [Value.equal, Value.isNull]
  | some w => simp

/-- **Lookups in an array agree**, for a value that is there.  The position is that of the first element that is
equal to it, and zero exactly where the array does not contain it.  Removal leaves the elements that are not
equal to it, nothing among them, in an array that does not contain it, and changes no array without it.  An
empty array has no position and contains nothing. -/
theorem array_lookups_agree {v : Value} (hv : v.isNull = false) (context : Context) :
    (Function.array .position).apply context [.array [], v] = .ok .null ∧
    (Function.array .contains).apply context [.array [], v] = .ok (.bool false) ∧
    ∀ items : List Value, items ≠ [] → ∃ position found rest,
      (Function.array .position).apply context [.array items, v] = .ok position ∧
      (Function.array .contains).apply context [.array items, v] = .ok (.bool found) ∧
      (Function.array .remove).apply context [.array items, v] = .ok (.array rest) ∧
      (∀ k : Whole, 1 ≤ k.toInt → (position = .int k ↔
        EqualElement context items v k ∧
          ∀ j : Whole, 1 ≤ j.toInt → j.toInt < k.toInt → ¬ EqualElement context items v j)) ∧
      (position = .int 0 ↔ found = false) ∧
      rest = items.filter (fun w => !w.equal v) ∧ rest.filter Value.isNull = items.filter Value.isNull ∧
      (Function.array .contains).apply context [.array rest, v] = .ok (.bool false) ∧
      (position = .int 0 → rest = items) := by
  have hpresent (items : List Value) : ∀ w ∈ [Value.array items, v], w.isNull = false := by simp [hv]
  refine ⟨apply_of_present _ _ (hpresent _) rfl, apply_of_present _ _ (hpresent _) rfl, fun items hne =>
    ⟨ArrayFunction.positionOf items v, ArrayFunction.has items v, items.filter fun w => !w.equal v,
      apply_of_present _ _ (hpresent _) rfl, apply_of_present _ _ (hpresent _) rfl,
      apply_of_present _ _ (hpresent _) rfl,
      fun k hk => ?_, ?_, rfl, ArrayFunction.filter_isNull_filter_not_equal items v, ?_, fun hzero => ?_⟩⟩
  · obtain ⟨n, hn⟩ : ∃ n : Nat, k.toInt = n + 1 := ⟨(k.toInt - 1).toNat, by omega⟩
    rw [ArrayFunction.positionOf_eq_int_iff hne hn, ArrayFunction.findIdx?_equal_iff, equalElement_iff hn]
    -- Places count from zero and positions are words from one; a place before that of a word has a word of its own.
    refine and_congr_right fun _ => ⟨fun hbefore j hj hjk => ?_, fun hbefore m hm => ?_⟩
    · obtain ⟨m, hm⟩ : ∃ m : Nat, j.toInt = m + 1 := ⟨(j.toInt - 1).toNat, by omega⟩
      rw [equalElement_iff hm]
      exact hbefore m (by omega)
    · have hrange := k.toInt_inRange
      have hword : Whole.least ≤ (m + 1 : Int) ∧ (m + 1 : Int) ≤ Whole.greatest := by
        unfold Whole.least at *
        omega
      obtain ⟨j, hj⟩ := Option.isSome_iff_exists.1 (Whole.ofInt?_isSome.2 hword)
      have hj := Whole.toInt_ofInt? hj
      rw [← equalElement_iff hj]
      exact hbefore j (by omega) (by omega)
  · rw [ArrayFunction.positionOf_eq_zero_iff hne, ArrayFunction.has_eq_isSome hv, Option.isSome_eq_false_iff,
      Option.isNone_iff_eq_none]
  · rw [apply_of_present _ _ (hpresent _) rfl, body, ArrayFunction.apply, ArrayFunction.has_filter_not_equal hv]
  · rw [ArrayFunction.positionOf_eq_zero_iff hne, List.findIdx?_eq_none_iff] at hzero
    exact List.filter_eq_self.2 fun w hw => by rw [hzero w hw, Bool.not_false]

/-- An array behind nothing is found by its parts, nothing among them. -/
theorem array_lookups_agree_innerArray :
    (Value.array [.decimal ⟨70, 1⟩, .null]).isNull = false ∧ [Value.null, .array [.int 7, .null]] ≠ [] ∧
    ∃ position : Value,
      (Function.array .position).apply default
      [.array [.null, .array [.int 7, .null]], .array [.decimal ⟨70, 1⟩, .null]] =
        .ok position ∧
      ∀ k : Whole, 1 ≤ k.toInt → (position = .int k ↔
        EqualElement default [.null, .array [.int 7, .null]] (.array [.decimal ⟨70, 1⟩, .null]) k ∧
          ∀ j : Whole, 1 ≤ j.toInt → j.toInt < k.toInt →
            ¬ EqualElement default [.null, .array [.int 7, .null]] (.array [.decimal ⟨70, 1⟩, .null]) j) := by
  have hv : (Value.array [.decimal ⟨70, 1⟩, .null]).isNull = false := rfl
  have hne : [Value.null, .array [.int 7, .null]] ≠ [] := List.cons_ne_nil _ _
  obtain ⟨position, _, _, hposition, -, -, hfirst, -⟩ := (array_lookups_agree hv default).2.2 _ hne
  exact ⟨hv, hne, position, hposition, hfirst⟩

example : ArrayFunction.positionOf [.null, .array [.int 7, .null]] (.array [.decimal ⟨70, 1⟩, .null]) = .int 2 := by rfl

end Function
end RowSql
