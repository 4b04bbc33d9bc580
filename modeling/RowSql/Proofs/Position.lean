import Mathlib.Data.List.Basic
import RowSql.Number.Whole
import RowSql.Position
/-!
# Position — the elements between two positions

Positions of a sequence are read in two ways: counted from the start (`fromStart`), which is how laws speak of
them, and as places from zero (`place`), which is how the functions compute.  The elements between two positions
(`between`) are what is left when as many elements as are before the first one are dropped and the rest is cut
(`between_eq`).  The place of a position that is a word is a word (`place_inRange`), as long as a word can say
the length.
-/
namespace RowSql
namespace Position

/-- **A position counted from the start**, where zero and those below it are counted back from behind the end. -/
def fromStart (i : Int) (length : Nat) : Int := if 0 < i then i else length + i + 1

theorem fromStart_of_pos {i : Int} (h : 0 < i) (length : Nat) : fromStart i length = i := if_pos h

theorem place_eq (i : Int) (length : Nat) : place i length = fromStart i length - 1 := by
  unfold place fromStart
  split <;> omega

theorem place_inRange (i : Whole) {length : Nat} (h : length ≤ Whole.greatest) :
    Whole.least ≤ place i.toInt length ∧ place i.toInt length ≤ Whole.greatest := by
  have hi := i.toInt_inRange
  unfold place
  unfold Whole.least Whole.greatest at *
  split <;> omega

variable {α : Type*}

/-- **The elements at the positions from `first` to `last`**, as far as there are any. -/
def between (first last : Int) (items : List α) : List α :=
  ((items.zipIdx 1).filter fun p => decide (first ≤ p.2 ∧ p.2 ≤ last)).map Prod.fst

theorem filter_zipIdx (first last : Int) : ∀ (items : List α) (k : Nat),
    ((items.zipIdx k).filter fun p => decide (first ≤ p.2 ∧ p.2 ≤ last)).map Prod.fst
      = (items.drop (first - k).toNat).take (last + 1 - max first k).toNat
  | [], _ => by simp
  | v :: items, k => by
    have ih := filter_zipIdx first last items (k + 1)
    rw [List.zipIdx_cons]
    by_cases hfirst : first ≤ k
    · have hdrop : (first - k).toNat = 0 := by omega
      have hdrop' : (first - (k + 1 : Nat)).toNat = 0 := by omega
      rw [hdrop'] at ih
      by_cases hlast : (k : Int) ≤ last
      · have htake : (last + 1 - max first k).toNat = (last + 1 - max first (k + 1 : Nat)).toNat + 1 := by omega
        rw [List.filter_cons_of_pos (by simp [hfirst, hlast]), List.map_cons, ih, hdrop, htake]
        rfl
      · have htake : (last + 1 - max first k).toNat = 0 := by omega
        have htake' : (last + 1 - max first (k + 1 : Nat)).toNat = 0 := by omega
        rw [List.filter_cons_of_neg (by simp [hlast]), ih, htake, htake', List.take_zero, List.take_zero]
    · have hdrop : (first - k).toNat = (first - (k + 1 : Nat)).toNat + 1 := by omega
      have hmax : max first (k : Int) = max first (k + 1 : Nat) := by omega
      rw [List.filter_cons_of_neg (by simp [hfirst]), ih, hdrop, hmax, List.drop_succ_cons]

theorem between_eq {first : Int} (h : 1 ≤ first) (last : Int) (items : List α) :
    between first last items = (items.drop (first - 1).toNat).take (last + 1 - first).toNat := by
  have hmax : max first (1 : Nat) = first := by omega
  unfold between
  rw [filter_zipIdx, hmax]
  rfl

/-- There is nothing behind the last position. -/
theorem between_min (first last : Int) (items : List α) :
    between first (min last items.length) items = between first last items := by
  unfold between
  congr 1
  refine List.filter_congr fun p hp => ?_
  have hend := List.snd_lt_of_mem_zipIdx hp
  have hiff : p.2 ≤ min last items.length ↔ p.2 ≤ last := by omega
  simp only [hiff]

theorem between_of_length_lt {first : Int} {items : List α} (h : items.length < first) (last : Int) :
    between first last items = [] := by
  rw [between_eq (by omega), List.drop_eq_nil_of_le (by omega), List.take_nil]

theorem between_length {first : Int} (h : 1 ≤ first) (items : List α) :
    between first items.length items = items.drop (first - 1).toNat := by
  rw [between_eq h]
  refine List.take_of_length_le ?_
  rw [List.length_drop]
  omega

/-- **The elements up to a position and those behind it are all elements.** -/
theorem between_append {k : Int} (hk : 0 ≤ k) (items : List α) :
    between 1 k items ++ between (k + 1) items.length items = items := by
  have hhead : k + 1 - 1 = k := by omega
  rw [between_eq (by omega), between_length (by omega), hhead]
  exact List.take_append_drop k.toNat items

end Position
end RowSql
