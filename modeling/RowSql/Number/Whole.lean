/-!
# Whole — 64-bit integers

The integers of the value model are the signed 64-bit words.  `Whole.ofInt?` is the one way in from unbounded
integers: it answers the word of that value, and nothing for an integer that no word has.
-/
namespace RowSql

/-- A signed 64-bit integer. -/
abbrev Whole := Int64

namespace Whole

/-- The least and the greatest value of a word. -/
def least : Int := -9223372036854775808

@[inherit_doc least] def greatest : Int := 9223372036854775807

/-- **The word of value `n`**, when `n` is in range. -/
def ofInt? (n : Int) : Option Whole :=
  if least ≤ n ∧ n ≤ greatest then some (Int64.ofInt n) else none

/-- The word read as 64 unsigned bits. -/
def bits (w : Whole) : Nat := (w.toInt % 18446744073709551616).toNat

theorem toInt_ofInt? {n : Int} {w : Whole} (h : ofInt? n = some w) : w.toInt = n := by
  unfold ofInt? at h
  split at h
  · rename_i hr
    obtain ⟨h1, h2⟩ := hr
    cases h
    exact Int64.toInt_ofInt_of_le (by simp only [least] at h1; omega) (by simp only [greatest] at h2; omega)
  · cases h

theorem toInt_inRange (w : Whole) : least ≤ w.toInt ∧ w.toInt ≤ greatest := by
  have hlow := Int64.le_toInt w
  have hhigh := Int64.toInt_lt w
  unfold least greatest
  omega

theorem toInt_add_one {w : Whole} (h : w.toInt < greatest) : (w + 1).toInt = w.toInt + 1 := by
  have hw := toInt_inRange w
  have hone : (1 : Whole).toInt = 1 := rfl
  unfold least greatest at *
  rw [Int64.toInt_add, hone]
  exact Int.bmod_eq_of_le (by omega) (by omega)

theorem toInt_neg {w : Whole} (h : least < w.toInt) : (-w).toInt = -w.toInt := by
  have hw := toInt_inRange w
  unfold least greatest at *
  rw [Int64.toInt_neg]
  exact Int.bmod_eq_of_le (by omega) (by omega)

theorem ofInt?_toInt (w : Whole) : ofInt? w.toInt = some w := by
  rw [ofInt?, if_pos (toInt_inRange w), Int64.ofInt_toInt]

theorem ofInt?_eq_some_iff {n : Int} {w : Whole} : ofInt? n = some w ↔ w.toInt = n :=
  ⟨toInt_ofInt?, fun h => h ▸ ofInt?_toInt w⟩

theorem ofInt?_isSome {n : Int} : (ofInt? n).isSome = true ↔ least ≤ n ∧ n ≤ greatest := by
  unfold ofInt?
  split <;> simp_all

end Whole
end RowSql
