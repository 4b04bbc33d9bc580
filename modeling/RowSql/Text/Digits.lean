/-!
# Digits — numbers in a base

A digit is one of `0` to `9` or, in either case, one of `a` to `f`; a base up to sixteen takes the first of them.
-/
namespace RowSql
namespace Text

/-- The value of a hexadecimal digit. -/
def digitValue? (c : Char) : Option Nat :=
  if c.isDigit then some (c.toNat - 48)
  else if 'a' ≤ c ∧ c ≤ 'f' then some (c.toNat - 87)
  else if 'A' ≤ c ∧ c ≤ 'F' then some (c.toNat - 55)
  else none

/-- The value of a digit of a base. -/
def digitIn? (base : Nat) (c : Char) : Option Nat := (digitValue? c).filter (· < base)

def isDigitIn (base : Nat) (c : Char) : Bool := (digitIn? base c).isSome

/-- **The number that digits of a base spell**, the first one the highest. -/
def number? (base : Nat) (cs : List Char) : Option Nat := cs.foldlM (fun n c => (digitIn? base c).map (n * base + ·)) 0

/-- The text of a whole number is its digits, after a sign if it is negative. -/
theorem toList_toString (n : Int) :
    (toString n).toList = if 0 ≤ n then Nat.toDigits 10 n.natAbs else '-' :: Nat.toDigits 10 n.natAbs := by
  cases n with
  | ofNat n =>
    have hsign : 0 ≤ Int.ofNat n := Int.natCast_nonneg n
    rw [if_pos hsign]
    exact Nat.toList_repr
  | negSucc n =>
    rw [if_neg (Int.negSucc_not_nonneg n).1]
    show ("-" ++ Nat.repr (n + 1)).toList = _
    rw [String.toList_append, Nat.toList_repr]
    rfl

end Text
end RowSql
