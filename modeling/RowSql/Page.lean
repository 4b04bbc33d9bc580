/-!
# Page — one page of a listing
-/
namespace RowSql

/-- **A page**: its number from one on, the most items of a page, the number of all items, and its items. -/
structure Page (α : Type) where
  number : Nat
  size : Nat
  total : Nat
  items : List α
deriving Repr

namespace Page

/-- The greatest count of items.  No list has more of them, and a product of counts that is greater is taken for
this one. -/
def greatestCount : Nat := 18446744073709551615

/-- The number of items before a page, which are counted. -/
def skipped (number size : Nat) : Nat := min ((number - 1) * size) greatestCount

/-- **One page of a list.**  Page zero is the first one, and pages of size zero hold everything. -/
def ofList {α : Type} (items : List α) (number size : Nat) : Page α :=
  if size = 0 then ⟨1, items.length, items.length, items⟩
  else
    let number := max number 1
    ⟨number, size, items.length, (items.drop (skipped number size)).take size⟩

end Page
end RowSql
