import RowSql.Page
/-!
# Page — the pages of a list

The first pages of a size hold what the list begins with (`flatten_pages`, by induction on their number), so the
pages up to the last one make up the list (`ofList_partition`).  A product of counts that is cut off is that of
a page behind the last one.
-/
namespace RowSql
namespace Page

variable {α : Type} {items : List α} {number size : Nat}

/-- The number of pages: the least one whose pages have room for all items. -/
def pageCount (total size : Nat) : Nat := (total + size - 1) / size

/-- The items of the first pages, one page after the other. -/
def firstPages (items : List α) (size count : Nat) : List α :=
  (List.range count).flatMap fun k => (ofList items (k + 1) size).items

theorem pageCount_le_iff (hsize : 1 ≤ size) (total count : Nat) :
    pageCount total size ≤ count ↔ total ≤ count * size := by
  rw [pageCount, Nat.div_le_iff_le_mul_add_pred hsize, Nat.mul_comm size count]
  omega

theorem items_ofList (hsize : 1 ≤ size) (items : List α) (number : Nat) :
    (ofList items number size).items = (items.drop (skipped (max number 1) size)).take size := by
  have hzero : size ≠ 0 := by omega
  simp [ofList, hzero]

/-- **A product that is cut off leaves nothing**, as the whole product would. -/
theorem drop_skipped (hfits : items.length ≤ greatestCount) :
    items.drop (skipped number size) = items.drop ((number - 1) * size) := by
  by_cases h : (number - 1) * size ≤ greatestCount
  · rw [skipped, Nat.min_eq_left h]
  · have hbehind : items.length ≤ (number - 1) * size := by omega
    rw [skipped, Nat.min_eq_right (by omega), List.drop_eq_nil_of_le hfits, List.drop_eq_nil_of_le hbehind]

theorem flatten_pages (hfits : items.length ≤ greatestCount) (hsize : 1 ≤ size) (count : Nat) :
    firstPages items size count = items.take (count * size) := by
  unfold firstPages
  induction count with
  | zero => simp
  | succ count ih =>
    have hpage : (ofList items (count + 1) size).items = (items.drop (count * size)).take size := by
      rw [items_ofList hsize, Nat.max_eq_left (by omega), drop_skipped hfits, Nat.add_sub_cancel]
    rw [List.range_succ, List.flatMap_append, ih, List.flatMap_singleton, hpage, Nat.succ_mul, List.take_add]

theorem length_items_le (hsize : 1 ≤ size) (items : List α) (number : Nat) :
    (ofList items number size).items.length ≤ size := by
  rw [items_ofList hsize]
  exact List.length_take_le _ _

theorem items_behind (hfits : items.length ≤ greatestCount) (hsize : 1 ≤ size)
    (h : pageCount items.length size < number) :
    (ofList items number size).items = [] := by
  have hbehind : items.length ≤ (number - 1) * size := (pageCount_le_iff hsize _ _).1 (by omega)
  rw [items_ofList hsize, Nat.max_eq_left (by omega), drop_skipped hfits, List.drop_eq_nil_of_le hbehind, List.take_nil]

/-- **The pages of a list are a partition of it**: none has more items than its size, the pages up to the last
one make up the list in order, those behind are empty, page zero is page one, and each knows the number of all
items. -/
theorem ofList_partition (hfits : items.length ≤ greatestCount) (hsize : 1 ≤ size) :
    (∀ number, (ofList items number size).items.length ≤ size) ∧
    firstPages items size (pageCount items.length size) = items ∧
    (∀ number, pageCount items.length size < number → (ofList items number size).items = []) ∧
    ofList items 0 size = ofList items 1 size ∧
    (∀ number, (ofList items number size).total = items.length) := by
  have hroom : items.length ≤ pageCount items.length size * size := (pageCount_le_iff hsize _ _).1 (Nat.le_refl _)
  refine ⟨length_items_le hsize items, ?_, fun number => items_behind hfits hsize, rfl, fun number => ?_⟩
  · rw [flatten_pages hfits hsize, List.take_of_length_le hroom]
  · unfold ofList
    split <;> rfl

/-- Seven items on pages of three, and the page at which the product of counts is cut off. -/
theorem ofList_partition_sevenByThree :
    ([1, 2, 3, 4, 5, 6, 7] : List Nat).length ≤ greatestCount ∧ 1 ≤ 3 ∧
    pageCount 7 3 = 3 ∧ (ofList [1, 2, 3, 4, 5, 6, 7] 3 3).items = [7] ∧
    firstPages [1, 2, 3, 4, 5, 6, 7] 3 3 = [1, 2, 3, 4, 5, 6, 7] ∧
    (ofList [1, 2, 3, 4, 5, 6, 7] greatestCount 3).items = [] := by
  obtain ⟨-, hall, hbehind, -⟩ := @ofList_partition Nat [1, 2, 3, 4, 5, 6, 7] 3 (by decide) (by decide)
  exact ⟨by decide, by decide, by decide, by decide, hall, hbehind greatestCount (by decide)⟩

end Page
end RowSql
