import RowSql.Text.Offsets
/-!
# Offsets — offsets in bytes and places in characters

Every place of a text has an offset (`offset?_eq`), and a text that is cut there is cut at the place
(`cut?_take`).  So what is said of offsets can be said of places, whatever the widths of the characters.
-/
namespace RowSql
namespace Text

theorem byteCount_append (ds : List Char) : ∀ cs : List Char, byteCount (cs ++ ds) = byteCount cs + byteCount ds
  | [] => by rw [List.nil_append, byteCount, Nat.zero_add]
  | c :: cs => by rw [List.cons_append, byteCount, byteCount, byteCount_append ds cs, Nat.add_assoc]

theorem getElem?_offsetsFrom : ∀ (cs : List Char) (offset n : Nat),
    (offsetsFrom offset cs)[n]? = if n < cs.length then some (offset + byteCount (cs.take n)) else none
  | [], _, _ => by simp [offsetsFrom]
  | c :: cs, offset, 0 => by simp [offsetsFrom, byteCount]
  | c :: cs, offset, n + 1 => by
    have ih := getElem?_offsetsFrom cs (offset + c.utf8Size) n
    rw [offsetsFrom, List.getElem?_cons_succ, ih, List.take_succ_cons, byteCount]
    simp [Nat.add_assoc]

/-- **The offset of a place** is the bytes of the characters before it. -/
theorem offset?_eq (cs : List Char) (place : Nat) :
    offset? cs place = if place ≤ cs.length then some (byteCount (cs.take place)) else none := by
  unfold offset?
  rw [getElem?_offsetsFrom]
  rcases Nat.lt_trichotomy place cs.length with h | h | h
  · rw [if_pos h, if_pos (Nat.le_of_lt h), Nat.zero_add]
    rfl
  · subst h
    simp
  · rw [if_neg (by omega), if_neg (by omega), if_neg (by omega)]
    rfl

theorem cut?_append (behind : List Char) : ∀ before : List Char,
    cut? (byteCount before) (before ++ behind) = some (before, behind)
  | [] => by
    have hnil : byteCount [] = 0 := rfl
    cases behind <;> rw [List.nil_append, hnil, cut?, if_pos rfl]
  | c :: before => by
    have ih := cut?_append behind before
    have hc := c.utf8Size_pos
    rw [byteCount, List.cons_append, cut?, if_neg (by omega), if_pos (by omega), Nat.add_sub_cancel_left, ih]
    rfl

/-- **A text cut at the offset of a place** is cut at the place. -/
theorem cut?_take (cs : List Char) (place : Nat) :
    cut? (byteCount (cs.take place)) cs = some (cs.take place, cs.drop place) := by
  have h := cut?_append (cs.drop place) (cs.take place)
  rwa [List.take_append_drop] at h

end Text
end RowSql
