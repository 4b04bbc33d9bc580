import RowSql.Text.Utf8
/-!
# Utf8 — decoding what was encoded

A text is read back from its bytes (`decode_encode`).  A character is written in one to four bytes, and these bytes give
the character back whatever stands after them (`firstChar?_utf8EncodeChar`).
-/
namespace RowSql
namespace Text

/-! ## The bytes of a text -/

theorem toList_loop (bytes : ByteArray) (i : Nat) (before : List UInt8) :
    ByteArray.toList.loop bytes i before = before.reverse ++ bytes.data.toList.drop i := by
  fun_induction ByteArray.toList.loop bytes i before with
  | case1 i before h ih =>
    have hi : i < bytes.data.toList.length := h
    have hget : bytes.get! i = bytes.data.toList[i] := getElem!_pos bytes.data i h
    rw [ih, List.drop_eq_getElem_cons hi, hget, List.reverse_cons, List.append_assoc, List.singleton_append]
  | case2 i before h =>
    have hi : bytes.data.toList.length ≤ i := Nat.le_of_not_lt h
    rw [List.drop_eq_nil_of_le hi, List.append_nil]

/-- **The bytes of a text are those of its characters.** -/
theorem encode_eq_flatMap (s : String) : encode s = s.toList.flatMap String.utf8EncodeChar := by
  have hbytes : s.toUTF8 = s.toList.utf8Encode := by rw [String.toUTF8_eq_toByteArray, String.utf8Encode_toList]
  unfold encode ByteArray.toList
  rw [toList_loop, hbytes, List.utf8Encode, List.toList_data_toByteArray]
  rfl

/-! ## The bytes of a character -/

theorem isContinuation_ofNat {n : Nat} (h : n < 64) : isContinuation (UInt8.ofNat (n + 0x80)) = true := by
  have hn : (UInt8.ofNat (n + 0x80)).toNat = n + 0x80 := UInt8.toNat_ofNat_of_lt' (show n + 0x80 < 256 by omega)
  simp only [isContinuation, Bool.and_eq_true, decide_eq_true_eq, UInt8.le_iff_toNat_le, hn, UInt8.reduceToNat]
  omega

theorem payload_ofNat {n : Nat} (h : n < 64) : payload (UInt8.ofNat (n + 0x80)) = n := by
  have hn : (UInt8.ofNat (n + 0x80)).toNat = n + 0x80 := UInt8.toNat_ofNat_of_lt' (show n + 0x80 < 256 by omega)
  unfold payload
  rw [hn]
  omega

theorem firstChar?_one {n : Nat} (h : n < 0x80) (rest : List UInt8) :
    firstChar? (UInt8.ofNat n :: rest) = some (Char.ofNat n, 1) := by
  have hn : (UInt8.ofNat n).toNat = n := UInt8.toNat_ofNat_of_lt' (show n < 256 by omega)
  have hlt : UInt8.ofNat n < 0x80 := by
    rw [UInt8.lt_iff_toNat_lt, hn]
    exact h
  unfold firstChar?
  simp only [hlt, hn, if_true]

theorem firstChar?_two {a b : Nat} (ha : 2 ≤ a) (ha' : a < 32) (hb : b < 64) (rest : List UInt8) :
    firstChar? (UInt8.ofNat (a + 0xC0) :: UInt8.ofNat (b + 0x80) :: rest) = some (Char.ofNat (a * 64 + b), 2) := by
  have hn : (UInt8.ofNat (a + 0xC0)).toNat = a + 0xC0 := UInt8.toNat_ofNat_of_lt' (show a + 0xC0 < 256 by omega)
  unfold firstChar?
  simp only [UInt8.lt_iff_toNat_lt, UInt8.le_iff_toNat_le, hn, UInt8.reduceToNat, isContinuation_ofNat hb,
    payload_ofNat hb, Bool.and_eq_true, decide_eq_true_eq]
  rw [if_neg (by omega), if_pos (by omega), if_pos trivial, Nat.add_sub_cancel]

theorem firstChar?_three {a b c : Nat} (ha : a < 16) (hb : b < 64) (hc : c < 64) (hlow : a = 0 → 32 ≤ b)
    (hhigh : a = 13 → b < 32) (rest : List UInt8) :
    firstChar? (UInt8.ofNat (a + 0xE0) :: UInt8.ofNat (b + 0x80) :: UInt8.ofNat (c + 0x80) :: rest)
      = some (Char.ofNat ((a * 64 + b) * 64 + c), 3) := by
  have hna : (UInt8.ofNat (a + 0xE0)).toNat = a + 0xE0 := UInt8.toNat_ofNat_of_lt' (show a + 0xE0 < 256 by omega)
  have hnb : (UInt8.ofNat (b + 0x80)).toNat = b + 0x80 := UInt8.toNat_ofNat_of_lt' (show b + 0x80 < 256 by omega)
  unfold firstChar?
  simp only [UInt8.lt_iff_toNat_lt, UInt8.le_iff_toNat_le, ← UInt8.toNat_inj, hna, hnb, UInt8.reduceToNat,
    isContinuation_ofNat hb, isContinuation_ofNat hc, payload_ofNat hb, payload_ofNat hc, Bool.and_eq_true,
    Bool.not_eq_true', Bool.and_eq_false_imp, beq_iff_eq, decide_eq_true_eq, decide_eq_false_iff_not, true_and]
  rw [if_neg (by omega), if_neg (by omega), if_pos (by omega), if_pos (by omega), Nat.add_sub_cancel]

theorem firstChar?_four {a b c d : Nat} (ha : a ≤ 4) (hb : b < 64) (hc : c < 64) (hd : d < 64) (hlow : a = 0 → 16 ≤ b)
    (hhigh : a = 4 → b < 16) (rest : List UInt8) :
    firstChar?
      (UInt8.ofNat (a + 0xF0) :: UInt8.ofNat (b + 0x80) :: UInt8.ofNat (c + 0x80) :: UInt8.ofNat (d + 0x80) :: rest)
      = some (Char.ofNat (((a * 64 + b) * 64 + c) * 64 + d), 4) := by
  have hna : (UInt8.ofNat (a + 0xF0)).toNat = a + 0xF0 := UInt8.toNat_ofNat_of_lt' (show a + 0xF0 < 256 by omega)
  have hnb : (UInt8.ofNat (b + 0x80)).toNat = b + 0x80 := UInt8.toNat_ofNat_of_lt' (show b + 0x80 < 256 by omega)
  unfold firstChar?
  simp only [UInt8.lt_iff_toNat_lt, UInt8.le_iff_toNat_le, ← UInt8.toNat_inj, hna, hnb, UInt8.reduceToNat,
    isContinuation_ofNat hb, isContinuation_ofNat hc, isContinuation_ofNat hd, payload_ofNat hb, payload_ofNat hc,
    payload_ofNat hd, Bool.and_eq_true, Bool.not_eq_true', Bool.and_eq_false_imp, beq_iff_eq, decide_eq_true_eq,
    decide_eq_false_iff_not, true_and]
  rw [if_neg (by omega), if_neg (by omega), if_neg (by omega), if_pos (by omega), if_pos (by omega), Nat.add_sub_cancel]

/-- **The bytes of a character give the character back**, whatever stands after them. -/
theorem firstChar?_utf8EncodeChar (c : Char) (rest : List UInt8) :
    firstChar? (String.utf8EncodeChar c ++ rest) = some (c, (String.utf8EncodeChar c).length) := by
  have hc : Char.ofNat c.val.toNat = c := Char.ofNat_toNat c
  have hvalid : c.val.toNat < 0xD800 ∨ 0xDFFF < c.val.toNat ∧ c.val.toNat < 0x110000 := c.valid
  unfold String.utf8EncodeChar
  dsimp only
  generalize c.val.toNat = n at hc hvalid ⊢
  by_cases h1 : n ≤ 0x7f
  · rw [if_pos h1]
    rw [List.cons_append, List.nil_append, firstChar?_one (by omega), hc]
    rfl
  rw [if_neg h1]
  by_cases h2 : n ≤ 0x7ff
  · rw [if_pos h2]
    have hn : n / 64 % 32 * 64 + n % 64 = n := by omega
    rw [List.cons_append, List.cons_append, List.nil_append, firstChar?_two (by omega) (by omega) (by omega), hn, hc]
    rfl
  rw [if_neg h2]
  by_cases h3 : n ≤ 0xffff
  · rw [if_pos h3]
    have hn : (n / 4096 % 16 * 64 + n / 64 % 64) * 64 + n % 64 = n := by omega
    rw [List.cons_append, List.cons_append, List.cons_append, List.nil_append,
      firstChar?_three (by omega) (by omega) (by omega) (by omega) (by omega), hn, hc]
    rfl
  · rw [if_neg h3]
    have hn : ((n / 262144 % 8 * 64 + n / 4096 % 64) * 64 + n / 64 % 64) * 64 + n % 64 = n := by omega
    rw [List.cons_append, List.cons_append, List.cons_append, List.cons_append, List.nil_append,
      firstChar?_four (by omega) (by omega) (by omega) (by omega) (by omega) (by omega), hn, hc]
    rfl

theorem not_ofNat_lt {n : Nat} (h : 0x80 ≤ n) (h' : n < 256) : ¬ UInt8.ofNat n < 0x80 := by
  have hn : (UInt8.ofNat n).toNat = n := UInt8.toNat_ofNat_of_lt' (show n < 256 by omega)
  simp only [UInt8.lt_iff_toNat_lt, hn, UInt8.reduceToNat]
  omega

/-- **A byte below 128 is a character by itself**, and no part of another one. -/
theorem utf8EncodeChar_of_mem_ascii {c : Char} {b : UInt8} (hb : b ∈ String.utf8EncodeChar c) (hlow : b < 0x80) :
    String.utf8EncodeChar c = [b] := by
  revert hb
  unfold String.utf8EncodeChar
  dsimp only
  generalize c.val.toNat = n
  by_cases h1 : n ≤ 0x7f
  · rw [if_pos h1]
    exact fun hb => by rw [List.mem_singleton.1 hb]
  -- every byte of a longer form has its first bit set
  rw [if_neg h1]
  intro hb
  exfalso
  by_cases h2 : n ≤ 0x7ff
  · rw [if_pos h2] at hb
    simp only [List.mem_cons, List.not_mem_nil, or_false] at hb
    rcases hb with rfl | rfl <;> exact not_ofNat_lt (by omega) (by omega) hlow
  rw [if_neg h2] at hb
  by_cases h3 : n ≤ 0xffff
  · rw [if_pos h3] at hb
    simp only [List.mem_cons, List.not_mem_nil, or_false] at hb
    rcases hb with rfl | rfl | rfl <;> exact not_ofNat_lt (by omega) (by omega) hlow
  · rw [if_neg h3] at hb
    simp only [List.mem_cons, List.not_mem_nil, or_false] at hb
    rcases hb with rfl | rfl | rfl | rfl <;> exact not_ofNat_lt (by omega) (by omega) hlow

/-! ## Decoding -/

/-- The bytes that belong to the character before are passed over. -/
theorem decodeFrom_append (offset : Nat) (rest : List UInt8) :
    ∀ bytes : List UInt8, decodeFrom offset bytes.length (bytes ++ rest) = decodeFrom (offset + bytes.length) 0 rest
  | [] => rfl
  | b :: bytes => by
    rw [List.cons_append, List.length_cons, decodeFrom, decodeFrom_append (offset + 1) rest bytes]
    congr 1
    omega

theorem decodeFrom_utf8EncodeChar (offset : Nat) (c : Char) (rest : List UInt8) :
    decodeFrom offset 0 (String.utf8EncodeChar c ++ rest)
      = (decodeFrom (offset + (String.utf8EncodeChar c).length) 0 rest).map (c :: ·) := by
  have hfirst := firstChar?_utf8EncodeChar c rest
  cases hbytes : String.utf8EncodeChar c with
  | nil => exact absurd hbytes String.utf8EncodeChar_ne_nil
  | cons b bytes =>
    rw [hbytes] at hfirst
    rw [List.cons_append] at hfirst ⊢
    rw [decodeFrom, hfirst]
    dsimp only
    rw [List.length_cons, Nat.add_sub_cancel, decodeFrom_append, Nat.add_right_comm, Nat.add_assoc]

theorem decodeFrom_flatMap (offset : Nat) :
    ∀ cs : List Char, decodeFrom offset 0 (cs.flatMap String.utf8EncodeChar) = .ok cs
  | [] => rfl
  | c :: cs => by
    rw [List.flatMap_cons, decodeFrom_utf8EncodeChar, decodeFrom_flatMap _ cs]
    rfl

/-- **A text is read back from its bytes.** -/
theorem decode_encode (s : String) : decode (encode s) = .ok s.toList := by
  rw [decode, encode_eq_flatMap, decodeFrom_flatMap]

end Text
end RowSql
