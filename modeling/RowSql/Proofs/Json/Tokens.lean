import RowSql.Json.Reader
/-!
# Tokens — words, texts and whole numbers that were written

A text is read back from its quoted form (`quotedText_quote`), and a whole number of the signed or the unsigned
64-bit range from its digits (`number_toDigits`), if what stands behind them can follow a value.  Where a token
stands, the reader does not care: the place of a cursor shows in faults only.
-/
namespace RowSql
namespace Json

/-- **What can follow a value in a compact text**: nothing, a comma or a closing bracket. -/
def Follows (tail : List Char) : Prop := ∀ c ∈ tail.head?, c = ',' ∨ c = ']' ∨ c = '\x7d'

theorem follows_nil : Follows [] := nofun

theorem follows_cons {c : Char} (hc : c = ',' ∨ c = ']' ∨ c = '\x7d') (tail : List Char) : Follows (c :: tail) := by
  rintro d ⟨⟩
  exact hc

namespace Cursor

@[simp] theorem rest_skip (c : Cursor) (ch : Char) (rest : List Char) : (c.skip ch rest).rest = rest := by
  unfold skip
  split <;> rfl

theorem next?_eq {c : Cursor} {ch : Char} {rest : List Char} (h : c.rest = ch :: rest) :
    c.next? = some (ch, c.skip ch rest) := by
  simp [next?, h]

/-- Where no blank is next, none is skipped. -/
theorem skipBlanks_eq {c : Cursor} {ch : Char} {rest : List Char} (h : c.rest = ch :: rest) (hb : isBlank ch = false) :
    c.skipBlanks = c := by
  have hline : (ch == '\n') = false := by
    simp only [isBlank, Bool.or_eq_false_iff] at hb
    exact hb.1.1.2
  unfold skipBlanks
  rw [h, skipBlanksFrom, hline, hb]
  simp only [Bool.false_eq_true, if_false, ← h]

theorem skipBytes_rest {c : Cursor} {cs tail : List Char} (hcs : ∀ ch ∈ cs, ch.utf8Size = 1) (h : c.rest = cs ++ tail) :
    (skipBytes cs.length cs.length c).rest = tail := by
  induction cs generalizing c with
  | nil => simpa [skipBytes] using h
  | cons ch cs ih =>
    have hone : ch.utf8Size = 1 := hcs ch List.mem_cons_self
    rw [List.length_cons, skipBytes]
    · simp only [h, List.cons_append, hone, Nat.le_add_left, if_true, Nat.add_sub_cancel]
      exact ih (fun d hd => hcs d (List.mem_cons_of_mem _ hd)) (rest_skip _ _ _)
    · simp

end Cursor

variable {c : Cursor} {tail : List Char}

/-! ## Words -/

theorem word_append : ∀ {cs : List Char} {c : Cursor}, c.rest = cs ++ tail → ∃ c', word cs c = .ok c' ∧ c'.rest = tail
  | [], c, h => ⟨c, rfl, h⟩
  | ch :: cs, c, h => by
    rw [word, Cursor.next?_eq h]
    simp only [beq_self_eq_true, if_true]
    exact word_append (Cursor.rest_skip _ _ _)

/-! ## Texts -/

/-- The four digits of an escaped control character give the character back. -/
theorem number?_hexPair : ∀ n < 0x20, Text.number? 16 ('0' :: '0' :: hexPair n) = some n := by decide

theorem utf8Size_hexPair {n : Nat} (hn : n < 0x20) : ∀ ch ∈ '0' :: '0' :: hexPair n, ch.utf8Size = 1 := by
  have hall : ∀ n < 0x20, ('0' :: '0' :: hexPair n).all (fun ch => ch.utf8Size == 1) = true := by decide
  exact fun ch hch => beq_iff_eq.1 (List.all_eq_true.1 (hall n hn) ch hch)

theorem unicodeEscape_hexPair {n : Nat} (hn : n < 0x20) (h : c.rest = '0' :: '0' :: hexPair n ++ tail) :
    ∃ c', unicodeEscape c = .ok (Char.ofNat n, c') ∧ c'.rest = tail := by
  have hlen : ('0' :: '0' :: hexPair n).length = 4 := rfl
  have hskip := Cursor.skipBytes_rest (utf8Size_hexPair hn) h
  rw [hlen] at hskip
  have htake : c.rest.take 4 = '0' :: '0' :: hexPair n := by rw [h, List.take_append_of_le_length (by simp [hlen])]; rfl
  have hfour : 4 ≤ c.rest.length := by
    rw [h, List.length_append, hlen]
    exact Nat.le_add_right _ _
  have hhex : hexEscape c = .ok (n, Cursor.skipBytes 4 4 c) := by
    unfold hexEscape
    rw [htake, number?_hexPair n hn]
    exact if_pos hfour
  refine ⟨Cursor.skipBytes 4 4 c, ?_, hskip⟩
  simp only [unicodeEscape, hhex, bind, Except.bind]
  rw [if_neg (by omega), if_pos (by omega)]

/-- The letters that stand for characters after a backslash. -/
def escapeLetters : List (Char × Char) :=
  [('"', '"'), ('\\', '\\'), ('b', '\x08'), ('f', '\x0c'), ('n', '\n'), ('r', '\r'), ('t', '\t')]

theorem escape_letter {letter ch : Char} (hl : (letter, ch) ∈ escapeLetters) (h : c.rest = letter :: tail) :
    ∃ c', escape c = .ok (ch, c') ∧ c'.rest = tail := by
  refine ⟨c.skip letter tail, ?_, Cursor.rest_skip _ _ _⟩
  unfold escape
  rw [Cursor.next?_eq h]
  simp only [escapeLetters, List.mem_cons, Prod.mk.injEq, List.not_mem_nil, or_false] at hl
  rcases hl with ⟨rfl, rfl⟩ | ⟨rfl, rfl⟩ | ⟨rfl, rfl⟩ | ⟨rfl, rfl⟩ | ⟨rfl, rfl⟩ | ⟨rfl, rfl⟩ | ⟨rfl, rfl⟩ <;> rfl

/-- **A character is written as a backslash and a letter, as a backslash and its code, or as it is.** -/
theorem escapeChar_cases (ch : Char) :
    (∃ letter, (letter, ch) ∈ escapeLetters ∧ escapeChar ch = ['\\', letter]) ∨
    (ch.toNat < 0x20 ∧ escapeChar ch = '\\' :: 'u' :: '0' :: '0' :: hexPair ch.toNat) ∨
    ((ch == '"') = false ∧ (ch == '\\') = false ∧ ¬ ch.toNat < 0x20 ∧ escapeChar ch = [ch]) := by
  have hletter : ∀ {d letter : Char}, (ch == d) = true → (letter, d) ∈ escapeLetters →
      ∃ letter', (letter', ch) ∈ escapeLetters ∧ ['\\', letter] = ['\\', letter'] := by
    intro d letter hd hm
    obtain rfl : ch = d := by simpa using hd
    exact ⟨letter, hm, rfl⟩
  unfold escapeChar
  iterate 7
    split
    · rename_i h
      exact .inl (hletter h (by decide))
  split
  · rename_i hn
    exact .inr (.inl ⟨hn, rfl⟩)
  · rename_i hq hb _ _ _ _ _ hn
    exact .inr (.inr ⟨by simpa using hq, by simpa using hb, hn, rfl⟩)

theorem escapeChar_ne_nil (ch : Char) : escapeChar ch ≠ [] := by
  rcases escapeChar_cases ch with ⟨letter, -, he⟩ | ⟨-, he⟩ | ⟨-, -, -, he⟩ <;> rw [he] <;> exact List.cons_ne_nil _ _

theorem quoted_backslash (fuel : Nat) (taken : List Char) {ch : Char} {more : List Char} (h : c.rest = '\\' :: more)
    (hescape : ∀ c : Cursor, c.rest = more → ∃ c', escape c = .ok (ch, c') ∧ c'.rest = tail) :
    ∃ c', quoted (fuel + 1) taken c = quoted fuel (ch :: taken) c' ∧ c'.rest = tail := by
  obtain ⟨c', hread, htail⟩ := hescape _ (Cursor.rest_skip c '\\' more)
  refine ⟨c', ?_, htail⟩
  rw [quoted, Cursor.next?_eq h]
  simp [hread]

/-- **An escaped character is read as the character.** -/
theorem quoted_escapeChar (fuel : Nat) (taken : List Char) {ch : Char} (h : c.rest = escapeChar ch ++ tail) :
    ∃ c', quoted (fuel + 1) taken c = quoted fuel (ch :: taken) c' ∧ c'.rest = tail := by
  rcases escapeChar_cases ch with ⟨letter, hl, he⟩ | ⟨hn, he⟩ | ⟨hq, hb, hn, he⟩
  · rw [he] at h
    exact quoted_backslash fuel taken h fun c hc => escape_letter hl hc
  · rw [he] at h
    refine quoted_backslash fuel taken h fun c hc => ?_
    obtain ⟨c', hread, htail⟩ :=
      unicodeEscape_hexPair hn (Cursor.rest_skip c 'u' ('0' :: '0' :: hexPair ch.toNat ++ tail))
    rw [Char.ofNat_toNat] at hread
    refine ⟨c', ?_, htail⟩
    unfold escape
    rw [Cursor.next?_eq hc]
    exact hread
  · rw [he] at h
    refine ⟨c.skip ch tail, ?_, Cursor.rest_skip _ _ _⟩
    rw [quoted, Cursor.next?_eq h]
    simp [hq, hb, hn]

theorem quoted_flatMap : ∀ (cs : List Char) (fuel : Nat) (taken : List Char) {c : Cursor}, cs.length < fuel →
    c.rest = cs.flatMap escapeChar ++ '"' :: tail →
    ∃ c', quoted fuel taken c = .ok (taken.reverse ++ cs, c') ∧ c'.rest = tail
  | _, 0, _, _, hf, _ => absurd hf (Nat.not_lt_zero _)
  | [], fuel + 1, taken, c, _, h => by
    have hrest : c.rest = '"' :: tail := h
    refine ⟨c.skip '"' tail, ?_, Cursor.rest_skip _ _ _⟩
    rw [quoted, Cursor.next?_eq hrest]
    simp
  | ch :: cs, fuel + 1, taken, c, hf, h => by
    rw [List.flatMap_cons, List.append_assoc] at h
    obtain ⟨c', hstep, hc'⟩ := quoted_escapeChar fuel taken h
    obtain ⟨c'', hread, htail⟩ := quoted_flatMap cs fuel (ch :: taken) (Nat.lt_of_succ_lt_succ hf) hc'
    exact ⟨c'', by rw [hstep, hread, List.reverse_cons, List.append_assoc, List.singleton_append], htail⟩

theorem length_le_flatMap_escapeChar : ∀ cs : List Char, cs.length ≤ (cs.flatMap escapeChar).length
  | [] => Nat.le_refl _
  | ch :: cs => by
    have hpos : 0 < (escapeChar ch).length := List.length_pos_iff.2 (escapeChar_ne_nil ch)
    have := length_le_flatMap_escapeChar cs
    rw [List.flatMap_cons, List.length_append, List.length_cons]
    omega

/-- **A text is read back from its quoted form**, whatever stands behind it. -/
theorem quotedText_quote {s : String} (h : '"' :: c.rest = quote s ++ tail) :
    ∃ c', quotedText c = .ok (s, c') ∧ c'.rest = tail := by
  have hrest : c.rest = s.toList.flatMap escapeChar ++ '"' :: tail := by simpa [quote] using h
  have hlen := length_le_flatMap_escapeChar s.toList
  have hfuel : s.toList.length < c.rest.length + 1 := by
    rw [hrest, List.length_append]
    omega
  obtain ⟨c', hread, htail⟩ := quoted_flatMap s.toList _ [] hfuel hrest
  refine ⟨c', ?_, htail⟩
  simp [quotedText, hread, Except.map]

/-! ## Numbers -/

theorem peek_of_follows (ht : Follows tail) (h : c.rest = tail) :
    c.peek.isDigit = false ∧ (c.peek == '.') = false ∧ isExponentMark c.peek = false := by
  unfold Cursor.peek
  rw [h]
  cases tail with
  | nil => decide
  | cons ch rest => rcases ht ch rfl with rfl | rfl | rfl <;> exact ⟨rfl, rfl, rfl⟩

theorem le_ofDigitChars : ∀ (ds : List Char) (n : Nat), n ≤ Nat.ofDigitChars 10 ds n
  | [], _ => Nat.le_refl _
  | d :: ds, n => by
    rw [Nat.ofDigitChars_cons]
    exact Nat.le_trans (by omega) (le_ofDigitChars ds _)

/-- **Digits that fit are read to the end.** -/
theorem digits_append (ht : Follows tail) : ∀ (ds : List Char) (fuel n count : Nat) {c : Cursor},
    (∀ d ∈ ds, d.isDigit = true) → ds.length ≤ fuel → Nat.ofDigitChars 10 ds n < significandLimit →
    c.rest = ds ++ tail →
    ∃ c', digits fuel n count c = (Nat.ofDigitChars 10 ds n, count + ds.length, false, c') ∧ c'.rest = tail
  | [], fuel, n, count, c, _, _, _, h => by
    have hpeek := (peek_of_follows ht h).1
    refine ⟨c, ?_, h⟩
    cases fuel with
    | zero => rfl
    | succ fuel =>
      rw [digits]
      unfold Cursor.peek at hpeek
      cases hc : c.rest with
      | nil => rfl
      | cons ch rest =>
        rw [hc] at hpeek
        simp only [List.headD_cons] at hpeek
        simp [hpeek]
  | d :: ds, 0, _, _, _, _, hf, _, _ => absurd hf (Nat.not_succ_le_zero _)
  | d :: ds, fuel + 1, n, count, c, hd, hf, hlt, h => by
    have hm : 10 * n + (d.toNat - '0'.toNat) = n * 10 + (d.toNat - 48) := by rw [Nat.mul_comm]; rfl
    rw [Nat.ofDigitChars_cons, hm] at hlt
    have hfit : ¬ significandLimit ≤ n * 10 + (d.toNat - 48) :=
      Nat.not_le.2 (Nat.lt_of_le_of_lt (le_ofDigitChars ds _) hlt)
    obtain ⟨c', hread, htail⟩ := digits_append ht ds fuel _ (count + 1) (fun x hx => hd x (List.mem_cons_of_mem _ hx))
      (Nat.le_of_succ_le_succ hf) hlt (Cursor.rest_skip c d (ds ++ tail))
    refine ⟨c', ?_, htail⟩
    rw [digits, h]
    simp only [List.cons_append, hd d List.mem_cons_self, if_true, hfit, if_false]
    rw [hread, Nat.ofDigitChars_cons, hm, List.length_cons, Nat.add_assoc, Nat.add_comm 1]

/-- The first digit of a number is zero for zero only. -/
theorem head?_toDigits_ne {n : Nat} (hn : 0 < n) : (Nat.toDigits 10 n).head? ≠ some '0' := by
  induction n using Nat.strongRecOn with
  | ind n ih =>
    by_cases h : n < 10
    · rw [Nat.toDigits_of_lt_base h]
      have hsmall : ∀ n < 10, 0 < n → [Nat.digitChar n].head? ≠ some '0' := by decide
      exact hsmall n h hn
    · rw [Nat.toDigits_of_base_le (by decide) (Nat.le_of_not_lt h), List.head?_append,
        List.head?_eq_some_head Nat.toDigits_ne_nil, Option.some_or, ← List.head?_eq_some_head]
      exact ih (n / 10) (by omega) (by omega)

/-- **A whole number is read back from its digits**, if it is of the signed or, without a sign, of the unsigned
range. -/
theorem number_toDigits (ht : Follows tail) (negative : Bool) {n : Nat} (hlow : negative = true → 0 < n)
    (hhigh : negative = true → n ≤ 9223372036854775808) (hlimit : n < significandLimit)
    (h : c.rest = Nat.toDigits 10 n ++ tail) :
    ∃ c', number negative c = .ok (.int (if negative then -(n : Int) else n), c') ∧ c'.rest = tail := by
  have hvalue : Nat.ofDigitChars 10 (Nat.toDigits 10 n) 0 = n := Nat.ofDigitChars_toDigits (by decide) (by decide)
  have hall : ∀ d ∈ Nat.toDigits 10 n, d.isDigit = true := fun d hd =>
    Nat.isDigit_of_mem_toDigits (by decide) (by decide) hd
  obtain ⟨d, ds, hds⟩ : ∃ d ds, Nat.toDigits 10 n = d :: ds := List.exists_cons_of_ne_nil Nat.toDigits_ne_nil
  rw [hds] at hvalue hall h
  have h' : c.rest = d :: (ds ++ tail) := h
  have hvalue' : Nat.ofDigitChars 10 ds (d.toNat - 48) = n := by
    rw [Nat.ofDigitChars_cons, Nat.mul_zero, Nat.zero_add] at hvalue
    exact hvalue
  have hrest : (c.skip d (ds ++ tail)).rest = ds ++ tail := Cursor.rest_skip _ _ _
  -- a number that begins with zero is zero
  have hzero : d = '0' → ds = [] := by
    intro hd
    have hn : n = 0 := by
      rcases Nat.eq_zero_or_pos n with hn | hn
      · exact hn
      · exact absurd (by rw [hds, hd]; rfl) (head?_toDigits_ne hn)
    rw [hn, Nat.toDigits_zero] at hds
    exact (List.cons.inj hds).2.symm
  have hnext : (d == '0' && (c.skip d (ds ++ tail)).peek.isDigit) = false := by
    by_cases hd : d = '0'
    · rw [hzero hd, List.nil_append] at hrest ⊢
      simp [(peek_of_follows ht hrest).1]
    · simp [hd]
  have hfuel : ds.length ≤ if d == '0' then 0 else (c.skip d (ds ++ tail)).rest.length := by
    split
    · rename_i hd
      rw [hzero (by simpa using hd)]
      exact Nat.le_refl _
    · rw [hrest, List.length_append]
      exact Nat.le_add_right _ _
  obtain ⟨c', hread, htail⟩ := digits_append ht ds _ _ 0 (fun x hx => hall x (List.mem_cons_of_mem _ hx)) hfuel
    (hvalue'.symm ▸ hlimit) hrest
  obtain ⟨-, hpoint, hmark⟩ := peek_of_follows ht htail
  have hrange : (negative && (n == 0 || decide (9223372036854775808 < n))) = false := by
    cases negative with
    | false => rfl
    | true =>
      have := hlow rfl
      have := hhigh rfl
      simp
      omega
  refine ⟨c', ?_, htail⟩
  rw [number, Cursor.next?_eq h']
  dsimp only
  rw [hnext, hall d List.mem_cons_self, hread, hvalue']
  simp only [Bool.false_eq_true, if_false, if_true, hpoint, hmark, hrange]

end Json
end RowSql
