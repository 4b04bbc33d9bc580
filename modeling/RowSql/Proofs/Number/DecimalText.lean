import RowSql.Number.DecimalText
/-!
# DecimalText — the characters of numbers

A text that reads as a decimal is made of digits and a few other characters, with white space around it at most
(`isNumeral_of_ofText?`).  So a character that is neither makes a text that does not read as a number.  A number
without a sign has its negative when a minus sign stands before it (`ofText?_neg`).  A text that the program
halts over has no decimal (`not_halts_of_ofText?`).
-/
namespace RowSql

theorem Text.mem_trim_or_isSpace {c : Char} {cs : List Char} (h : c ∈ cs) :
    c ∈ Text.trim cs ∨ Text.isSpace c = true := by
  rw [← List.takeWhile_append_dropWhile (p := Text.isSpace) (l := cs), List.mem_append] at h
  rcases h with hleft | hrest
  · exact .inr (List.all_eq_true.1 List.all_takeWhile c hleft)
  have hrev : c ∈ (Text.trimLeft cs).reverse := List.mem_reverse.2 hrest
  rw [← List.takeWhile_append_dropWhile (p := Text.isSpace) (l := (Text.trimLeft cs).reverse), List.mem_append] at hrev
  rcases hrev with hright | hmid
  · exact .inr (List.all_eq_true.1 List.all_takeWhile c hright)
  · exact .inl (List.mem_reverse.2 hmid)

theorem Text.not_isSpace_of_isDigit {c : Char} (h : c.isDigit = true) : Text.isSpace c = false := by
  have hc : 48 ≤ c.toNat ∧ c.toNat ≤ 57 := by simpa [Char.isDigit, UInt32.le_iff_toNat_le] using h
  simp [Text.isSpace, Text.spaceRanges]
  omega

theorem Text.trimRight_cons {c : Char} (hc : Text.isSpace c = false) (cs : List Char) :
    Text.trimRight (c :: cs) = c :: Text.trimRight cs := by
  rw [Text.trimRight, Text.trimRight, List.reverse_cons, List.dropWhile_append]
  split
  · rename_i hempty
    rw [List.isEmpty_iff.1 hempty, List.dropWhile_cons_of_neg (by simp [hc])]
    rfl
  · rw [List.reverse_append, List.reverse_singleton, List.singleton_append]

theorem Text.trim_cons {c : Char} (hc : Text.isSpace c = false) (cs : List Char) :
    Text.trim (c :: cs) = c :: Text.trimRight cs := by
  rw [Text.trim, Text.trimLeft, List.dropWhile_cons_of_neg (by simp [hc]), Text.trimRight_cons hc]

theorem Text.trim_of_forall {cs : List Char} (h : ∀ c ∈ cs, Text.isSpace c = false) : Text.trim cs = cs := by
  have hright : Text.trimRight cs = cs := by
    induction cs with
    | nil => rfl
    | cons c cs ih =>
      obtain ⟨hc, hcs⟩ := List.forall_mem_cons.1 h
      rw [Text.trimRight_cons hc, ih hcs]
  cases cs with
  | nil => rfl
  | cons c cs =>
    have hc := h c List.mem_cons_self
    rw [Text.trim_cons hc, ← Text.trimRight_cons hc, hright]

namespace Decimal

/-- The characters of a number as text. -/
def isNumeral (c : Char) : Bool := c.isDigit || ['_', '+', '-', '.', 'e', 'E'].contains c

theorem isNumeral_of_readDigits {acc n : Nat} {cs : List Char} (h : readDigits acc cs = some n) :
    ∀ c ∈ cs, isNumeral c = true := by
  fun_induction readDigits acc cs with
  | case1 => simp
  | case2 acc cs ih =>
    rintro c (_ | ⟨_, hc⟩)
    · rfl
    · exact ih h c hc
  | case3 acc c cs hne ih =>
    obtain ⟨d, hd, hrest⟩ := Option.bind_eq_some_iff.1 h
    have hdigit : c.isDigit = true := by
      unfold digitValue? at hd
      split at hd
      · assumption
      · cases hd
    rintro c' (_ | ⟨_, hc⟩)
    · simp [isNumeral, hdigit]
    · exact ih d hrest c' hc

theorem isNumeral_of_readNatural {n : Nat} {cs : List Char} (h : readNatural cs = some n) :
    ∀ c ∈ cs, isNumeral c = true := by
  unfold readNatural at h
  split at h
  · cases h
  · cases h
  · exact isNumeral_of_readDigits h

theorem isNumeral_of_readPlain {n : Nat} {cs : List Char} (h : readPlain cs = some n) :
    ∀ c ∈ cs, isNumeral c = true := by
  unfold readPlain at h
  split at h
  · exact isNumeral_of_readNatural h
  · cases h

theorem isNumeral_of_readInteger {n : Int} {cs : List Char} (h : readInteger cs = some n) :
    ∀ c ∈ cs, isNumeral c = true := by
  unfold readInteger at h
  split at h <;> obtain ⟨_, hnat, -⟩ := Option.map_eq_some_iff.1 h <;>
    obtain ⟨m, hm, -⟩ := Option.bind_eq_some_iff.1 hnat
  · exact List.forall_mem_cons.2 ⟨rfl, isNumeral_of_readNatural hm⟩
  · exact List.forall_mem_cons.2 ⟨rfl, isNumeral_of_readNatural hm⟩
  · exact isNumeral_of_readNatural hm

theorem isNumeral_of_readExponent {e : Int} {cs : List Char} (h : readExponent cs = some e) :
    ∀ c ∈ cs, isNumeral c = true := by
  unfold readExponent at h
  split at h <;> obtain ⟨_, hint, -⟩ := Option.bind_eq_some_iff.1 h <;>
    obtain ⟨_, hnat, -⟩ := Option.map_eq_some_iff.1 hint <;> obtain ⟨m, hm, -⟩ := Option.bind_eq_some_iff.1 hnat
  · exact List.forall_mem_cons.2 ⟨rfl, isNumeral_of_readPlain hm⟩
  · exact List.forall_mem_cons.2 ⟨rfl, isNumeral_of_readPlain hm⟩
  · exact isNumeral_of_readPlain hm

theorem splitAt?_eq_some {p : Char → Bool} {cs a b : List Char} (h : splitAt? p cs = some (a, b)) :
    ∃ c, p c = true ∧ cs = a ++ c :: b := by
  induction cs generalizing a with
  | nil => cases h
  | cons c cs ih =>
    rw [splitAt?] at h
    split at h
    · rename_i hc
      cases h
      exact ⟨c, hc, rfl⟩
    · obtain ⟨⟨a', b'⟩, hrest, heq⟩ := Option.map_eq_some_iff.1 h
      cases heq
      obtain ⟨c', hc', rfl⟩ := ih hrest
      exact ⟨c', hc', rfl⟩

theorem isNumeral_of_readMantissa {m : Int × Nat} {cs : List Char} (h : readMantissa cs = some m) :
    ∀ c ∈ cs, isNumeral c = true := by
  unfold readMantissa at h
  split at h <;> obtain ⟨n, hn, -⟩ := Option.map_eq_some_iff.1 h
  · exact isNumeral_of_readInteger hn
  · rename_i lead trail hsplit
    obtain ⟨c, hc, rfl⟩ := splitAt?_eq_some hsplit
    obtain rfl : c = '.' := by simpa using hc
    have hboth := isNumeral_of_readInteger hn
    simp only [List.forall_mem_append, List.forall_mem_cons] at hboth ⊢
    exact ⟨hboth.1, rfl, hboth.2⟩

theorem isNumeral_of_parse? {d : Decimal} {cs : List Char} (h : parse? cs = some d) : ∀ c ∈ cs, isNumeral c = true := by
  unfold parse? at h
  split at h
  · obtain ⟨_, hbase, hrest⟩ := Option.bind_eq_some_iff.1 h
    cases hbase
    obtain ⟨m, hm, -⟩ := Option.bind_eq_some_iff.1 hrest
    exact isNumeral_of_readMantissa hm
  · rename_i base exp hsplit
    obtain ⟨_, hexp, hrest⟩ := Option.bind_eq_some_iff.1 h
    obtain ⟨e, he, rfl⟩ := Option.map_eq_some_iff.1 hexp
    obtain ⟨m, hm, -⟩ := Option.bind_eq_some_iff.1 hrest
    obtain ⟨c, hc, rfl⟩ := splitAt?_eq_some hsplit
    have hletter : isNumeral c = true := by
      simp only [Bool.or_eq_true, beq_iff_eq] at hc
      rcases hc with rfl | rfl <;> rfl
    simp only [List.forall_mem_append, List.forall_mem_cons]
    exact ⟨isNumeral_of_readMantissa hm, hletter, isNumeral_of_readExponent he⟩

/-- **A text that reads as a decimal has no other characters** than those of numbers and white space. -/
theorem isNumeral_of_ofText? {d : Decimal} {s : String} (h : ofText? s = some d) :
    ∀ c ∈ s.toList, isNumeral c = true ∨ Text.isSpace c = true := by
  intro c hc
  obtain ⟨hparse, -⟩ := Option.filter_eq_some_iff.1 h
  rcases Text.mem_trim_or_isSpace hc with hmid | hspace
  · exact .inl (isNumeral_of_parse? hparse c hmid)
  · exact .inr hspace

/-! ## Signs -/

/-- A number begins with a digit, or with the point before one: it has no sign. -/
def isUnsigned : List Char → Bool
  | '.' :: d :: _ => d.isDigit
  | d :: _ => d.isDigit
  | [] => false

theorem isUnsigned_cases {cs : List Char} (h : isUnsigned cs = true) :
    (∃ d ds, cs = d :: ds ∧ d.isDigit = true) ∨ ∃ d ds, cs = '.' :: d :: ds ∧ d.isDigit = true := by
  unfold isUnsigned at h
  split at h
  · exact .inr ⟨_, _, rfl, h⟩
  · exact .inl ⟨_, _, rfl, h⟩
  · cases h

theorem isUnsigned_cons {d : Char} (h : d.isDigit = true) (ds : List Char) : isUnsigned (d :: ds) = true := by
  rw [isUnsigned.eq_2]
  · exact h
  · rintro _ _ rfl
    cases h

theorem splitAt?_cons_of_neg {p : Char → Bool} {c : Char} (h : p c = false) (cs : List Char) :
    splitAt? p (c :: cs) = (splitAt? p cs).map fun (a, b) => (c :: a, b) := by
  rw [splitAt?, h, if_neg Bool.false_ne_true]

theorem splitAt?_of_forall {p : Char → Bool} {cs : List Char} (h : ∀ c ∈ cs, p c = false) : splitAt? p cs = none := by
  induction cs with
  | nil => rfl
  | cons c cs ih =>
    obtain ⟨hc, hcs⟩ := List.forall_mem_cons.1 h
    rw [splitAt?_cons_of_neg hc, ih hcs]
    rfl

theorem ne_of_isDigit {d c : Char} (hd : d.isDigit = true) (hc : c.isDigit = false) : d ≠ c := by
  rintro rfl
  rw [hd] at hc
  cases hc

theorem readInteger_of_digit {d : Char} (h : d.isDigit = true) (ds : List Char) :
    readInteger (d :: ds) = (readNatural (d :: ds)).map fun n => (n : Int) := by
  unfold readInteger
  split
  · rename_i heq
    exact absurd (List.cons.inj heq).1 (ne_of_isDigit h rfl)
  · rename_i heq
    exact absurd (List.cons.inj heq).1 (ne_of_isDigit h rfl)
  · rfl

theorem readInteger_neg {d : Char} (h : d.isDigit = true) (ds : List Char) :
    readInteger ('-' :: d :: ds) = (readInteger (d :: ds)).map Neg.neg := by
  rw [readInteger_of_digit h, readInteger, Option.map_map]
  rfl

theorem readMantissa_neg {cs : List Char} (h : isUnsigned cs = true) :
    readMantissa ('-' :: cs) = (readMantissa cs).map fun m => (-m.1, m.2) := by
  rw [readMantissa, readMantissa, splitAt?_cons_of_neg rfl]
  rcases isUnsigned_cases h with ⟨d, ds, rfl, hd⟩ | ⟨d, ds, rfl, hd⟩
  · rw [splitAt?_cons_of_neg (p := (· == '.')) (beq_false_of_ne (ne_of_isDigit hd rfl))]
    cases splitAt? (· == '.') ds with
    | none => simp [readInteger_neg hd, Option.map_map, Function.comp_def]
    | some parts => simp [readInteger_neg hd, Option.map_map, Function.comp_def]
  · simp [splitAt?, readInteger_neg hd, Option.map_map, Function.comp_def]

/-- The mark of an exponent. -/
def isExponentMark (c : Char) : Bool := c == 'e' || c == 'E'

theorem not_isExponentMark {d : Char} (h : d.isDigit = true) : isExponentMark d = false :=
  Bool.or_eq_false_iff.2 ⟨beq_false_of_ne (ne_of_isDigit h rfl), beq_false_of_ne (ne_of_isDigit h rfl)⟩

theorem isUnsigned_of_splitAt? {cs base exp : List Char} (h : isUnsigned cs = true)
    (hsplit : splitAt? isExponentMark cs = some (base, exp)) : isUnsigned base = true := by
  rcases isUnsigned_cases h with ⟨d, ds, rfl, hd⟩ | ⟨d, ds, rfl, hd⟩
  · rw [splitAt?_cons_of_neg (not_isExponentMark hd)] at hsplit
    obtain ⟨⟨a, b⟩, -, heq⟩ := Option.map_eq_some_iff.1 hsplit
    cases heq
    exact isUnsigned_cons hd _
  · rw [splitAt?_cons_of_neg rfl, splitAt?_cons_of_neg (not_isExponentMark hd)] at hsplit
    obtain ⟨⟨a, b⟩, hrest, heq⟩ := Option.map_eq_some_iff.1 hsplit
    obtain ⟨⟨a', b'⟩, -, heq'⟩ := Option.map_eq_some_iff.1 hrest
    cases heq'
    cases heq
    exact hd

theorem parse?_neg {cs : List Char} (h : isUnsigned cs = true) : parse? ('-' :: cs) = (parse? cs).map neg := by
  unfold parse?
  have hmark : (fun c => c == 'e' || c == 'E') = isExponentMark := rfl
  rw [hmark, splitAt?_cons_of_neg rfl]
  cases hsplit : splitAt? isExponentMark cs with
  | none =>
    simp only [Option.map_none, Option.bind_eq_bind, Option.bind_some, readMantissa_neg h]
    cases readMantissa cs with
    | none => rfl
    | some m =>
      simp only [Option.map_some, Option.bind_some]
      split <;> rfl
  | some parts =>
    obtain ⟨base, exp⟩ := parts
    simp only [Option.map_some, Option.bind_eq_bind]
    cases readExponent exp with
    | none => rfl
    | some e =>
      simp only [Option.map_some, Option.bind_some, readMantissa_neg (isUnsigned_of_splitAt? h hsplit)]
      cases readMantissa base with
      | none => rfl
      | some m =>
        simp only [Option.map_some, Option.bind_some]
        split <;> rfl

theorem trim_neg {s : String} (h : isUnsigned s.toList = true) :
    Text.trim ("-" ++ s).toList = '-' :: Text.trim s.toList ∧ isUnsigned (Text.trim s.toList) = true := by
  rw [String.toList_append]
  change Text.trim ('-' :: s.toList) = _ ∧ _
  rw [Text.trim_cons rfl]
  rcases isUnsigned_cases h with ⟨d, ds, hs, hd⟩ | ⟨d, ds, hs, hd⟩
  · have hspace := Text.not_isSpace_of_isDigit hd
    rw [hs, Text.trim_cons hspace, Text.trimRight_cons hspace]
    exact ⟨rfl, isUnsigned_cons hd _⟩
  · rw [hs, Text.trim_cons rfl, Text.trimRight_cons rfl, Text.trimRight_cons (Text.not_isSpace_of_isDigit hd)]
    exact ⟨rfl, hd⟩

/-- **A number with a minus sign before it reads as its negative.** -/
theorem ofText?_neg {s : String} (h : isUnsigned s.toList = true) : ofText? ("-" ++ s) = (ofText? s).map neg := by
  obtain ⟨htrim, hunsigned⟩ := trim_neg h
  rw [ofText?, ofText?, htrim, parse?_neg hunsigned]
  cases parse? (Text.trim s.toList) with
  | none => rfl
  | some d =>
    rw [Option.map_some, Option.filter_some, Option.filter_some]
    have hsize : d.neg.scale.natAbs = d.scale.natAbs := rfl
    by_cases hscale : d.scale.natAbs ≤ scaleLimit <;> simp [hsize, hscale]

theorem halts_neg {s : String} (h : isUnsigned s.toList = true) : halts ("-" ++ s) = halts s := by
  obtain ⟨htrim, hunsigned⟩ := trim_neg h
  rw [halts, halts, htrim, parse?_neg hunsigned, Option.any_map]
  rfl

theorem isDigit_of_readPlain {cs : List Char} {n : Nat} (h : readPlain cs = some n) : ∀ c ∈ cs, c.isDigit = true := by
  unfold readPlain at h
  split at h
  · rename_i hall
    exact List.all_eq_true.1 hall
  · cases h

theorem readNatural_of_readPlain {cs : List Char} {n : Nat} (h : readPlain cs = some n) : readNatural cs = some n := by
  unfold readPlain at h
  split at h
  · exact h
  · cases h

theorem exists_digit_of_readPlain {cs : List Char} {n : Nat} (h : readPlain cs = some n) :
    ∃ d ds, cs = d :: ds ∧ d.isDigit = true := by
  cases cs with
  | nil => cases readNatural_of_readPlain h
  | cons d ds => exact ⟨d, ds, rfl, isDigit_of_readPlain h d List.mem_cons_self⟩

theorem isUnsigned_of_readPlain {cs : List Char} {n : Nat} (h : readPlain cs = some n) : isUnsigned cs = true := by
  obtain ⟨d, ds, rfl, hd⟩ := exists_digit_of_readPlain h
  exact isUnsigned_cons hd ds

/-- **Plain digits read as the whole number they spell.** -/
theorem ofText?_of_readPlain {s : String} {n : Nat} (h : readPlain s.toList = some n) : ofText? s = some ⟨n, 0⟩ := by
  have hdigit := isDigit_of_readPlain h
  have hmantissa : readMantissa s.toList = some ((n : Int), 0) := by
    obtain ⟨d, ds, hs, hd⟩ := exists_digit_of_readPlain h
    rw [readMantissa, splitAt?_of_forall fun c hc => beq_false_of_ne (ne_of_isDigit (hdigit c hc) rfl)]
    dsimp only
    rw [hs, readInteger_of_digit hd, ← hs, readNatural_of_readPlain h]
    rfl
  have hparse : parse? s.toList = some ⟨n, 0⟩ := by
    have hmark : splitAt? (fun c => c == 'e' || c == 'E') s.toList = none :=
      splitAt?_of_forall fun c hc => not_isExponentMark (hdigit c hc)
    rw [parse?, hmark]
    simp only [Option.bind_eq_bind, Option.bind_some, hmantissa]
    rfl
  rw [ofText?, Text.trim_of_forall fun c hc => Text.not_isSpace_of_isDigit (hdigit c hc), hparse]
  rfl

/-! ## Texts that halt -/

theorem not_halts_of_forall {s : String} (h : ∀ d, parse? (Text.trim s.toList) = some d → d.scale ≠ Whole.least) :
    halts s = false := by
  unfold halts
  cases hparse : parse? (Text.trim s.toList) with
  | none => rfl
  | some d => exact beq_false_of_ne (h d hparse)

/-- **A scale that was accepted is within the limit.** -/
theorem scale_of_ofText? {s : String} {d : Decimal} (h : ofText? s = some d) : d.scale.natAbs ≤ scaleLimit :=
  of_decide_eq_true (Option.filter_eq_some_iff.1 h).2

/-- **A text with a decimal is none that the program halts over.** -/
theorem not_halts_of_ofText? {s : String} {d : Decimal} (h : ofText? s = some d) : halts s = false := by
  have hscale := scale_of_ofText? h
  refine not_halts_of_forall fun d' hparse hleast => ?_
  cases hparse.symm.trans (Option.filter_eq_some_iff.1 h).1
  rw [hleast] at hscale
  exact absurd hscale (by decide)

theorem not_halts_of_parse?_eq_none {s : String} (h : parse? (Text.trim s.toList) = none) : halts s = false :=
  not_halts_of_forall fun _ hd => nomatch h.symm.trans hd

/-- One, with the least word for its scale. -/
def haltingText : String := "1e9223372036854775808"

theorem halts_haltingText : halts haltingText = true := by decide +kernel

example : halts "1e9223372036854775807" = false ∧ ofText? "1e9223372036854775807" = none := by decide +kernel

end Decimal
end RowSql
