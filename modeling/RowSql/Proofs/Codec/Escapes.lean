import Mathlib.Algebra.Order.BigOperators.Group.List
import Mathlib.Algebra.Order.Ring.Nat
import RowSql.Proofs.Codec.Csv
import RowSql.Proofs.Codec.LineEnds
import RowSql.Proofs.Outcome
/-!
# Escapes — lines of a layout with an escape character

The reader takes every escape of a line for one, in quotes and outside of them.  The writer doubles the escapes
of a text only where it escapes the text, which is without quoting and when the text has a special character; an
escape alone is not special.  Such a text is kept (`Layout.Guards.keeps`), and so is one without escapes.  All
others are lost: an escape that is read costs two escapes of the line, and the line has not enough of them
(`count_lineOf_lt`).  So a line gives back the texts it was written from just when the writer guarded each of
them (`fields_lineOf_eq_iff`).
-/
namespace RowSql
namespace Csv

/-- **A layout that escapes with `e`**, which is not the delimiter; neither of them is a quote. -/
structure Layout.Escapes (l : Layout) (e : Char) : Prop where
  escape : l.escape = some e
  ne_delimiter : e ≠ l.delimiter
  ne_quote : e ≠ '"'
  notQuote : l.delimiter ≠ '"'

/-- **The writer guards the escapes of a text**: there are none, or the text is written with escapes. -/
def Layout.Guards (l : Layout) (e : Char) (t : List Char) : Prop :=
  e ∈ t → l.quoting = false ∧ t.any (isSpecial l) = true

/-- An escape that options set is not the delimiter. -/
theorem Layout.escape_ne_delimiter {o : Options} {l : Layout} (h : ofOptions o = .ok l) :
    l.escape ≠ some l.delimiter := by
  have hlast : ∀ {delimiter : Char} {escape : Option Char} {fault : CodecFault},
      (if escape == some delimiter then .error fault
        else pure (⟨delimiter, (o.flag? "quoting").getD true, escape⟩ : Layout)) = Except.ok l →
      l.escape ≠ some l.delimiter := by
    intro delimiter escape fault h
    split at h
    · cases h
    · rename_i hne
      cases h
      simpa using hne
  unfold ofOptions at h
  dsimp only at h
  -- whether the delimiter is set, and whether the escape is
  split at h <;> obtain ⟨delimiter, -, h⟩ := bind_eq_ok.1 h <;> split at h <;>
    obtain ⟨escape, -, h⟩ := bind_eq_ok.1 h <;> exact hlast h

variable {l : Layout} {e : Char} {cs tail : List Char}

/-! ## Escaped fields -/

theorem plain_escape (hl : l.Escapes e) (c : Char) (cs : List Char) : plain l (e :: c :: cs) = (plain l cs).cons c := by
  simp [plain, hl.escape, hl.ne_delimiter]

theorem escaped_cons (c : Char) (cs : List Char) :
    escaped l e (c :: cs) = (if c == l.delimiter || c == e then [e, c] else [c]) ++ escaped l e cs := List.flatMap_cons

theorem plain_escaped (hl : l.Escapes e) (ht : l.Closes tail) :
    ∀ cs : List Char, plain l (escaped l e cs ++ tail) = Taken.closed cs tail
  | [] => plain_of_closes ht
  | c :: cs => by
    have ih := plain_escaped hl ht cs
    rw [escaped_cons, List.append_assoc]
    split
    · exact (plain_escape hl c _).trans (congrArg _ ih)
    · rename_i hc
      simp only [Bool.or_eq_true, beq_iff_eq, not_or] at hc
      have he : l.escape ≠ some c := by
        rw [hl.escape]
        exact fun h => hc.2 (Option.some.inj h).symm
      exact (plain_cons hc.1 he _).trans (congrArg _ ih)

theorem write_escaped (hl : l.Escapes e) (hq : l.quoting = false) (h : cs.any (isSpecial l) = true) :
    write l cs = escaped l e cs := by
  simp [write, h, hq, hl.escape]

theorem keeps_escaped (hl : l.Escapes e) (hq : l.quoting = false) (h : cs.any (isSpecial l) = true) : l.Keeps cs := by
  intro tail ht
  rw [write_escaped hl hq h, field_of_not_quoting hq, plain_escaped hl ht]

/-- **A guarded text is kept.** -/
theorem Layout.Guards.keeps (hl : l.Escapes e) (hg : l.Guards e cs) : l.Keeps cs := by
  by_cases he : e ∈ cs
  · obtain ⟨hq, hs⟩ := hg he
    exact keeps_escaped hl hq hs
  · have hnone : ∀ c ∈ cs, l.escape ≠ some c := by
      rw [hl.escape]
      rintro c hc ⟨⟩
      exact he hc
    cases hs : cs.any (isSpecial l) with
    | false => exact keeps_bare hl.notQuote hnone hs
    | true =>
      cases hq : l.quoting with
      | true => exact keeps_quoted hl.notQuote hq hnone hs
      | false => exact keeps_escaped hl hq hs

/-! ## Escapes at the end of a line -/

theorem escaped_concat (l : Layout) (e : Char) (cs : List Char) (c : Char) :
    escaped l e (cs ++ [c]) = escaped l e cs ++ (if c == l.delimiter || c == e then [e, c] else [c]) := by
  simp [escaped, List.flatMap_append]

theorem paired_escaped (l : Layout) (e : Char) (cs : List Char) : paired e (escaped l e cs) = true := by
  induction cs using List.reverseRecOn with
  | nil => rfl
  | append_singleton cs c ih =>
    rw [escaped_concat]
    by_cases hc : c = e
    · have hpair : escaped l e cs ++ [e, e] = escaped l e cs ++ [e] ++ [e] := by simp
      rw [if_pos (by simp [hc]), hc, hpair, paired_concat, paired_concat, ih]
      rfl
    · split
      · have hpair : escaped l e cs ++ [e, c] = escaped l e cs ++ [e] ++ [c] := by simp
        rw [hpair]
        exact paired_concat_of_ne hc _
      · exact paired_concat_of_ne hc _

theorem paired_write (hl : l.Escapes e) {t : List Char} (hg : l.Guards e t) : paired e (write l t) = true := by
  cases hs : t.any (isSpecial l) with
  | false =>
    have he : e ∉ t := fun h => by simpa [hs] using (hg h).2
    rw [write_of_not_special hs]
    cases t using List.reverseRecOn with
    | nil => rfl
    | append_singleton t c => exact paired_concat_of_ne (fun h => he (by simp [h])) t
  | true =>
    cases hq : l.quoting with
    | true =>
      rw [write_of_special hq hs, ← List.cons_append]
      exact paired_concat_of_ne hl.ne_quote.symm _
    | false =>
      rw [write_escaped hl hq hs]
      exact paired_escaped l e t

theorem Layout.Escapes.endsOpen_concat (hl : l.Escapes e) (before : List Char) (c : Char) :
    endsOpen l (before ++ [c]) = (c == l.delimiter && paired e before) := by
  rw [Csv.endsOpen_concat, pending_eq hl.escape, Bool.not_not]

/-- The delimiter is no escape. -/
theorem Layout.Escapes.delimiter (hl : l.Escapes e) : l.escape ≠ some l.delimiter := fun h =>
  hl.ne_delimiter (Option.some.inj (hl.escape.symm.trans h))

/-- **A written field that is not empty leaves no further field open.** -/
theorem endsOpen_write (hl : l.Escapes e) {t : List Char} (ht : t ≠ []) : endsOpen l (write l t) = false := by
  obtain ⟨init, c, rfl⟩ : ∃ init c, t = init ++ [c] := ⟨_, _, (List.dropLast_concat_getLast ht).symm⟩
  cases hs : (init ++ [c]).any (isSpecial l) with
  | false =>
    obtain ⟨hd, -⟩ := not_special hs (List.mem_append_right init List.mem_cons_self)
    rw [write_of_not_special hs, hl.endsOpen_concat]
    simp [hd]
  | true =>
    cases hq : l.quoting with
    | true =>
      rw [write_of_special hq hs, ← List.cons_append, hl.endsOpen_concat]
      simp [hl.notQuote.symm]
    | false =>
      rw [write_escaped hl hq hs, escaped_concat]
      split
      · have hpair : escaped l e init ++ [e, c] = escaped l e init ++ [e] ++ [c] := by simp
        rw [hpair, hl.endsOpen_concat, paired_concat, paired_escaped]
        simp
      · rename_i hc
        simp only [Bool.or_eq_true, not_or] at hc
        rw [hl.endsOpen_concat]
        simp [hc.1]

/-- **A line of guarded texts leaves a further field open just when the last text is empty.** -/
theorem endsOpen_lineOf (hl : l.Escapes e) :
    ∀ texts : List (List Char), texts ≠ [] → texts ≠ [[]] → (∀ t ∈ texts, l.Guards e t) →
      (endsOpen l (lineOf l texts) = true ↔ texts.getLast? = some [])
  | [], h, _, _ => absurd rfl h
  | [t], _, h, _ => by
    have ht : t ≠ [] := fun h' => h (by rw [h'])
    rw [lineOf_singleton, endsOpen_write hl ht]
    simp [ht]
  | t :: u :: us, _, _, hg => by
    rw [lineOf_cons_cons, List.getLast?_cons_cons]
    by_cases hu : u :: us = [[]]
    · rw [hu, lineOf_singleton, write_nil, hl.endsOpen_concat, paired_write hl (hg t List.mem_cons_self)]
      simp
    · rw [endsOpen_append_cons hl.delimiter _ (lineOf_ne_nil (List.cons_ne_nil u us) hu)]
      exact endsOpen_lineOf hl (u :: us) (List.cons_ne_nil u us) hu fun v hv => hg v (List.mem_cons_of_mem _ hv)

/-- **A line of guarded texts gives back these texts.** -/
theorem fields_lineOf_of_guards (hl : l.Escapes e) {texts : List (List Char)} (hne : texts ≠ [])
    (hg : ∀ t ∈ texts, l.Guards e t) : fields l (lineOf l texts) = texts := by
  by_cases h : texts = [[]]
  · subst h
    simp [lineOf_singleton, write_nil, fields, fieldsFrom, field, plain, Taken.last, endsOpen]
  · exact fieldsFrom_lineOf texts hne h (fun t ht => (hg t ht).keeps hl) (endsOpen_lineOf hl texts hne h hg)

/-! ## Counting escapes -/

/-- **The escapes that a text takes on a line**: two for an escape, and without quoting one for a delimiter. -/
def weight (l : Layout) (e : Char) (t : List Char) : Nat := 2 * t.count e + if l.quoting then 0 else t.count l.delimiter

theorem plain_weight (hl : l.Escapes e) (cs : List Char) :
    2 * (plain l cs).text.count e + (plain l cs).text.count l.delimiter + (plain l cs).rest.count e ≤ cs.count e := by
  have hne := hl.ne_delimiter
  fun_induction plain l cs with
  | case1 => simp [Taken.last]
  | case2 => simp
  | case3 => simp [Taken.last]
  | case4 c hd he =>
    have hc : c ≠ e := fun h => he (by simp [hl.escape, h])
    have hc' : c ≠ l.delimiter := by simpa using hd
    simp [Taken.last, Taken.cons, hc, hc']
  | case5 c d cs hd => simp only [List.count_nil, List.count_cons]; omega
  | case6 c d cs hd he ih =>
    obtain rfl : e = c := by simpa [hl.escape] using he
    simp only [Taken.cons, List.count_cons, beq_self_eq_true, if_true]
    by_cases hde : d = e
    · have hdd : (d == l.delimiter) = false := by rw [hde]; simpa using hne
      rw [hde] at hdd ⊢
      simp only [hdd, beq_self_eq_true, if_true, Bool.false_eq_true, if_false]
      omega
    · have hdf : (d == e) = false := by simpa using hde
      have hone : (if d == l.delimiter then 1 else 0) ≤ 1 := by split <;> omega
      simp only [hdf, Bool.false_eq_true, if_false]
      omega
  | case7 c d cs hd he ih =>
    have hc : (c == e) = false := by
      rw [beq_eq_false_iff_ne]
      exact fun h => he (by simp [hl.escape, h])
    have hd' : (c == l.delimiter) = false := by simpa using hd
    simp only [Taken.cons, List.count_cons (a := e) (b := c), List.count_cons (a := l.delimiter) (b := c), hc, hd']
    simpa using ih

theorem afterQuote_text (l : Layout) (cs : List Char) : (afterQuote l cs).text = [] := by
  fun_induction afterQuote l cs with
  | case1 => rfl
  | case2 => rfl
  | case3 c cs h ih => exact ih

theorem afterQuote_count (l : Layout) (e : Char) (cs : List Char) : (afterQuote l cs).rest.count e ≤ cs.count e := by
  fun_induction afterQuote l cs with
  | case1 => simp [Taken.last]
  | case2 c cs h => exact List.count_le_count_cons
  | case3 c cs h ih => exact Nat.le_trans ih List.count_le_count_cons

theorem quoted_weight (hl : l.Escapes e) (cs : List Char) :
    2 * (quoted l cs).text.count e + (quoted l cs).rest.count e ≤ cs.count e := by
  have hq : ('"' == e) = false := by simpa using hl.ne_quote.symm
  fun_induction quoted l cs with
  | case1 => simp [Taken.last]
  | case2 => simp [Taken.last]
  | case3 c he =>
    have hc : c ≠ e := by
      rintro rfl
      simp [hl.escape] at he
    simp [Taken.last, Taken.cons, hc]
  | case4 c d cs hc hd ih =>
    simp only [Taken.cons, List.count_cons (b := '"'), hq, Bool.false_eq_true, if_false]
    exact Nat.le_trans ih (Nat.le_trans List.count_le_count_cons List.count_le_count_cons)
  | case5 c d cs hc hd =>
    rw [afterQuote_text, List.count_nil, Nat.mul_zero, Nat.zero_add]
    exact Nat.le_trans (afterQuote_count l e _) List.count_le_count_cons
  | case6 c d cs hc he ih =>
    obtain rfl : e = c := by simpa [hl.escape] using he
    simp only [Taken.cons, List.count_cons, beq_self_eq_true, if_true]
    split <;> omega
  | case7 c d cs hc he ih =>
    have hce : (c == e) = false := by
      rw [beq_eq_false_iff_ne]
      exact fun h => he (by simp [hl.escape, h])
    simp only [Taken.cons, List.count_cons (b := c), hce]
    simpa using ih

theorem field_weight (hl : l.Escapes e) (cs : List Char) :
    weight l e (field l cs).text + (field l cs).rest.count e ≤ cs.count e := by
  have hplain : ∀ cs, weight l e (plain l cs).text + (plain l cs).rest.count e ≤ cs.count e := by
    intro cs
    have := plain_weight hl cs
    unfold weight
    split <;> omega
  unfold field
  split
  · rename_i cs
    split
    · rename_i hq
      have := quoted_weight hl cs
      have : cs.count e ≤ ('"' :: cs).count e := List.count_le_count_cons
      simp only [weight, hq, if_true]
      omega
    · exact hplain _
  · exact hplain _

/-- **The fields of a line take no more escapes than the line has.** -/
theorem fieldsFrom_weight (hl : l.Escapes e) (line cs : List Char) :
    ((fieldsFrom l line cs).map (weight l e)).sum ≤ cs.count e := by
  have hzero : weight l e [] = 0 := by simp [weight]
  fun_induction fieldsFrom l line cs with
  | case1 cs h =>
    have := field_weight hl cs
    split <;> simp [hzero] <;> omega
  | case2 cs h ih =>
    have := field_weight hl cs
    simp only [List.map_cons, List.sum_cons]
    omega

theorem count_doubled (he : e ≠ '"') : ∀ cs : List Char, (doubled cs).count e = cs.count e
  | [] => rfl
  | c :: cs => by
    have hcons : doubled (c :: cs) = (if c == '"' then ['"', '"'] else [c]) ++ doubled cs := List.flatMap_cons
    rw [hcons, List.count_append, count_doubled he cs, List.count_cons, Nat.add_comm]
    by_cases hc : c = '"'
    · simp [hc, he.symm]
    · simp [hc, List.count_singleton]

theorem count_escaped (hne : e ≠ l.delimiter) :
    ∀ cs : List Char, (escaped l e cs).count e = 2 * cs.count e + cs.count l.delimiter
  | [] => rfl
  | c :: cs => by
    rw [escaped_cons, List.count_append, count_escaped hne cs, List.count_cons, List.count_cons]
    by_cases hc : c = e
    · simp [hc, hne]
      omega
    · by_cases hd : c = l.delimiter
      · simp [hd, hne.symm]
        omega
      · simp [hc, hd]

/-- **A written text has at most the escapes that it takes to read it**, and fewer when its escapes are not guarded. -/
theorem count_write_le (hl : l.Escapes e) (t : List Char) : (write l t).count e ≤ weight l e t := by
  unfold weight
  cases hs : t.any (isSpecial l) with
  | false =>
    rw [write_of_not_special hs]
    omega
  | true =>
    cases hq : l.quoting with
    | true =>
      rw [write_of_special hq hs]
      simp [count_doubled hl.ne_quote, hl.ne_quote.symm]
      omega
    | false =>
      rw [write_escaped hl hq hs, count_escaped hl.ne_delimiter]
      simp

theorem count_write_lt (hl : l.Escapes e) {t : List Char} (hg : ¬ l.Guards e t) :
    (write l t).count e < weight l e t := by
  unfold Layout.Guards at hg
  push Not at hg
  obtain ⟨he, hs⟩ := hg
  have hpos : 0 < t.count e := List.count_pos_iff.2 he
  unfold weight
  cases hs' : t.any (isSpecial l) with
  | false =>
    rw [write_of_not_special hs']
    omega
  | true =>
    have hq : l.quoting = true := by
      by_contra h
      exact hs (by simpa using h) hs'
    rw [write_of_special hq hs']
    simp [count_doubled hl.ne_quote, hl.ne_quote.symm]
    omega

theorem count_lineOf (hl : l.Escapes e) :
    ∀ texts : List (List Char), (lineOf l texts).count e = (texts.map fun t => (write l t).count e).sum
  | [] => rfl
  | [t] => by simp [lineOf_singleton]
  | t :: u :: us => by
    have hd : (l.delimiter == e) = false := by simpa using hl.ne_delimiter.symm
    rw [lineOf_cons_cons, List.count_append, List.count_cons, count_lineOf hl (u :: us), hd]
    simp

/-- **A line has fewer escapes than it takes to read its texts**, when one of these is not guarded. -/
theorem count_lineOf_lt (hl : l.Escapes e) {texts : List (List Char)} (h : ∃ t ∈ texts, ¬ l.Guards e t) :
    (lineOf l texts).count e < (texts.map (weight l e)).sum := by
  rw [count_lineOf hl]
  obtain ⟨t, ht, hg⟩ := h
  exact List.sum_lt_sum _ _ (fun u _ => count_write_le hl u) ⟨t, ht, count_write_lt hl hg⟩

/-! ## Lines -/

/-- **A line with an escape gives back the texts it was written from just when every text with the escape was escaped**,
which takes a layout that does not quote and a special character in that text. -/
theorem fields_lineOf_eq_iff {o : Options} (ho : Layout.ofOptions o = .ok l) (he : l.escape = some e)
    (hd : l.delimiter ≠ '"') (hq : e ≠ '"') {texts : List (List Char)} (hne : texts ≠ []) :
    fields l (lineOf l texts) = texts ↔ ∀ t ∈ texts, e ∈ t → l.quoting = false ∧ t.any (isSpecial l) = true := by
  have hl : l.Escapes e := ⟨he, fun h => Layout.escape_ne_delimiter ho (by rw [he, h]), hq, hd⟩
  constructor
  · intro hread
    by_contra hlost
    have hlost' : ∃ t ∈ texts, ¬ l.Guards e t := by
      simp only [not_forall] at hlost
      obtain ⟨t, ht, hg, hng⟩ := hlost
      exact ⟨t, ht, fun h => hng (h hg)⟩
    have hmore := count_lineOf_lt hl hlost'
    have hless := fieldsFrom_weight hl (lineOf l texts) (lineOf l texts)
    rw [show fieldsFrom l (lineOf l texts) (lineOf l texts) = texts from hread] at hless
    omega
  · exact fields_lineOf_of_guards hl hne

/-- Options that set a backslash as the escape, and no quoting. -/
def backslash : Options := .ofPairs [("escape", .text "\\"), ("quoting", .flag false)]

/-- The layout of these options. -/
def barBackslash : Layout := ⟨'|', false, some '\\'⟩

/-- Texts with escapes, each next to something special. -/
def guardedTexts : List (List Char) := [['a', '\\', '|'], [], ['"', '\\']]

theorem fields_lineOf_eq_iff_guardedTexts :
    Layout.ofOptions backslash = .ok barBackslash ∧
    (fields barBackslash (lineOf barBackslash guardedTexts) = guardedTexts ↔
      ∀ t ∈ guardedTexts, '\\' ∈ t → barBackslash.quoting = false ∧ t.any (isSpecial barBackslash) = true) ∧
    fields barBackslash (lineOf barBackslash guardedTexts) = guardedTexts := by
  have ho : Layout.ofOptions backslash = .ok barBackslash := by rfl
  have hne : guardedTexts ≠ [] := by decide
  have hiff := fields_lineOf_eq_iff ho rfl (by decide) (by decide) hne
  exact ⟨ho, hiff, hiff.2 (by decide)⟩

/-- **A text with an escape and nothing special is written as it is, and read without the escape.** -/
theorem fields_lineOf_lone_escape :
    Layout.ofOptions backslash = .ok barBackslash ∧
    fields barBackslash (lineOf barBackslash [['a', '\\', 'b']]) = [['a', 'b']] ∧
    fields barBackslash (lineOf barBackslash [['a', '\\', 'b']]) ≠ [['a', '\\', 'b']] := by
  have hline : lineOf barBackslash [['a', '\\', 'b']] = ['a', '\\', 'b'] := by rfl
  have hread : fields barBackslash ['a', '\\', 'b'] = [['a', 'b']] := by
    rw [fields, fieldsFrom]
    decide
  rw [hline, hread]
  exact ⟨by rfl, rfl, by decide⟩

end Csv
end RowSql
