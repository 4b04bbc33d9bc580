import RowSql.Codec.Csv
import RowSql.Proofs.Codec.Rows
/-!
# Csv — reading the lines that were written

With quotes and without an escape, the fields of a line that was written are the texts it was written from
(`fields_lineOf`), whatever characters these have.  A written field ends where it was meant to end
(`Layout.Faithful.keeps`): it is either quoted, or has no character that could end it or open a quote.  The one
line that is ambiguous is the empty one.
-/
namespace RowSql
namespace Csv

open Codec (trimLineEnds_append)

/-- **A layout that gives back what was written**: it quotes and does not escape, and its delimiter is no quote
and no line end. -/
structure Layout.Faithful (l : Layout) : Prop where
  quoting : l.quoting = true
  escape : l.escape = none
  notQuote : l.delimiter ≠ '"'
  notLineEnd : Codec.isLineEnd l.delimiter = false

/-- What is left of a line after a field: nothing, or the delimiter and more. -/
def Layout.Closes (l : Layout) (tail : List Char) : Prop := ∀ c ∈ tail.head?, c = l.delimiter

theorem Layout.closes_nil (l : Layout) : l.Closes [] := fun _ h => by cases h

theorem Layout.closes_delimiter (l : Layout) (more : List Char) : l.Closes (l.delimiter :: more) := fun _ h => by
  cases h
  rfl

/-- The field of a text that a tail closes. -/
def Taken.closed (cs tail : List Char) : Taken := ⟨cs, !tail.isEmpty, tail.tail⟩

theorem Taken.cons_closed (c : Char) (cs tail : List Char) : (closed cs tail).cons c = closed (c :: cs) tail := rfl

variable {l : Layout} {cs tail : List Char}

/-! ## One step of a reader -/

theorem plain_cons {c : Char} (hc : c ≠ l.delimiter) (he : l.escape ≠ some c) (cs : List Char) :
    plain l (c :: cs) = (plain l cs).cons c := by
  cases cs <;> simp [plain, he, hc]

theorem plain_of_closes (ht : l.Closes tail) : plain l tail = Taken.closed [] tail := by
  cases tail with
  | nil => rfl
  | cons c more =>
    have hc : c = l.delimiter := ht c rfl
    cases more <;> simp [plain, hc, Taken.closed]

theorem afterQuote_of_closes (ht : l.Closes tail) : afterQuote l tail = Taken.closed [] tail := by
  cases tail with
  | nil => rfl
  | cons c more =>
    have hc : c = l.delimiter := ht c rfl
    rw [afterQuote, if_pos (beq_iff_eq.2 hc)]
    rfl

theorem quoted_cons {c : Char} (hc : c ≠ '"') (he : l.escape ≠ some c) (cs : List Char) :
    quoted l (c :: cs) = (quoted l cs).cons c := by
  cases cs <;> simp [quoted, he, hc]

theorem quoted_quote_quote (cs : List Char) : quoted l ('"' :: '"' :: cs) = (quoted l cs).cons '"' := by
  simp [quoted]

/-- **A quote before what closes a field ends the field.** -/
theorem quoted_quote_of_closes (hq : l.delimiter ≠ '"') (ht : l.Closes tail) :
    quoted l ('"' :: tail) = Taken.closed [] tail := by
  cases tail with
  | nil => rfl
  | cons c more =>
    have hc : c ≠ '"' := ht c rfl ▸ hq
    rw [← afterQuote_of_closes ht]
    simp [quoted, hc]

theorem field_eq_plain (hs : ∀ c ∈ cs.head?, c ≠ '"') : field l cs = plain l cs := by
  unfold field
  split
  · exact absurd rfl (hs _ rfl)
  · rfl

theorem field_of_not_quoting (hq : l.quoting = false) (cs : List Char) : field l cs = plain l cs := by
  unfold field
  split
  · rw [hq]
    rfl
  · rfl

/-! ## Written fields -/

theorem plain_append (ht : l.Closes tail) :
    ∀ cs : List Char, (∀ c ∈ cs, c ≠ l.delimiter ∧ l.escape ≠ some c) → plain l (cs ++ tail) = Taken.closed cs tail
  | [], _ => plain_of_closes ht
  | c :: cs, h => by
    obtain ⟨hd, he⟩ := h c List.mem_cons_self
    rw [List.cons_append, plain_cons hd he, plain_append ht cs fun d hm => h d (List.mem_cons_of_mem _ hm),
      Taken.cons_closed]

theorem quoted_doubled (hq : l.delimiter ≠ '"') (ht : l.Closes tail) :
    ∀ cs : List Char, (∀ c ∈ cs, l.escape ≠ some c) → quoted l (doubled cs ++ '"' :: tail) = Taken.closed cs tail
  | [], _ => quoted_quote_of_closes hq ht
  | c :: cs, he => by
    have ih := quoted_doubled hq ht cs fun d hm => he d (List.mem_cons_of_mem _ hm)
    have hcons : doubled (c :: cs) = (if c == '"' then ['"', '"'] else [c]) ++ doubled cs := List.flatMap_cons
    rw [hcons, List.append_assoc]
    by_cases hc : c = '"'
    · rw [if_pos (beq_iff_eq.2 hc), hc]
      exact (quoted_quote_quote _).trans (congrArg _ ih)
    · rw [if_neg (fun h => hc (beq_iff_eq.1 h))]
      exact (quoted_cons hc (he c List.mem_cons_self) _).trans (congrArg _ ih)

theorem write_of_special (hq : l.quoting = true) (h : cs.any (isSpecial l) = true) :
    write l cs = '"' :: (doubled cs ++ ['"']) := by
  simp [write, h, hq]

theorem write_of_not_special (h : cs.any (isSpecial l) = false) : write l cs = cs := by
  simp [write, h]

theorem not_special (h : cs.any (isSpecial l) = false) {c : Char} (hc : c ∈ cs) :
    c ≠ l.delimiter ∧ c ≠ '"' ∧ Codec.isLineEnd c = false := by
  have hs : isSpecial l c = false := by simpa using List.any_eq_false.1 h c hc
  simp only [isSpecial, Bool.or_eq_false_iff, beq_eq_false_iff_ne] at hs
  obtain ⟨⟨⟨hd, hq⟩, hn⟩, hr⟩ := hs
  exact ⟨hd, hq, by simp [Codec.isLineEnd, hn, hr]⟩

/-- **A text that the layout keeps**: its written form is read as the text, and ends where the text ended. -/
def Layout.Keeps (l : Layout) (cs : List Char) : Prop :=
  ∀ tail, l.Closes tail → field l (write l cs ++ tail) = Taken.closed cs tail

theorem keeps_quoted (hq : l.delimiter ≠ '"') (hquoting : l.quoting = true) (he : ∀ c ∈ cs, l.escape ≠ some c)
    (hs : cs.any (isSpecial l) = true) : l.Keeps cs := by
  intro tail ht
  have hline : write l cs ++ tail = '"' :: (doubled cs ++ '"' :: tail) := by
    rw [write_of_special hquoting hs, List.cons_append, List.append_assoc, List.singleton_append]
  rw [hline, field, if_pos hquoting, quoted_doubled hq ht cs he]

theorem keeps_bare (hq : l.delimiter ≠ '"') (he : ∀ c ∈ cs, l.escape ≠ some c) (hs : cs.any (isSpecial l) = false) :
    l.Keeps cs := by
  intro tail ht
  have hhead : ∀ c ∈ (cs ++ tail).head?, c ≠ '"' := by
    intro c hc
    cases cs with
    | nil => exact ht c hc ▸ hq
    | cons d ds =>
      obtain rfl : d = c := by simpa using hc
      exact (not_special hs List.mem_cons_self).2.1
  rw [write_of_not_special hs, field_eq_plain hhead, plain_append ht cs fun c hc => ⟨(not_special hs hc).1, he c hc⟩]

/-- **A layout that quotes and does not escape keeps every text.** -/
theorem Layout.Faithful.keeps (hl : l.Faithful) (cs : List Char) : l.Keeps cs := by
  have he : ∀ c ∈ cs, l.escape ≠ some c := by simp [hl.escape]
  cases hs : cs.any (isSpecial l) with
  | true => exact keeps_quoted hl.notQuote hl.quoting he hs
  | false => exact keeps_bare hl.notQuote he hs

/-! ## Ends of lines -/

theorem write_nil (l : Layout) : write l [] = [] := rfl

/-- **A written field that is not empty ends with no delimiter and no line end.** -/
theorem write_eq_append (hl : l.Faithful) (hcs : cs ≠ []) :
    ∃ before c, write l cs = before ++ [c] ∧ c ≠ l.delimiter ∧ Codec.isLineEnd c = false := by
  cases hs : cs.any (isSpecial l) with
  | true => exact ⟨'"' :: doubled cs, '"', write_of_special hl.quoting hs, hl.notQuote.symm, by decide⟩
  | false =>
    obtain ⟨hd, -, he⟩ := not_special hs (List.getLast_mem hcs)
    refine ⟨cs.dropLast, cs.getLast hcs, ?_, hd, he⟩
    rw [write_of_not_special hs, List.dropLast_concat_getLast hcs]

theorem endsOpen_append (hl : l.Faithful) (before : List Char) (c : Char) :
    endsOpen l (before ++ [c]) = (c == l.delimiter) := by
  simp [endsOpen, hl.escape]

/-- The line of some texts. -/
def lineOf (l : Layout) (texts : List (List Char)) : List Char := Text.join [l.delimiter] (texts.map (write l))

theorem lineOf_singleton (t : List Char) : lineOf l [t] = write l t := rfl

theorem lineOf_cons_cons (t u : List Char) (us : List (List Char)) :
    lineOf l (t :: u :: us) = write l t ++ l.delimiter :: lineOf l (u :: us) := by
  simp [lineOf, Text.join]

/-- **A line ends with a delimiter just when the last text is empty**, and never with a line end. -/
theorem lineOf_eq_append (hl : l.Faithful) :
    ∀ texts : List (List Char), texts ≠ [] → texts ≠ [[]] →
      ∃ before c, lineOf l texts = before ++ [c] ∧ (c = l.delimiter ↔ texts.getLast? = some []) ∧
        Codec.isLineEnd c = false
  | [], h, _ => absurd rfl h
  | [t], _, h => by
    have ht : t ≠ [] := fun e => h (by rw [e])
    obtain ⟨before, c, hw, hd, he⟩ := write_eq_append hl ht
    refine ⟨before, c, hw, ?_, he⟩
    simp [hd, ht]
  | t :: u :: us, _, _ => by
    rw [lineOf_cons_cons, List.getLast?_cons_cons]
    by_cases hu : u :: us = [[]]
    · refine ⟨write l t, l.delimiter, ?_, ?_, hl.notLineEnd⟩
      · rw [hu, lineOf_singleton, write_nil]
      · simp [hu]
    · obtain ⟨before, c, hw, hd, he⟩ := lineOf_eq_append hl (u :: us) (List.cons_ne_nil u us) hu
      exact ⟨write l t ++ l.delimiter :: before, c, by rw [hw, List.append_assoc, List.cons_append], hd, he⟩

/-! ## Lines -/

theorem write_ne_nil (hcs : cs ≠ []) : write l cs ≠ [] := by
  have hesc : ∀ e, escaped l e cs ≠ [] := by
    intro e
    cases cs with
    | nil => exact absurd rfl hcs
    | cons c cs =>
      rw [escaped, List.flatMap_cons]
      split <;> simp
  unfold write
  split
  · exact hcs
  · split
    · exact List.cons_ne_nil _ _
    · split
      · exact hesc _
      · exact hcs

theorem lineOf_ne_nil : ∀ {texts : List (List Char)}, texts ≠ [] → texts ≠ [[]] → lineOf l texts ≠ []
  | [], h, _ => absurd rfl h
  | [t], _, h => write_ne_nil fun e => h (by rw [e])
  | t :: u :: us, _, _ => by
    rw [lineOf_cons_cons]
    exact List.append_ne_nil_of_right_ne_nil _ (List.cons_ne_nil _ _)

theorem fieldsFrom_lineOf {line : List Char} :
    ∀ texts : List (List Char), texts ≠ [] → texts ≠ [[]] → (∀ t ∈ texts, l.Keeps t) →
      (endsOpen l line = true ↔ texts.getLast? = some []) → fieldsFrom l line (lineOf l texts) = texts
  | [], h, _, _, _ => absurd rfl h
  | [t], _, h, hk, hopen => by
    have ht : t ≠ [] := fun e => h (by rw [e])
    have hclosed : endsOpen l line ≠ true := fun e => ht (by simpa using hopen.1 e)
    have hf : field l (write l t) = Taken.closed t [] := by
      have hf := hk t List.mem_cons_self [] l.closes_nil
      rwa [List.append_nil] at hf
    rw [lineOf_singleton, fieldsFrom, hf]
    simp [Taken.closed, hclosed]
  | t :: u :: us, _, _, hk, hopen => by
    have hf := hk t List.mem_cons_self _ (l.closes_delimiter (lineOf l (u :: us)))
    rw [List.getLast?_cons_cons] at hopen
    rw [lineOf_cons_cons, fieldsFrom, hf]
    by_cases hu : u :: us = [[]]
    · have ho : endsOpen l line = true := hopen.2 (by rw [hu]; rfl)
      rw [hu, lineOf_singleton, write_nil]
      simp [Taken.closed, ho]
    · have hrest : (Taken.closed t (l.delimiter :: lineOf l (u :: us))).rest = lineOf l (u :: us) := rfl
      have hne : lineOf l (u :: us) ≠ [] := lineOf_ne_nil (List.cons_ne_nil u us) hu
      rw [hrest, if_neg hne, fieldsFrom_lineOf (u :: us) (List.cons_ne_nil u us) hu
        (fun v hv => hk v (List.mem_cons_of_mem _ hv)) hopen]
      rfl

/-- **The fields of a line are the texts it was written from.** -/
theorem fields_lineOf (hl : l.Faithful) {texts : List (List Char)} (hne : texts ≠ []) (hne' : texts ≠ [[]]) :
    fields l (lineOf l texts) = texts := by
  refine fieldsFrom_lineOf texts hne hne' (fun t _ => hl.keeps t) ?_
  obtain ⟨before, c, hw, hd, -⟩ := lineOf_eq_append hl texts hne hne'
  rw [hw, endsOpen_append hl, beq_iff_eq, hd]

/-! ## Records -/

theorem cell_eq_write (l : Layout) (v : Value) : cell l v = write l v.render.toList := by
  cases v <;> rfl

theorem encode_toList (l : Layout) {sink : List Field} {row : NamedRow} {texts : List String}
    (hw : (row.written sink).map (fun p => p.2.render) = texts) :
    (encode l sink row).toList = lineOf l (texts.map String.toList) := by
  rw [encode, String.toList_ofList, lineOf, ← hw, List.map_map, List.map_map]
  exact congrArg _ (List.map_congr_left fun p _ => cell_eq_write l p.2)

/-- **What was written as a record is read as the texts that were written**, a cell for each; nothing is written as the
empty text. -/
theorem decode_encode_texts (hl : l.Faithful) {sink source : List Field} {row : NamedRow} {texts : List String}
    (hw : (row.written sink).map (fun p => p.2.render) = texts) (hne : texts ≠ []) (hne' : texts ≠ [""])
    (hlen : source.length = texts.length) :
    decode l source (Text.encode (encode l sink row)) = .ok (.single (texts.map Value.text)) := by
  have hne1 : texts.map String.toList ≠ [] := by simpa using hne
  have hne2 : texts.map String.toList ≠ [[]] := by
    intro h
    obtain ⟨t, rfl⟩ := List.length_eq_one_iff.1 ((List.length_map String.toList).symm.trans (congrArg List.length h))
    exact hne' (by simpa using h)
  obtain ⟨before, c, hline, -, hend⟩ := lineOf_eq_append hl _ hne1 hne2
  have hcells : (texts.map String.toList).map (fun cs => Value.text (String.ofList cs)) = texts.map Value.text := by
    simp
  unfold decode Codec.textOf
  rw [Text.decode_encode, encode_toList l hw]
  dsimp only [bind, Except.bind]
  rw [hline, trimLineEnds_append hend, if_neg (by simp), ← hline, fields_lineOf hl hne1 hne2, hcells,
    List.take_of_length_le (by simp [hlen])]
  rfl

/-- Texts with a delimiter, with quotes and a line end, and nothing. -/
def oddRow : NamedRow := [("a", .text "x,y"), ("b", .text "say \"hi\"\r\n"), ("c", .null)]

example : encode ⟨',', true, none⟩ [] oddRow = "\"x,y\",\"say \"\"hi\"\"\r\n\"," := by rfl

theorem decode_encode_texts_oddRow :
    (⟨',', true, none⟩ : Layout).Faithful ∧
    (oddRow.written []).map (fun p => p.2.render) = ["x,y", "say \"hi\"\r\n", ""] ∧
    decode ⟨',', true, none⟩ [⟨"a", .text, none⟩, ⟨"b", .text, none⟩, ⟨"c", .text, none⟩]
        (Text.encode (encode ⟨',', true, none⟩ [] oddRow))
      = .ok (.single [.text "x,y", .text "say \"hi\"\r\n", .text ""]) := by
  have hl : (⟨',', true, none⟩ : Layout).Faithful := ⟨rfl, rfl, by decide, by decide⟩
  have hw : (oddRow.written []).map (fun p => p.2.render) = ["x,y", "say \"hi\"\r\n", ""] := rfl
  exact ⟨hl, hw, decode_encode_texts hl hw (by simp) (by simp) rfl⟩

end Csv
end RowSql
