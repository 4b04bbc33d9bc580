import Mathlib.Logic.Basic
import Mathlib.Tactic.ByContra
import RowSql.Function.Times
/-!
# Letters — what a pattern of letters spells

`Letters.Spells` says which fields and characters a pattern spells, clause by clause and without mention of the
text of a layout.  That text is read back as these items: behind a percent sign stands a whole field or a second
percent sign, so that no character becomes part of a field (`layout?_field`, `layout?_literals`).  Every pattern
spells something, and so every pattern names a layout (`layout?_toLayout_iff`).
-/
namespace RowSql
namespace Calendar

/-- The item of a character that stands for itself. -/
def Item.ofChar (c : Char) : Item := if Text.isSpace c then .blank c else .literal c

/-! ## Reading the text of a layout -/

theorem length_lt_of_readSlot? {cs rest : List Char} {s : Slot} (h : readSlot? cs = some (s, rest)) :
    rest.length < cs.length := by
  unfold readSlot? at h
  split at h <;> cases h <;> simp only [List.length_cons] <;> omega

/-- With fuel for all characters, more of it changes nothing. -/
theorem readItems?_of_le : ∀ {fuel fuel' : Nat} {cs : List Char}, cs.length ≤ fuel → cs.length ≤ fuel' →
    readItems? fuel cs = readItems? fuel' cs
  | _, _, [], _, _ => by rw [readItems?, readItems?]
  | 0, _, _ :: _, h, _ => absurd h (Nat.not_succ_le_zero _)
  | _ + 1, 0, _ :: _, _, h => absurd h (Nat.not_succ_le_zero _)
  | fuel + 1, fuel' + 1, c :: cs, h, h' => by
    rw [List.length_cons] at h h'
    have ih {rest : List Char} (hrest : rest.length ≤ cs.length) : readItems? fuel rest = readItems? fuel' rest :=
      readItems?_of_le (by omega) (by omega)
    unfold readItems?
    split
    · split
      · exact congrArg _ (ih (Nat.le_succ _))
      · split
        · rename_i hslot
          exact congrArg _ (ih (Nat.le_of_lt (length_lt_of_readSlot? hslot)))
        · rfl
    · exact congrArg _ (ih (Nat.le_refl _))

theorem readItems?_eq_layout? {fuel : Nat} {cs : List Char} (h : cs.length ≤ fuel) : readItems? fuel cs = layout? cs :=
  readItems?_of_le h (Nat.le_refl _)

theorem layout?_percent (cs : List Char) : layout? ('%' :: '%' :: cs) = (layout? cs).map (.literal '%' :: ·) := by
  have hrest : readItems? ('%' :: cs).length cs = layout? cs := readItems?_eq_layout? (Nat.le_succ _)
  rw [← hrest]
  rfl

theorem layout?_of_readSlot? {cs rest : List Char} {s : Slot} (h : readSlot? cs = some (s, rest)) :
    layout? ('%' :: cs) = (layout? rest).map (.slot s :: ·) := by
  have hrest : readItems? cs.length rest = layout? rest :=
    readItems?_eq_layout? (Nat.le_of_lt (length_lt_of_readSlot? h))
  have hpercent : ('%' == '%') = true := rfl
  rw [layout?, List.length_cons]
  unfold readItems?
  rw [if_pos hpercent]
  split
  · cases h
  · rw [h]
    dsimp only
    rw [hrest]

theorem layout?_cons {c : Char} (hc : c ≠ '%') (cs : List Char) :
    layout? (c :: cs) = (layout? cs).map (Item.ofChar c :: ·) := by
  have hpercent : ¬ (c == '%') = true := fun h => hc (beq_iff_eq.1 h)
  rw [layout?, List.length_cons]
  unfold readItems?
  rw [if_neg hpercent]
  rfl

namespace Letters

theorem layout?_literal (c : Char) (cs : List Char) :
    layout? (literal c ++ cs) = (layout? cs).map (Item.ofChar c :: ·) := by
  unfold literal
  split
  · rename_i hc
    obtain rfl : c = '%' := beq_iff_eq.1 hc
    exact layout?_percent cs
  · rename_i hc
    exact layout?_cons (fun h => hc (beq_iff_eq.2 h)) cs

/-- Characters that stand for themselves are read as such, whatever stands behind them. -/
theorem layout?_literals (cs : List Char) : ∀ text : List Char,
    layout? (text.flatMap literal ++ cs) = (layout? cs).map (text.map Item.ofChar ++ ·)
  | [] => Option.map_id'.symm
  | c :: text => by
    rw [List.flatMap_cons, List.append_assoc, layout?_literal, layout?_literals cs text, Option.map_map]
    rfl

theorem fractionDigits_of_slot? {c : Char} {n count : Nat} (h : slot? c n = some (.fractionDigits count)) :
    count = 3 ∨ count = 6 := by
  by_cases hc : c = 'S'
  · subst hc
    injection h with h
    injection h with h
    split at h <;> omega
  · simp [slot?, ite_eq_iff, hc] at h

theorem readSlot?_text {s : Slot} (h : ∀ count, s = .fractionDigits count → count = 3 ∨ count = 6) (cs : List Char) :
    readSlot? (s.text ++ cs) = some (s, cs) := by
  cases s with
  | fractionDigits count => rcases h count rfl with rfl | rfl <;> rfl
  | month padded | day padded | hour padded | hour12 padded | minute padded | second padded => cases padded <;> rfl
  | monthName long | weekdayName long => cases long <;> rfl
  | offset colon => cases colon <;> rfl
  | _ => rfl

/-- A field that letters name is read as that field, whatever stands behind it. -/
theorem layout?_field {c : Char} {n : Nat} {s : Slot} (h : slot? c n = some s) (cs : List Char) :
    layout? ('%' :: s.text ++ cs) = (layout? cs).map (.slot s :: ·) :=
  layout?_of_readSlot? (readSlot?_text (fun _ hs => fractionDigits_of_slot? (hs ▸ h)) cs)

/-! ## What is spelled -/

/-- A quoted text with every apostrophe twice. -/
def doubled (text : List Char) : List Char := text.flatMap fun c => if c = '\'' then ['\'', '\''] else [c]

/-- **The pattern spells the items.**  A run of one letter is the field that it names, or its letters if it
names none.  Two apostrophes are one apostrophe; any other apostrophe begins a quoted text, which ends with the
next apostrophe that is not doubled, or with the pattern. -/
inductive Spells : List Char → List Item → Prop
  | nil : Spells [] []
  | field {c : Char} {n : Nat} {s : Slot} {cs : List Char} {items : List Item} :
      c.isAlpha = true → slot? c (n + 1) = some s → cs.head? ≠ some c → Spells cs items →
      Spells (List.replicate (n + 1) c ++ cs) (.slot s :: items)
  | letters {c : Char} {n : Nat} {cs : List Char} {items : List Item} :
      c.isAlpha = true → slot? c (n + 1) = none → cs.head? ≠ some c → Spells cs items →
      Spells (List.replicate (n + 1) c ++ cs) (List.replicate (n + 1) (Item.ofChar c) ++ items)
  | other {c : Char} {cs : List Char} {items : List Item} :
      c.isAlpha = false → c ≠ '\'' → Spells cs items → Spells (c :: cs) (Item.ofChar c :: items)
  | apostrophe {cs : List Char} {items : List Item} :
      Spells cs items → Spells ('\'' :: '\'' :: cs) (.literal '\'' :: items)
  | quotation {text cs : List Char} {items : List Item} :
      text ≠ [] → text.head? ≠ some '\'' → cs.head? ≠ some '\'' → Spells cs items →
      Spells ('\'' :: (doubled text ++ '\'' :: cs)) (text.map Item.ofChar ++ items)
  | unclosed {text : List Char} :
      text.head? ≠ some '\'' → Spells ('\'' :: doubled text) (text.map Item.ofChar)

theorem doubled_cons_of_ne {c : Char} (hc : c ≠ '\'') (text : List Char) : doubled (c :: text) = c :: doubled text := by
  rw [doubled, List.flatMap_cons, if_neg hc]
  rfl

theorem head?_doubled_append {text : List Char} (h : text ≠ []) (cs : List Char) :
    (doubled text ++ cs).head? = text.head? := by
  obtain ⟨c, text, rfl⟩ := List.exists_cons_of_ne_nil h
  by_cases hc : c = '\''
  · subst hc
    rfl
  · rw [doubled_cons_of_ne hc]
    rfl

/-- What stands behind an apostrophe is a quoted text up to the next apostrophe that is not doubled, or up to
the end. -/
theorem exists_doubled : ∀ cs : List Char,
    (∃ text rest, cs = doubled text ++ '\'' :: rest ∧ rest.head? ≠ some '\'') ∨ ∃ text, cs = doubled text
  | [] => .inr ⟨[], rfl⟩
  | ['\''] => .inl ⟨[], [], rfl, by simp⟩
  | c :: d :: cs => by
    by_cases hc : c = '\''
    · subst hc
      by_cases hd : d = '\''
      · subst hd
        rcases exists_doubled cs with ⟨text, rest, rfl, hrest⟩ | ⟨text, rfl⟩
        · exact .inl ⟨'\'' :: text, rest, rfl, hrest⟩
        · exact .inr ⟨'\'' :: text, rfl⟩
      · exact .inl ⟨[], d :: cs, rfl, by simpa using hd⟩
    · rcases exists_doubled (d :: cs) with ⟨text, rest, hrest, hhead⟩ | ⟨text, htext⟩
      · exact .inl ⟨c :: text, rest, by rw [doubled_cons_of_ne hc, hrest]; rfl, hhead⟩
      · exact .inr ⟨c :: text, by rw [doubled_cons_of_ne hc, htext]⟩
  | [c] => by
    by_cases hc : c = '\''
    · exact .inl ⟨[], [], by rw [hc]; rfl, by simp⟩
    · exact .inr ⟨[c], by rw [doubled_cons_of_ne hc]; rfl⟩

theorem exists_run (c : Char) (cs : List Char) :
    ∃ n rest, c :: cs = List.replicate (n + 1) c ++ rest ∧ rest.head? ≠ some c := by
  have hrun : cs.takeWhile (· == c) = List.replicate (cs.takeWhile (· == c)).length c :=
    List.eq_replicate_iff.2 ⟨rfl, fun d hd => beq_iff_eq.1 (List.all_eq_true.1 List.all_takeWhile d hd)⟩
  refine ⟨(cs.takeWhile (· == c)).length, cs.dropWhile (· == c), ?_, ?_⟩
  · rw [List.replicate_succ, List.cons_append, ← hrun, List.takeWhile_append_dropWhile]
  · intro hhead
    have hstop := List.head?_dropWhile_not (· == c) cs
    rw [hhead] at hstop
    simp at hstop

theorem exists_spells (cs : List Char) : ∃ items, Spells cs items := by
  induction hlength : cs.length using Nat.strongRecOn generalizing cs with
  | ind size ih =>
    have hrest (rest : List Char) (h : rest.length < size) : ∃ items, Spells rest items := ih _ h rest rfl
    subst hlength
    match cs with
    | [] => exact ⟨[], .nil⟩
    | c :: cs =>
      by_cases hquote : c = '\''
      · subst hquote
        by_cases hdouble : cs.head? = some '\''
        · obtain ⟨cs, rfl⟩ : ∃ rest, cs = '\'' :: rest := List.head?_eq_some_iff.1 hdouble
          obtain ⟨items, hitems⟩ := hrest cs (Nat.lt_succ_of_lt (Nat.lt_succ_self _))
          exact ⟨_, .apostrophe hitems⟩
        rcases exists_doubled cs with ⟨text, rest, rfl, hclosed⟩ | ⟨text, rfl⟩
        · have htext : text ≠ [] := by
            rintro rfl
            exact hdouble rfl
          rw [head?_doubled_append htext] at hdouble
          obtain ⟨items, hitems⟩ := hrest rest (by simp; omega)
          exact ⟨_, .quotation htext hdouble hclosed hitems⟩
        · refine ⟨_, .unclosed fun hhead => hdouble ?_⟩
          rw [← List.append_nil (doubled text), head?_doubled_append (by rintro rfl; cases hhead), hhead]
      by_cases halpha : c.isAlpha = true
      · obtain ⟨n, rest, hrun, hstop⟩ := exists_run c cs
        rw [hrun] at hrest ⊢
        obtain ⟨items, hitems⟩ := hrest rest (by simp)
        cases hslot : slot? c (n + 1) with
        | some s => exact ⟨_, .field halpha hslot hstop hitems⟩
        | none => exact ⟨_, .letters halpha hslot hstop hitems⟩
      · obtain ⟨items, hitems⟩ := hrest cs (Nat.lt_succ_self _)
        exact ⟨_, .other (Bool.eq_false_iff.2 halpha) hquote hitems⟩

/-! ## The text of the layout -/

theorem quoted_cons_of_ne {c : Char} (hc : c ≠ '\'') (cs : List Char) :
    quoted (c :: cs) = (c :: (quoted cs).1, (quoted cs).2) := by
  have hquote : ¬ (c == '\'') = true := fun h => hc (beq_iff_eq.1 h)
  rw [quoted.eq_3 _ _ fun _ h => absurd h hc, if_neg hquote]

theorem quoted_close {cs : List Char} (h : cs.head? ≠ some '\'') : quoted ('\'' :: cs) = ([], cs) := by
  have hquote : ('\'' == '\'') = true := rfl
  rw [quoted.eq_3 _ _ fun rest _ hrest => h (by rw [hrest]; rfl), if_pos hquote]

theorem quoted_doubled_append (tail : List Char) : ∀ text : List Char,
    quoted (doubled text ++ tail) = (text ++ (quoted tail).1, (quoted tail).2)
  | [] => rfl
  | c :: text => by
    have ih := quoted_doubled_append tail text
    by_cases hc : c = '\''
    · subst hc
      change quoted ('\'' :: '\'' :: (doubled text ++ tail)) = _
      rw [quoted, ih]
      rfl
    · rw [doubled_cons_of_ne hc, List.cons_append, quoted_cons_of_ne hc, ih]
      rfl

theorem length_quoted_le (cs : List Char) : (quoted cs).2.length ≤ cs.length := by
  rcases exists_doubled cs with ⟨text, rest, rfl, hrest⟩ | ⟨text, rfl⟩
  · rw [quoted_doubled_append, quoted_close hrest, List.length_append, List.length_cons]
    dsimp only
    omega
  · have hall := quoted_doubled_append [] text
    rw [List.append_nil] at hall
    rw [hall]
    exact Nat.zero_le _

/-- With fuel for all characters, more of it changes nothing. -/
theorem translate_of_le : ∀ {fuel fuel' : Nat} {cs : List Char}, cs.length ≤ fuel → cs.length ≤ fuel' →
    translate fuel cs = translate fuel' cs
  | 0, 0, [], _, _ => rfl
  | 0, _ + 1, [], _, _ => rfl
  | _ + 1, 0, [], _, _ => rfl
  | _ + 1, _ + 1, [], _, _ => rfl
  | 0, _, _ :: _, h, _ => absurd h (Nat.not_succ_le_zero _)
  | _ + 1, 0, _ :: _, _, h => absurd h (Nat.not_succ_le_zero _)
  | fuel + 1, fuel' + 1, c :: cs, h, h' => by
    rw [List.length_cons] at h h'
    have ih {rest : List Char} (hrest : rest.length ≤ cs.length) : translate fuel rest = translate fuel' rest :=
      translate_of_le (by omega) (by omega)
    have hdrop : (cs.dropWhile (· == c)).length ≤ cs.length := (List.dropWhile_suffix _).length_le
    unfold translate
    split
    · split
      · rw [ih (Nat.le_succ _)]
      · rw [ih (length_quoted_le cs)]
    · split
      · dsimp only
        rw [ih hdrop]
      · rw [ih (Nat.le_refl _)]

theorem translate_eq_toLayout {fuel : Nat} {cs : List Char} (h : cs.length ≤ fuel) : translate fuel cs = toLayout cs :=
  translate_of_le h (Nat.le_refl _)

theorem toLayout_apostrophe (cs : List Char) : toLayout ('\'' :: '\'' :: cs) = '\'' :: toLayout cs := by
  rw [← translate_eq_toLayout (Nat.le_succ cs.length)]
  rfl

theorem toLayout_quote {cs : List Char} (h : cs.head? ≠ some '\'') :
    toLayout ('\'' :: cs) = (quoted cs).1.flatMap literal ++ toLayout (quoted cs).2 := by
  have hquote : ('\'' == '\'') = true := rfl
  rw [← translate_eq_toLayout (length_quoted_le cs)]
  change translate (cs.length + 1) ('\'' :: cs) = _
  rw [translate.eq_def]
  dsimp only
  rw [if_pos hquote]
  split
  · exact absurd rfl h
  · rfl

theorem ne_quote_of_isAlpha {c : Char} (h : c.isAlpha = true) : c ≠ '\'' := by
  rintro rfl
  cases h

theorem takeWhile_run {c : Char} {cs : List Char} (hstop : cs.head? ≠ some c) (n : Nat) :
    (List.replicate n c ++ cs).takeWhile (· == c) = List.replicate n c ∧
      (List.replicate n c ++ cs).dropWhile (· == c) = cs := by
  have hrun : ∀ d ∈ List.replicate n c, (d == c) = true := fun d hd => beq_iff_eq.2 (List.eq_of_mem_replicate hd)
  have hnone : cs.takeWhile (· == c) = [] ∧ cs.dropWhile (· == c) = cs := by
    cases cs with
    | nil => exact ⟨rfl, rfl⟩
    | cons d cs =>
      have hd : ¬ (d == c) = true := fun h => hstop (congrArg some (beq_iff_eq.1 h))
      exact ⟨List.takeWhile_cons_of_neg hd, List.dropWhile_cons_of_neg hd⟩
  rw [List.takeWhile_append_of_pos hrun, List.dropWhile_append_of_pos hrun, hnone.1, hnone.2, List.append_nil]
  exact ⟨rfl, rfl⟩

theorem toLayout_run {c : Char} (halpha : c.isAlpha = true) (n : Nat) {cs : List Char} (hstop : cs.head? ≠ some c) :
    toLayout (List.replicate (n + 1) c ++ cs) =
      (slot? c (n + 1)).elim ((List.replicate (n + 1) c).flatMap literal) (fun s => '%' :: s.text) ++ toLayout cs := by
  have hquote : ¬ (c == '\'') = true := fun h => ne_quote_of_isAlpha halpha (beq_iff_eq.1 h)
  have hlength : cs.length ≤ (List.replicate n c ++ cs).length := by simp
  obtain ⟨hrun, hrest⟩ := takeWhile_run hstop n
  rw [← translate_eq_toLayout hlength]
  change translate ((List.replicate n c ++ cs).length + 1) (c :: (List.replicate n c ++ cs)) = _
  rw [translate.eq_def]
  dsimp only
  rw [if_neg hquote, if_pos halpha, hrun, hrest, List.length_replicate]
  cases slot? c (n + 1) <;> rfl

theorem toLayout_other {c : Char} (halpha : c.isAlpha = false) (hquote : c ≠ '\'') (cs : List Char) :
    toLayout (c :: cs) = literal c ++ toLayout cs := by
  have hquote' : ¬ (c == '\'') = true := fun h => hquote (beq_iff_eq.1 h)
  change translate (cs.length + 1) (c :: cs) = _
  rw [translate.eq_def]
  dsimp only
  rw [if_neg hquote', if_neg (Bool.eq_false_iff.1 halpha)]
  rfl

/-- **The text of the layout is read as what the pattern spells.** -/
theorem Spells.layout? {cs : List Char} {items : List Item} (h : Spells cs items) :
    Calendar.layout? (toLayout cs) = some items := by
  induction h with
  | nil => rfl
  | field halpha hslot hstop _ ih =>
    rw [toLayout_run halpha _ hstop, hslot, Option.elim_some, layout?_field hslot, ih]
    rfl
  | letters halpha hslot hstop _ ih =>
    rw [toLayout_run halpha _ hstop, hslot, Option.elim_none, layout?_literals, ih, List.map_replicate]
    rfl
  | other halpha hquote _ ih =>
    rw [toLayout_other halpha hquote, layout?_literal, ih]
    rfl
  | apostrophe _ ih =>
    rw [toLayout_apostrophe, layout?_cons (by decide), ih]
    rfl
  | @quotation text cs items htext hfirst hclosed _ ih =>
    have hhead : (doubled text ++ '\'' :: cs).head? ≠ some '\'' := by rwa [head?_doubled_append htext]
    rw [toLayout_quote hhead, quoted_doubled_append, quoted_close hclosed, List.append_nil, layout?_literals, ih]
    rfl
  | @unclosed text hfirst =>
    have hhead : (doubled text ++ []).head? ≠ some '\'' := by
      cases text with
      | nil => exact hfirst
      | cons c text => rwa [head?_doubled_append (List.cons_ne_nil c text)]
    rw [← List.append_nil (doubled text), toLayout_quote hhead, quoted_doubled_append, layout?_literals]
    simp [quoted, toLayout, translate, Calendar.layout?, readItems?]

/-- **The text of the layout of a pattern is read as exactly what the pattern spells**, and every pattern spells
something: every text is a pattern that has a layout. -/
theorem layout?_toLayout_iff (cs : List Char) :
    (∃ items, Spells cs items) ∧ (∀ items, Calendar.layout? (toLayout cs) = some items ↔ Spells cs items) ∧
    ∀ v : Value, TimeFunction.layoutOf? (some v) = none ↔ v = .null := by
  have htotal (cs : List Char) : ∃ items, Spells cs items ∧ Calendar.layout? (toLayout cs) = some items :=
    (exists_spells cs).imp fun _ h => ⟨h, h.layout?⟩
  refine ⟨exists_spells cs, fun items => ⟨fun h => ?_, Spells.layout?⟩, fun v => ⟨fun h => ?_, ?_⟩⟩
  · obtain ⟨items', hspells, hread⟩ := htotal cs
    rw [h] at hread
    cases hread
    exact hspells
  · by_contra hv
    have hpresent : v.isNull = false := Bool.eq_false_iff.2 (mt Value.eq_null_of_isNull hv)
    obtain ⟨items, -, hread⟩ := htotal v.render.toList
    rw [TimeFunction.layoutOf?, Value.toText?, hpresent, if_neg Bool.false_ne_true, Option.bind_some, hread] at h
    cases h
  · rintro rfl
    rfl

/-- Every letter that names a field, in the lengths that tell fields apart, then a letter that names none, quoted text,
a doubled quote and a percent sign. -/
example : Calendar.layout? (toLayout
      "y uu M MM MMM MMMM d dd D H HH h hh m mm s ss SSS SSSS a EEE EEEE Z X q 'o''clock' %".toList) =
    some (([.year, .yearOfCentury, .month false, .month true, .monthName false, .monthName true, .day false,
        .day true, .ordinal, .hour false, .hour true, .hour12 false, .hour12 true, .minute false, .minute true,
        .second false, .second true, .fractionDigits 3, .fractionDigits 6, .halfDay, .weekdayName false,
        .weekdayName true, .offset false, .offset true].flatMap fun s => [.slot s, .blank ' ']) ++
      [.literal 'q', .blank ' '] ++ "o'clock".toList.map .literal ++ [.blank ' ', .literal '%']) := by
  decide +kernel

end Letters
end Calendar
end RowSql
