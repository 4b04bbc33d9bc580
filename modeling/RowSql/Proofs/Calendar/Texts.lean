import RowSql.Calendar.Reader
import RowSql.Proofs.Calendar.Days
import RowSql.Proofs.Number.DecimalText
/-!
# Texts — dates and moments that are written are read

The text of a date is read by none of the layouts of moments, and by the first layout of dates as that date at
midnight (`ofText?_dateText`); the text of a moment of whole seconds is read by the first layout of moments as
that moment (`ofText?_momentText`).  A year may have a sign and more than four digits, and is read up to the
mark behind it.  Whatever a text is read as has a date of the calendar, with its year in range
(`listed_of_ofText?`).
-/
namespace RowSql
namespace Calendar

/-! ## Padded numbers -/

theorem isDigit_padDigits (width n : Nat) : ∀ c ∈ padDigits width n, c.isDigit = true := by
  intro c hc
  rcases List.mem_append.1 hc with hc | hc
  · rw [List.eq_of_mem_replicate hc]
    rfl
  · exact Nat.isDigit_of_mem_toDigits (by decide) (by decide) hc

theorem ofDigitChars_padDigits (width n : Nat) : Nat.ofDigitChars 10 (padDigits width n) 0 = n := by
  rw [padDigits, Nat.ofDigitChars_append, Nat.ofDigitChars_replicate_zero]
  exact Nat.ofDigitChars_ten_toDigits

theorem length_padDigits {width n : Nat} (hwidth : 0 < width) (h : n < 10 ^ width) :
    (padDigits width n).length = width := by
  have hcount : (Nat.toDigits 10 n).length ≤ width := (Nat.length_toDigits_le_iff (by decide) hwidth).2 h
  rw [padDigits, List.length_append, List.length_replicate]
  omega

theorem padDigits_ne_nil (width n : Nat) : padDigits width n ≠ [] :=
  List.append_ne_nil_of_right_ne_nil _ Nat.toDigits_ne_nil

/-- **Digits are read as a number** up to the greatest count, or up to a character that is none. -/
theorem readNumber?_append {least most : Nat} {ds rest : List Char} (hdigit : ∀ c ∈ ds, c.isDigit = true)
    (hleast : least ≤ ds.length) (hmost : ds.length ≤ most)
    (hstop : ds.length = most ∨ ∀ c ∈ rest.head?, c.isDigit = false)
    (hvalue : Nat.ofDigitChars 10 ds 0 ≤ 9223372036854775807) :
    readNumber? least most (ds ++ rest) = some (((Nat.ofDigitChars 10 ds 0 : Nat) : Int), rest) := by
  have hnone : (rest.take (most - ds.length)).takeWhile Char.isDigit = [] := by
    rcases hstop with hfull | hstop
    · rw [hfull, Nat.sub_self, List.take_zero]
      rfl
    · cases rest with
      | nil => rw [List.take_nil]; rfl
      | cons c rest =>
        have hc : ¬ c.isDigit = true := by rw [hstop c rfl]; exact Bool.false_ne_true
        cases most - ds.length with
        | zero => rfl
        | succ k => exact List.takeWhile_cons_of_neg hc
  have hdigits : ((ds ++ rest).take most).takeWhile Char.isDigit = ds := by
    rw [List.take_append, List.take_of_length_le hmost, List.takeWhile_append_of_pos hdigit, hnone, List.append_nil]
  have hfold : ds.foldl (fun n c => n * 10 + (c.toNat - 48)) 0 = Nat.ofDigitChars 10 ds 0 := by
    unfold Nat.ofDigitChars
    congr 1
    funext n c
    rw [Nat.mul_comm]
    rfl
  unfold readNumber?
  dsimp only
  rw [hdigits, if_neg (Nat.not_lt.2 hleast), hfold, if_pos hvalue, List.drop_left]

theorem readNumber?_padDigits {width n : Nat} (least : Nat) (hleast : least ≤ width)
    (hwidth : 0 < width ∧ width ≤ 18) (h : n < 10 ^ width)
    (rest : List Char) : readNumber? least width (padDigits width n ++ rest) = some ((n : Int), rest) := by
  have hlength := length_padDigits hwidth.1 h
  have hpow : 10 ^ width ≤ 10 ^ 18 := Nat.pow_le_pow_right (by decide) hwidth.2
  have hvalue := ofDigitChars_padDigits width n
  rw [readNumber?_append (isDigit_padDigits width n) (by omega) (by omega) (.inl hlength) (by omega), hvalue]

theorem trimLeft_of_isDigit {c : Char} (hc : c.isDigit = true) (cs : List Char) : Text.trimLeft (c :: cs) = c :: cs :=
  List.dropWhile_cons_of_neg (by rw [Text.not_isSpace_of_isDigit hc]; exact Bool.false_ne_true)

theorem exists_padDigits (width n : Nat) : ∃ d ds, padDigits width n = d :: ds ∧ d.isDigit = true := by
  obtain ⟨d, ds, hds⟩ := List.exists_cons_of_ne_nil (padDigits_ne_nil width n)
  exact ⟨d, ds, hds, isDigit_padDigits width n d (by rw [hds]; exact List.mem_cons_self)⟩

theorem readInto_padDigits (set : Int → Option Fields) (width : Nat) {n : Nat} (hwidth : 0 < width ∧ width ≤ 18)
    (h : n < 10 ^ width)
    (rest : List Char) : readInto set width (padDigits width n ++ rest) = (set n).map (·, rest) := by
  have hread := readNumber?_padDigits 1 hwidth.1 hwidth h rest
  obtain ⟨d, ds, hds, hd⟩ := exists_padDigits width n
  rw [hds, List.cons_append] at hread ⊢
  rw [readInto, trimLeft_of_isDigit hd, hread]
  cases hset : set n <;> simp [hset]

/-! ## Years -/

theorem readNumber?_all (width : Nat) {n : Nat} (h : n ≤ 2147483647) {rest : List Char}
    (hstop : ∀ c ∈ rest.head?, c.isDigit = false) :
    readNumber? 1 (padDigits width n ++ rest).length (padDigits width n ++ rest) = some ((n : Int), rest) := by
  have hmost : (padDigits width n).length ≤ (padDigits width n ++ rest).length := by simp
  have hread :=
    readNumber?_append (isDigit_padDigits width n) (List.length_pos_iff.2 (padDigits_ne_nil width n)) hmost (.inr hstop)
    (by rw [ofDigitChars_padDigits]; omega)
  rwa [ofDigitChars_padDigits] at hread

theorem readYear?_writeYear {y : Int} (hy : y.natAbs ≤ 2147483647) {rest : List Char}
    (hstop : ∀ c ∈ rest.head?, c.isDigit = false) :
    readYear? (Text.trimLeft (writeYear y ++ rest)) = some (y, rest) := by
  have hsigned := readNumber?_all 4 hy hstop
  unfold writeYear
  split
  · rename_i hfour
    have hread := readNumber?_padDigits 1 (by decide : 1 ≤ 4) (by decide) (n := y.toNat) (by omega) rest
    have hvalue : (y.toNat : Int) = y := Int.toNat_of_nonneg hfour.1
    obtain ⟨d, ds, hds, hd⟩ := exists_padDigits 4 y.toNat
    rw [hds, List.cons_append] at hread ⊢
    rw [trimLeft_of_isDigit hd]
    rw [readYear?.eq_3, hread, hvalue]
    · exact fun cs h => absurd (List.cons.inj h).1 (Decimal.ne_of_isDigit hd rfl)
    · exact fun cs h => absurd (List.cons.inj h).1 (Decimal.ne_of_isDigit hd rfl)
  · rename_i hsign
    by_cases hneg : y < 0
    · have hvalue : -(y.natAbs : Int) = y := by omega
      rw [if_pos hneg]
      change readYear? ('-' :: (padDigits 4 y.natAbs ++ rest)) = _
      rw [readYear?, hsigned, Option.map_some]
      dsimp only
      rw [hvalue]
    · have hvalue : (y.natAbs : Int) = y := by omega
      rw [if_neg hneg]
      change readYear? ('+' :: (padDigits 4 y.natAbs ++ rest)) = _
      rw [readYear?, hsigned, hvalue]

/-! ## Fields -/

/-- The fields of a date. -/
def Date.fields (d : Date) : Fields := { year := some d.year, month := some d.month, day := some d.day }

/-- The fields of a moment of whole seconds. -/
def Moment.fields (t : Moment) : Fields :=
  { t.date.fields with
    halfDay := some (t.hour / 12), hour12 := some (t.hour % 12), minute := some t.minute,
      second := some t.secondOfMinute }

theorem readAll?_cons {item : Item} {items : List Item} {f f' : Fields} {cs rest : List Char}
    (h : item.read? f cs = some (f', rest)) :
    readAll? (item :: items) f cs = readAll? items f' rest := by
  rw [readAll?, h]

theorem readAll?_literal (c : Char) (items : List Item) (f : Fields) (cs : List Char) :
    readAll? (.literal c :: items) f (c :: cs) = readAll? items f cs :=
  readAll?_cons (by simp [Item.read?, expect])

theorem within_eq {low high v : Int} (h : low ≤ v ∧ v ≤ high) : within low high v = some v := if_pos h

theorem lt_daySeconds_cases {t : Moment} (h : t.second < Moment.daySeconds) :
    t.hour ≤ 23 ∧ t.minute ≤ 59 ∧ t.secondOfMinute ≤ 59 := by
  unfold Moment.daySeconds at h
  unfold Moment.hour Moment.minute Moment.secondOfMinute
  omega

theorem readAll?_two {s : Slot} {set : Int → Option Fields} {f f' : Fields} {n : Nat}
    (hslot : ∀ cs, s.read? f cs = readInto set 2 cs)
    (hset : set n = some f') (hn : n < 100) (items : List Item) (cs : List Char) :
    readAll? (.slot s :: items) f (padDigits 2 n ++ cs) = readAll? items f' cs := by
  refine readAll?_cons ?_
  have hread := readInto_padDigits set 2 (by decide) hn cs
  rw [hset] at hread
  exact (hslot _).trans hread

theorem Date.Occurs.day_le {d : Date} (h : d.Occurs) : d.day ≤ 31 := by
  have hlength : monthLength d.year d.month ≤ 31 := by
    unfold monthLength
    split
    · split <;> decide
    · split <;> decide
  exact h.day.2.trans hlength

theorem write_dateLayout (t : Moment) : write dateLayout t =
    writeYear t.date.year ++ ('-' :: (padDigits 2 t.date.month ++ '-' :: padDigits 2 t.date.day)) := by
  simp [write, dateLayout, Item.write, Slot.write, twoDigits]

theorem write_date (d : Date) : write dateLayout (.midnight d) =
    writeYear d.year ++ ('-' :: (padDigits 2 d.month ++ '-' :: padDigits 2 d.day)) := write_dateLayout (.midnight d)

theorem readAll?_year {y : Int} (hy : firstYear ≤ y ∧ y ≤ lastYear) (items : List Item) {mark : Char}
    (hmark : mark.isDigit = false)
    (rest : List Char) : readAll? (.slot .year :: items) {} (writeYear y ++ mark :: rest) =
      readAll? items { year := some y } (mark :: rest) := by
  unfold firstYear lastYear at hy
  have hset : Fields.setYear {} y = some { year := some y } := by
    rw [Fields.setYear, within_eq (by omega)]
    rfl
  refine readAll?_cons ?_
  rw [Item.read?, Slot.read?, readYear?_writeYear (by omega) (by simpa using hmark)]
  simp [hset]

/-- **The text of a date is read as its fields**, whatever stands behind it. -/
theorem readAll?_date {t : Moment} (hdate : t.date.Listed) (items : List Item) (tail : List Char) :
    readAll? (dateLayout ++ items) {} (write dateLayout t ++ tail) = readAll? items t.date.fields tail := by
  have hlast := hdate.1.day_le
  obtain ⟨⟨hmonth, hday⟩, hrange⟩ := hdate
  have hsetMonth : Fields.setMonth { year := some t.date.year } t.date.month =
      some { year := some t.date.year, month := some t.date.month } := by
    rw [Fields.setMonth, within_eq (by omega)]
    rfl
  have hsetDay : Fields.setDay { year := some t.date.year, month := some t.date.month } t.date.day =
      some t.date.fields := by
    rw [Fields.setDay, within_eq (by omega)]
    rfl
  rw [write_dateLayout, List.append_assoc, List.cons_append, List.append_assoc, List.cons_append]
  change readAll? (.slot .year :: .literal '-' :: .slot (.month true) :: .literal '-' ::
    .slot (.day true) :: items) _ _ = _
  rw [readAll?_year hrange _ rfl, readAll?_literal, readAll?_two (fun _ => rfl) hsetMonth (by omega), readAll?_literal,
    readAll?_two (fun _ => rfl) hsetDay (by omega)]

/-- The layout of the time of a moment behind its date. -/
def timeLayout : List Item :=
  [.blank ' ', .slot (.hour true), .literal ':', .slot (.minute true), .literal ':', .slot (.second true)]

theorem write_momentLayout (t : Moment) : write momentLayout t = write dateLayout t ++ write timeLayout t :=
  List.flatMap_append

theorem write_timeLayout {t : Moment} (hnano : t.nanosecond = 0) : write timeLayout t =
    ' ' :: (padDigits 2 t.hour ++ ':' :: (padDigits 2 t.minute ++ ':' :: padDigits 2 t.secondOfMinute)) := by
  simp [write, timeLayout, Item.write, Slot.write, twoDigits, hnano]

/-- **The text of the time of a moment is read as its fields**, behind the fields of its date. -/
theorem readAll?_time {t : Moment} (ht : t.second < Moment.daySeconds) (hnano : t.nanosecond = 0) (items : List Item)
    (tail : List Char) :
    readAll? (timeLayout ++ items) t.date.fields (write timeLayout t ++ tail) = readAll? items t.fields tail := by
  obtain ⟨hhour, hminute, hsecond⟩ := lt_daySeconds_cases ht
  have hsetHour : t.date.fields.setHour t.hour =
      some { t.date.fields with halfDay := some (t.hour / 12), hour12 := some (t.hour % 12) } := by
    rw [Fields.setHour, within_eq (by omega)]
    rfl
  have hsetMinute :
      Fields.setMinute { t.date.fields with
        halfDay := some (t.hour / 12), hour12 := some (t.hour % 12) } t.minute =
      some { t.date.fields with
        halfDay := some (t.hour / 12), hour12 := some (t.hour % 12), minute := some t.minute } := by
    rw [Fields.setMinute, within_eq (by omega)]
    rfl
  have hsetSecond : Fields.setSecond
      { t.date.fields with
        halfDay := some (t.hour / 12), hour12 := some (t.hour % 12), minute := some t.minute } t.secondOfMinute =
      some t.fields := by
    rw [Fields.setSecond, within_eq (by omega)]
    rfl
  obtain ⟨c, cs, hcs, hc⟩ := exists_padDigits 2 t.hour
  have hblank : ∀ rest, (Item.blank ' ').read? t.date.fields (' ' :: (padDigits 2 t.hour ++ rest)) =
      some (t.date.fields, padDigits 2 t.hour ++ rest) := by
    intro rest
    have hspace : Text.trimLeft (' ' :: (padDigits 2 t.hour ++ rest)) =
        Text.trimLeft (padDigits 2 t.hour ++ rest) := rfl
    rw [Item.read?, hspace, hcs, List.cons_append, trimLeft_of_isDigit hc]
  rw [write_timeLayout hnano, List.cons_append, List.append_assoc, List.cons_append, List.append_assoc,
    List.cons_append]
  change readAll? (.blank ' ' :: .slot (.hour true) :: .literal ':' :: .slot (.minute true) :: .literal ':' ::
    .slot (.second true) :: items) _ _ = _
  rw [readAll?_cons (hblank _), readAll?_two (fun _ => rfl) hsetHour (by omega), readAll?_literal,
    readAll?_two (fun _ => rfl) hsetMinute (by omega), readAll?_literal,
    readAll?_two (fun _ => rfl) hsetSecond (by omega)]

/-! ## Dates and moments of fields -/

theorem Date.date?_fields {d : Date} (hd : d.Listed) : d.fields.date? = some d := by
  have hmake : Date.make? d.year d.month d.day = some d := Date.make?_eq_some_iff.2 ⟨rfl, hd⟩
  simp [Fields.date?, Fields.fullYear?, Date.fields, hmake]

theorem Moment.moment?_fields {t : Moment} (hd : t.date.Listed) (ht : t.second < daySeconds)
    (hnano : t.nanosecond = 0) : t.fields.moment? = some t := by
  have hdate : t.fields.date? = some t.date := Date.date?_fields hd
  obtain ⟨hhour, hminute, hsecond⟩ := lt_daySeconds_cases ht
  have hleap : ¬ (t.secondOfMinute : Int) = 60 := by omega
  have hsum : ((t.hour / 12 * 12 + t.hour % 12 : Int) * 3600 + t.minute * 60).toNat + t.secondOfMinute = t.second := by
    unfold Moment.hour Moment.minute Moment.secondOfMinute
    omega
  unfold Fields.moment?
  rw [hdate]
  simp only [Moment.fields, Date.fields, Option.bind_eq_bind, Option.bind_some, Option.isNone_some,
    Bool.false_eq_true, false_and, if_false, Option.getD_some, Option.getD_none, Int.toNat_natCast, hleap, hsum]
  obtain ⟨date, second, nanosecond⟩ := t
  cases hnano
  rfl

/-! ## Layouts -/

def firstLayout : List Item := dateLayout ++ (timeLayout ++ [.slot .fraction])

/-- The other layouts of moments: they go on behind the date with the letter `T` or leave the seconds out, or
divide the date by slashes. -/
def otherLayouts : List (List Item) :=
  [dateLayout ++ [.literal 'T', .slot (.hour true), .literal ':', .slot (.minute true), .literal ':',
      .slot (.second true), .slot .fraction],
    dateLayout ++ [.blank ' ', .slot (.hour true), .literal ':', .slot (.minute true)],
    .slot .year :: .literal '/' :: .slot (.month true) :: .literal '/' :: .slot (.day true) :: timeLayout]

theorem layout?_momentLayouts :
    momentLayouts.map (fun l => layout? l.toList) = some firstLayout :: otherLayouts.map some := by
  decide

theorem layout?_dateLayouts : dateLayouts.map (fun l => layout? l.toList) =
    [some dateLayout, some [.slot .year, .literal '/', .slot (.month true), .literal '/', .slot (.day true)],
      some [.slot .year, .slot (.month true), .slot (.day true)]] := by
  decide

theorem findSome?_momentLayouts (cs : List Char) :
    (momentLayouts.findSome? fun l => (layout? l.toList).bind (readMoment? · cs)) =
      (readMoment? firstLayout cs).or (otherLayouts.findSome? (readMoment? · cs)) := by
  have hlayouts : (momentLayouts.map fun l => layout? l.toList).findSome? (·.bind (readMoment? · cs)) =
      momentLayouts.findSome? fun l => (layout? l.toList).bind (readMoment? · cs) := List.findSome?_map
  have hothers : (otherLayouts.map some).findSome? (·.bind (readMoment? · cs)) =
      otherLayouts.findSome? (readMoment? · cs) :=
    List.findSome?_map
  rw [← hlayouts, layout?_momentLayouts, List.findSome?_cons, Option.bind_some, hothers]
  cases readMoment? firstLayout cs <;> rfl

theorem findSome?_dateLayouts {cs : List Char} {d : Date} (h : readDate? dateLayout cs = some d) :
    (dateLayouts.findSome? fun l => (layout? l.toList).bind (readDate? · cs)) = some d := by
  have hlayouts : (dateLayouts.map fun l => layout? l.toList).findSome? (·.bind (readDate? · cs)) =
      dateLayouts.findSome? fun l => (layout? l.toList).bind (readDate? · cs) := List.findSome?_map
  rw [← hlayouts, layout?_dateLayouts, List.findSome?_cons, Option.bind_some, h]

/-! ## What is written is read -/

theorem trim_of_ends {c d : Char} (hc : Text.isSpace c = false) (hd : Text.isSpace d = false) (cs : List Char) :
    Text.trim (c :: (cs ++ [d])) = c :: (cs ++ [d]) := by
  have hright : Text.trimRight (cs ++ [d]) = cs ++ [d] := by
    rw [Text.trimRight, List.reverse_append, List.reverse_singleton, List.singleton_append,
      List.dropWhile_cons_of_neg (by simp [hd])]
    simp
  rw [Text.trim_cons hc, hright]

theorem exists_writeYear (y : Int) : ∃ c cs, writeYear y = c :: cs ∧ Text.isSpace c = false := by
  unfold writeYear
  split
  · obtain ⟨d, ds, hds, hd⟩ := exists_padDigits 4 y.toNat
    exact ⟨d, ds, hds, Text.not_isSpace_of_isDigit hd⟩
  · refine ⟨_, _, rfl, ?_⟩
    split <;> rfl

theorem exists_padDigits_last (width n : Nat) : ∃ ds d, padDigits width n = ds ++ [d] ∧ Text.isSpace d = false := by
  obtain ⟨ds, d, hds⟩ := (List.eq_nil_or_concat (padDigits width n)).resolve_left (padDigits_ne_nil width n)
  rw [List.concat_eq_append] at hds
  exact ⟨ds, d, hds, Text.not_isSpace_of_isDigit (isDigit_padDigits width n d (by rw [hds]; simp))⟩

/-- A text from a year to a number begins and ends with characters that are no white space. -/
theorem trim_writeYear (y : Int) (cs : List Char) (width n : Nat) :
    Text.trim (writeYear y ++ (cs ++ padDigits width n)) = writeYear y ++ (cs ++ padDigits width n) := by
  obtain ⟨c, ys, hys, hc⟩ := exists_writeYear y
  obtain ⟨ds, d, hds, hd⟩ := exists_padDigits_last width n
  have htrim := trim_of_ends hc hd (ys ++ (cs ++ ds))
  rw [hys, hds]
  simpa using htrim

theorem trim_date (d : Date) : Text.trim (write dateLayout (.midnight d)) = write dateLayout (.midnight d) := by
  have htrim := trim_writeYear d.year ('-' :: (padDigits 2 d.month ++ ['-'])) 2 d.day
  rw [write_date]
  simpa using htrim

theorem trim_moment {t : Moment} (hnano : t.nanosecond = 0) :
    Text.trim (write momentLayout t) = write momentLayout t := by
  have htrim := trim_writeYear t.date.year ('-' :: (padDigits 2 t.date.month ++ '-' :: (padDigits 2 t.date.day ++
    ' ' :: (padDigits 2 t.hour ++ ':' :: (padDigits 2 t.minute ++ [':']))))) 2 t.secondOfMinute
  rw [write_momentLayout, write_dateLayout, write_timeLayout hnano]
  simpa using htrim

/-- The text of a date is no moment in any layout. -/
theorem readMoment?_dateText {d : Date} (hd : d.Listed) :
    readMoment? firstLayout (write dateLayout (.midnight d)) = none ∧
      otherLayouts.findSome? (readMoment? · (write dateLayout (.midnight d))) = none := by
  have hdate (items : List Item) : readAll? (dateLayout ++ items) {} (write dateLayout (.midnight d)) =
      readAll? items d.fields [] := by
    have hread := readAll?_date (t := .midnight d) hd items []
    rwa [List.append_nil] at hread
  have hslash (items : List Item) : readAll? (.slot .year :: .literal '/' :: items) {}
      (write dateLayout (.midnight d)) = none := by
    rw [write_date, readAll?_year hd.2 _ rfl]
    rfl
  -- the layouts with hyphens ask for a time where the text ends, the one with slashes for a slash behind the year
  constructor
  · rw [readMoment?, firstLayout, hdate]
    rfl
  · rw [List.findSome?_eq_none_iff]
    intro layout hlayout
    simp only [otherLayouts, List.mem_cons, List.not_mem_nil, or_false] at hlayout
    rcases hlayout with rfl | rfl | rfl
    · rw [readMoment?, hdate]
      rfl
    · rw [readMoment?, hdate]
      rfl
    · rw [readMoment?, hslash]
      rfl

/-- A year has four digits, or it begins with a sign. -/
theorem readNumber?_writeYear (y : Int) (rest : List Char) :
    readNumber? 4 4 (writeYear y ++ rest) = some (y, rest) ∨ readNumber? 4 4 (writeYear y ++ rest) = none := by
  unfold writeYear
  split
  · rename_i hfour
    have hread := readNumber?_padDigits 4 (Nat.le_refl 4) (by decide) (n := y.toNat) (by omega) rest
    rw [Int.toNat_of_nonneg hfour.1] at hread
    exact .inl hread
  · right
    split <;> rfl

/-- The text of a date has no time behind it. -/
theorem readZoned?_dateText {d : Date} (hd : d.Occurs) : readZoned? (write dateLayout (.midnight d)) = none := by
  have hlast := hd.day_le
  obtain ⟨hmonth, hday⟩ := hd
  have hreadMonth := readNumber?_padDigits 2 (Nat.le_refl 2) (by decide) (n := d.month) (by omega)
    ('-' :: padDigits 2 d.day)
  have hreadDay := readNumber?_padDigits 2 (Nat.le_refl 2) (by decide) (n := d.day) (by omega) []
  rw [List.append_nil] at hreadDay
  rw [write_date]
  refine Option.eq_none_iff_forall_ne_some.2 fun t h => ?_
  obtain ⟨_, hyear, h⟩ := Option.bind_eq_some_iff.1 h
  rcases readNumber?_writeYear d.year ('-' :: (padDigits 2 d.month ++ '-' :: padDigits 2 d.day)) with hread | hread <;>
    cases hread.symm.trans hyear
  obtain ⟨_, hmark, h⟩ := Option.bind_eq_some_iff.1 h
  cases hmark
  obtain ⟨_, hread, h⟩ := Option.bind_eq_some_iff.1 h
  cases hreadMonth.symm.trans hread
  obtain ⟨_, hmark, h⟩ := Option.bind_eq_some_iff.1 h
  cases hmark
  obtain ⟨_, hread, h⟩ := Option.bind_eq_some_iff.1 h
  cases hreadDay.symm.trans hread
  obtain ⟨_, hbetween, -⟩ := Option.bind_eq_some_iff.1 h
  cases hbetween

/-- **The text of a date is read as that date at midnight.** -/
theorem ofText?_dateText {d : Date} (hd : d.Listed) : ofText? d.text = some (.midnight d) := by
  have hdate : readDate? dateLayout (write dateLayout (.midnight d)) = some d := by
    have hread := readAll?_date (t := .midnight d) hd [] []
    rw [List.append_nil, List.append_nil] at hread
    rw [readDate?, hread]
    exact Date.date?_fields hd
  obtain ⟨hfirst, hothers⟩ := readMoment?_dateText hd
  have hchars : d.text.toList = write dateLayout (.midnight d) := String.toList_ofList
  unfold ofText?
  dsimp only
  rw [hchars, trim_date, findSome?_momentLayouts, hfirst, hothers, readZoned?_dateText hd.1,
    findSome?_dateLayouts hdate]
  rfl

/-- **The text of a moment of whole seconds is read as that moment.** -/
theorem ofText?_momentText {t : Moment} (hd : t.date.Listed) (ht : t.second < Moment.daySeconds)
    (hnano : t.nanosecond = 0) : ofText? t.text = some t := by
  have hread : readMoment? firstLayout (write momentLayout t) = some t := by
    have htime := readAll?_time ht hnano [.slot .fraction] []
    rw [List.append_nil] at htime
    rw [readMoment?, firstLayout, write_momentLayout, readAll?_date hd, htime]
    exact Moment.moment?_fields hd ht hnano
  have hchars : t.text.toList = write momentLayout t := String.toList_ofList
  unfold ofText?
  dsimp only
  rw [hchars, trim_moment hnano, findSome?_momentLayouts, hread]
  rfl

/-! ## What is read has a date of the calendar -/

theorem listed_of_date? {f : Fields} {d : Date} (h : f.date? = some d) : d.Listed := by
  obtain ⟨year, -, h⟩ := Option.bind_eq_some_iff.1 h
  dsimp only at h
  split at h <;> obtain ⟨d', hd', h⟩ := Option.bind_eq_some_iff.1 h <;>
    obtain ⟨-, hd⟩ := Option.ite_none_right_eq_some.1 h <;>
    cases hd
  · exact (Date.make?_eq_some_iff.1 hd').2
  · exact Date.listed_of_ofOrdinal? hd'
  · cases hd'

theorem listed_of_moment? {f : Fields} {t : Moment} (h : f.moment? = some t) : t.date.Listed := by
  obtain ⟨d, hd, h⟩ := Option.bind_eq_some_iff.1 h
  obtain ⟨halfDay, -, h⟩ := Option.bind_eq_some_iff.1 h
  obtain ⟨hour12, -, h⟩ := Option.bind_eq_some_iff.1 h
  obtain ⟨minute, -, h⟩ := Option.bind_eq_some_iff.1 h
  obtain ⟨-, ht⟩ := Option.ite_none_left_eq_some.1 h
  cases ht
  exact listed_of_date? hd

theorem Moment.ofSeconds?_eq_some {n : Int} {t : Moment} (h : ofSeconds? n = some t) :
    t.date.Listed ∧ t.second < daySeconds ∧ t.nanosecond = 0 ∧ t.toSeconds = n := by
  obtain ⟨d, hd, rfl⟩ := Option.map_eq_some_iff.1 h
  obtain ⟨hlisted, hdays⟩ := Date.ofDays?_eq_some_iff.1 hd
  have hsum : d.toDays * daySeconds + (n % daySeconds).toNat = n := by
    rw [hdays]
    unfold daySeconds
    omega
  have hsecond : (n % daySeconds).toNat < daySeconds := by
    unfold daySeconds
    omega
  exact ⟨hlisted, hsecond, rfl, hsum⟩

theorem listed_of_sub? {t u : Moment} {seconds : Int} (h : t.sub? seconds = some u) : u.date.Listed := by
  obtain ⟨u', hu', rfl⟩ := Option.map_eq_some_iff.1 h
  exact (Moment.ofSeconds?_eq_some hu').1

theorem listed_of_readZoned? {cs : List Char} {t : Moment} (h : readZoned? cs = some t) : t.date.Listed := by
  -- six numbers with the marks between them, and their fields with the fraction
  iterate 11 obtain ⟨_, -, h⟩ := Option.bind_eq_some_iff.1 h
  iterate 7 obtain ⟨_, -, h⟩ := Option.bind_eq_some_iff.1 h
  dsimp only at h
  split at h <;> obtain ⟨_, -, h⟩ := Option.bind_eq_some_iff.1 h <;>
    obtain ⟨-, h⟩ := Option.ite_none_left_eq_some.1 h <;>
    obtain ⟨u, -, h⟩ := Option.bind_eq_some_iff.1 h <;> exact listed_of_sub? h

theorem listed_of_readMoment? {items : List Item} {cs : List Char} {t : Moment}
    (h : readMoment? items cs = some t) : t.date.Listed := by
  obtain ⟨f, -, h⟩ := Option.bind_eq_some_iff.1 h
  exact listed_of_moment? h

theorem listed_of_readDate? {items : List Item} {cs : List Char} {d : Date} (h : readDate? items cs = some d) :
    d.Listed := by
  obtain ⟨f, -, h⟩ := Option.bind_eq_some_iff.1 h
  exact listed_of_date? h

/-- **What a text is read as has a date of the calendar.** -/
theorem listed_of_ofText? {s : String} {t : Moment} (h : ofText? s = some t) : t.date.Listed := by
  unfold ofText? at h
  dsimp only at h
  rcases Option.or_eq_some_iff.1 h with h | ⟨-, h⟩
  · obtain ⟨l, -, h⟩ := List.exists_of_findSome?_eq_some h
    obtain ⟨items, -, h⟩ := Option.bind_eq_some_iff.1 h
    exact listed_of_readMoment? h
  rcases Option.or_eq_some_iff.1 h with h | ⟨-, h⟩
  · exact listed_of_readZoned? h
  · obtain ⟨d, hd, rfl⟩ := Option.map_eq_some_iff.1 h
    obtain ⟨l, -, hd⟩ := List.exists_of_findSome?_eq_some hd
    obtain ⟨items, -, hd⟩ := Option.bind_eq_some_iff.1 hd
    exact listed_of_readDate? hd

end Calendar
end RowSql
