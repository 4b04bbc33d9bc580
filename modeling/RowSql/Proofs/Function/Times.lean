import RowSql.Function
import RowSql.Proofs.Calendar.Texts
/-!
# Times — seconds and days through texts

The functions on dates and times pass moments on as texts.  Since what is written is read as itself, seconds
that are in the range of the years come back from their text (`toSeconds_ofSeconds`), and a shifted date obeys
the laws of adding days to its number, as long as each date on the way is in range (`addDays_laws`).
-/
namespace RowSql
namespace TimeFunction

open Calendar (Date Moment)

/-! ## Seconds -/

/-- The first second of the first year. -/
def firstSecond : Int := -8334601228800

/-- The last second of the last year. -/
def lastSecond : Int := 8210266876799

theorem ofSeconds?_eq_none_iff {n : Int} : Moment.ofSeconds? n = none ↔ n < firstSecond ∨ lastSecond < n := by
  have hfirst : Date.firstDay Calendar.firstYear * Moment.daySeconds = firstSecond := by decide
  have hlast : Date.firstDay (Calendar.lastYear + 1) * Moment.daySeconds = lastSecond + 1 := by decide
  rw [Moment.ofSeconds?, Option.map_eq_none_iff, Date.ofDays?_eq_none_iff]
  unfold Moment.daySeconds at *
  omega

example : [firstSecond, lastSecond].map (fun n => (Moment.ofSeconds? n).map Moment.text) =
    [some "-262143-01-01 00:00:00", some "+262142-12-31 23:59:59"] := by decide +kernel

theorem apply_ofSeconds (context : Context) (n : Whole) :
    apply .ofSeconds context [.int n] = .ofText? ((Moment.ofSeconds? n.toInt).map Moment.text) := by
  rw [apply, Value.toWhole?_int, Option.bind_some]
  cases Moment.ofSeconds? n.toInt <;> rfl

theorem apply_toSeconds (context : Context) {s : String} {t : Moment} (h : Calendar.ofText? s = some t) :
    apply .toSeconds context [.text s] = wholeValue t.toSeconds := by
  have hread : moment? (.text s) none = some t := h
  rw [apply, List.head?_nil, hread, Option.map_some, Option.getD_some]

theorem wholeValue_toInt (n : Whole) : wholeValue n.toInt = .int n := by
  rw [wholeValue, Whole.ofInt?_toInt]
  rfl

/-! ## Days -/

variable {s : String} {t : Moment}

theorem shift_text (h : Calendar.ofText? s = some t) (n : Int) :
    shift (.text s) (some n) = dateValue (t.date.addDays? n) := by
  have hread : moment? (.text s) none = some t := h
  rw [shift, hread]
  rfl

/-- **A date some days later** is out of range, or it is the date of the calendar at the sum. -/
theorem shift_cases (h : Calendar.ofText? s = some t) (n : Int) :
    shift (.text s) (some n) = .null ∧
      (t.date.toDays + n < Date.firstDay Calendar.firstYear ∨
        Date.firstDay (Calendar.lastYear + 1) ≤ t.date.toDays + n) ∨
    ∃ d : Date, shift (.text s) (some n) = .text d.text ∧ d.Listed ∧ d.toDays = t.date.toDays + n := by
  rw [shift_text h, Date.addDays?]
  cases hdays : Date.ofDays? (t.date.toDays + n) with
  | none => exact .inl ⟨rfl, Date.ofDays?_eq_none_iff.1 hdays⟩
  | some d => exact .inr ⟨d, rfl, Date.ofDays?_eq_some_iff.1 hdays⟩

theorem shift_congr {s' : String} {t' : Moment} (h : Calendar.ofText? s = some t)
    (h' : Calendar.ofText? s' = some t') {m n : Int}
    (hdays : t.date.toDays + m = t'.date.toDays + n) : shift (.text s) (some m) = shift (.text s') (some n) := by
  rw [shift_text h, shift_text h', Date.addDays?, Date.addDays?, hdays]

theorem shift_zero (h : Calendar.ofText? s = some t) : shift (.text s) (some 0) = dateValue (some t.date) := by
  have hdays : Date.ofDays? t.date.toDays = some t.date :=
    Date.ofDays?_eq_some_iff.2 ⟨Calendar.listed_of_ofText? h, rfl⟩
  rw [shift_text h, Date.addDays?, Int.add_zero, hdays]

theorem apply_toDate (context : Context) (h : Calendar.ofText? s = some t) :
    apply .toDate context [.text s] = dateValue (some t.date) := by
  have hread : moment? (.text s) none = some t := h
  rw [apply, List.head?_nil, hread, Option.map_some]

theorem apply_daysBetween (context : Context) {s' : String} {t' : Moment} (h : Calendar.ofText? s = some t)
    (h' : Calendar.ofText? s' = some t') :
    apply .daysBetween context [.text s, .text s'] = wholeValue (t.date.toDays - t'.date.toDays) := by
  have hread : moment? (.text s) none = some t := h
  have hread' : moment? (.text s') none = some t' := h'
  rw [apply, hread, hread']

theorem least_lt_toInt {n : Whole} (h : n ≠ Int64.minValue) : Whole.least < n.toInt := by
  have hleast : n.toInt ≠ Whole.least := fun hn => h (Int64.toInt.inj hn)
  exact (Whole.toInt_inRange n).1.lt_of_ne hleast.symm

theorem least_lt_of_listed {d d' : Date} (hd : d.Listed) (hd' : d'.Listed) {n : Int} (h : d.toDays = d'.toDays + n) :
    Whole.least < n := by
  have hfirst : Date.firstDay Calendar.firstYear = -96465292 := by decide
  have hlast : Date.firstDay (Calendar.lastYear + 1) = 95026237 := by decide
  have hlow := (hd.1.inRange_iff.1 hd.2).1
  have hhigh := (hd'.1.inRange_iff.1 hd'.2).2
  unfold Whole.least
  omega

theorem back?_eq {n : Whole} (h : Whole.least < n.toInt) : back? n = some (-n.toInt) := by
  rw [back?, ← Whole.toInt_neg h, Whole.ofInt?_toInt]
  rfl

end TimeFunction

namespace Function

open TimeFunction
open Calendar (Date Moment)

/-- **Seconds come back from the text of their moment.**  The text is there for the seconds of the range of the
years, and only for these. -/
theorem toSeconds_ofSeconds (context : Context) (n : Whole) :
    ((Function.time .ofSeconds).apply context [.int n] = .ok .null ↔ n.toInt < firstSecond ∨ lastSecond < n.toInt) ∧
    ∃ v, (Function.time .ofSeconds).apply context [.int n] = .ok v ∧
      (v ≠ .null → (Function.time .toSeconds).apply context [v] = .ok (.int n)) := by
  have hbody : (Function.time .ofSeconds).apply context [.int n] =
      .ok (.ofText? ((Moment.ofSeconds? n.toInt).map Moment.text)) := by
    rw [apply_of_present _ _ (by simp [Value.isNull]) rfl, body, apply_ofSeconds]
  rw [hbody, ← ofSeconds?_eq_none_iff]
  cases hmoment : Moment.ofSeconds? n.toInt with
  | none => exact ⟨iff_of_true rfl rfl, _, rfl, fun h => absurd rfl h⟩
  | some t =>
    obtain ⟨hlisted, hsecond, hnano, hsum⟩ := Moment.ofSeconds?_eq_some hmoment
    refine ⟨iff_of_false nofun nofun, _, rfl, fun _ => ?_⟩
    change (Function.time .toSeconds).apply context [.text t.text] = _
    rw [apply_of_present _ _ (by simp [Value.isNull]) rfl, body,
      apply_toSeconds _ (Calendar.ofText?_momentText hlisted hsecond hnano), hsum, wholeValue_toInt]

theorem apply_addDays (context : Context) (s : String) (n : Whole) :
    (Function.time .addDays).apply context [.text s, .int n] = .ok (shift (.text s) (some n.toInt)) :=
  apply_of_present _ _ (by simp [Value.isNull]) rfl

theorem apply_subDays (context : Context) (s : String) (n : Whole) :
    (Function.time .subDays).apply context [.text s, .int n] = .ok (shift (.text s) (back? n)) :=
  apply_of_present _ _ (by simp [Value.isNull]) rfl

/-- **Adding days to a date obeys the laws of adding to its number.**  A date some days later is nothing exactly
if its year is out of range.  Otherwise the days between the two are those that were added, as many days back is
the date again, and days that are added on top are added up.  Days back are the opposite days on, for all words
that have an opposite. -/
theorem addDays_laws (context : Context) {s : String} {t : Moment} (h : Calendar.ofText? s = some t) (n m : Whole) :
    (∃ r, (Function.time .addDays).apply context [.text s, .int n] = .ok r ∧
      (r = .null ↔ t.date.toDays + n.toInt < Date.firstDay Calendar.firstYear ∨
        Date.firstDay (Calendar.lastYear + 1) ≤ t.date.toDays + n.toInt) ∧
      (r ≠ .null →
        (Function.time .daysBetween).apply context [r, .text s] = .ok (.int n) ∧
        (Function.time .subDays).apply context [r, .int n] = (Function.time .toDate).apply context [.text s] ∧
        ∀ k : Whole, k.toInt = n.toInt + m.toInt →
          (Function.time .addDays).apply context [r, .int m] =
            (Function.time .addDays).apply context [.text s, .int k])) ∧
    (n ≠ Int64.minValue →
      (Function.time .subDays).apply context [.text s, .int n] =
        (Function.time .addDays).apply context [.text s, .int (-n)]) := by
  have hlisted := Calendar.listed_of_ofText? h
  refine ⟨⟨_, apply_addDays context s n, ?_⟩, fun hn => ?_⟩
  · rcases shift_cases h n.toInt with ⟨hnull, hout⟩ | ⟨d, htext, hd, hdays⟩
    · exact ⟨iff_of_true hnull hout, fun hpresent => absurd hnull hpresent⟩
    · have hread : Calendar.ofText? d.text = some (.midnight d) := Calendar.ofText?_dateText hd
      have hrange := hd.1.inRange_iff.1 hd.2
      have hback : back? n = some (-n.toInt) := back?_eq (least_lt_of_listed hd hlisted hdays)
      rw [htext]
      refine ⟨iff_of_false nofun (by omega), fun _ => ⟨?_, ?_, fun k hk => ?_⟩⟩
      · have hdiff : d.toDays - t.date.toDays = n.toInt := by omega
        rw [apply_of_present _ _ (by simp [Value.isNull]) rfl, body, apply_daysBetween _ hread h]
        change Except.ok (wholeValue (d.toDays - t.date.toDays)) = _
        rw [hdiff, wholeValue_toInt]
      · have hsame : d.toDays + -n.toInt = t.date.toDays + 0 := by omega
        rw [apply_subDays, hback, shift_congr hread h hsame, shift_zero h,
          apply_of_present _ _ (by simp [Value.isNull]) rfl, body, apply_toDate _ h]
      · have hsum : t.date.toDays + k.toInt = d.toDays + m.toInt := by omega
        rw [apply_addDays, apply_addDays, shift_congr h hread hsum]
  · have hleast := least_lt_toInt hn
    rw [apply_subDays, apply_addDays, back?_eq hleast, Whole.toInt_neg hleast]

/-- From a moment over a leap day and back. -/
theorem addDays_laws_leapDay :
    Calendar.ofText? "2024-02-28 10:30:00" = some ⟨⟨2024, 2, 28⟩, 37800, 0⟩ ∧
    Value.text "2024-03-01" ≠ .null ∧
    (Function.time .daysBetween).apply default [.text "2024-03-01", .text "2024-02-28 10:30:00"] = .ok (.int 2) ∧
    (Function.time .subDays).apply default [.text "2024-03-01", .int 2] =
      (Function.time .toDate).apply default [.text "2024-02-28 10:30:00"] ∧
    (0 : Whole).toInt = (2 : Whole).toInt + (-2 : Whole).toInt ∧
    (Function.time .addDays).apply default [.text "2024-03-01", .int (-2)] =
      (Function.time .addDays).apply default [.text "2024-02-28 10:30:00", .int 0] ∧
    (2 : Whole) ≠ Int64.minValue ∧
    (Function.time .subDays).apply default [.text "2024-02-28 10:30:00", .int 2] =
      (Function.time .addDays).apply default [.text "2024-02-28 10:30:00", .int (-2)] := by
  have hread : Calendar.ofText? "2024-02-28 10:30:00" = some ⟨⟨2024, 2, 28⟩, 37800, 0⟩ := by decide +kernel
  have hlater : (Function.time .addDays).apply default [.text "2024-02-28 10:30:00", .int 2] =
      .ok (.text "2024-03-01") := by
    rw [apply_addDays, shift_text hread]
    have htext : ((⟨2024, 2, 28⟩ : Date).addDays? (2 : Whole).toInt).map Date.text = some "2024-03-01" := by
      decide +kernel
    rw [dateValue, htext]
    rfl
  obtain ⟨⟨r, hr, -, hlaws⟩, hback⟩ := addDays_laws default hread 2 (-2)
  cases hlater.symm.trans hr
  obtain ⟨hbetween, hsub, hsum⟩ := hlaws nofun
  exact ⟨hread, nofun, hbetween, hsub, by decide, hsum 0 (by decide), by decide, hback (by decide)⟩

end Function
end RowSql
