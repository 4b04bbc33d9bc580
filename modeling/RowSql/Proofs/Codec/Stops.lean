import Mathlib.Data.List.Basic
import RowSql.Proofs.Codec.Csv
import RowSql.Proofs.Codec.LineEnds
/-!
# Stops — the delimiters at which readers stopped

With quoting, a line has one field more than there are delimiters at which a reader of a field stopped, but for
two kinds of lines (`fields_eq_stops`).  Both come from the look back at the end of the line, which does not
know what the last reader was in.  If no quote closes the last field, a delimiter at the end belongs to its
text, and is taken for one that ended it.  If the last reader dropped what stands between the closing quote and
a delimiter at the end, an escape in there meant nothing to it, and yet the delimiter is taken for an escaped
one.
-/
namespace RowSql
namespace Csv

variable {l : Layout} {cs line : List Char}

/-! ## The readers of a line -/

/-- The fields of what is left of a line as their readers left them. -/
def takenFrom (l : Layout) (cs : List Char) : List Taken :=
  if (field l cs).rest = [] then [field l cs] else field l cs :: takenFrom l (field l cs).rest
termination_by cs.length
decreasing_by exact field_rest_lt ‹_›

/-- What the last reader of a line is given. -/
def lastFrom (l : Layout) (cs : List Char) : List Char :=
  if (field l cs).rest = [] then cs else lastFrom l (field l cs).rest
termination_by cs.length
decreasing_by exact field_rest_lt ‹_›

/-- **The number of delimiters at which a reader stopped.** -/
def stops (l : Layout) (line : List Char) : Nat := (takenFrom l line).countP (·.ended)

/-- **The texts that the readers of a line read.** -/
def texts (l : Layout) (line : List Char) : List (List Char) := (takenFrom l line).map (·.text)

/-- **The last reader of a line stopped at a delimiter**, which is then the last character of the line. -/
def lastEnded (l : Layout) (line : List Char) : Bool := (field l (lastFrom l line)).ended

theorem lastFrom_rest (l : Layout) (cs : List Char) : (field l (lastFrom l cs)).rest = [] := by
  fun_induction lastFrom l cs with
  | case1 cs hrest => exact hrest
  | case2 cs hrest ih => exact ih

theorem fieldsFrom_eq_texts (l : Layout) (line cs : List Char) :
    fieldsFrom l line cs = texts l cs ++ if endsOpen l line then [[]] else [] := by
  unfold texts
  fun_induction fieldsFrom l line cs with
  | case1 cs hrest =>
    rw [takenFrom, if_pos hrest]
    rfl
  | case2 cs hrest ih =>
    rw [takenFrom, if_neg hrest, ih]
    rfl

/-- Every reader but the last stopped at a delimiter. -/
theorem stops_add_one (l : Layout) (cs : List Char) :
    stops l cs + 1 = (texts l cs).length + if lastEnded l cs then 1 else 0 := by
  unfold stops texts lastEnded
  fun_induction lastFrom l cs with
  | case1 cs hrest =>
    rw [takenFrom, if_pos hrest, List.map_singleton, List.length_singleton, List.countP_singleton]
    omega
  | case2 cs hrest ih =>
    rw [takenFrom, if_neg hrest, List.countP_cons, (field_stops l cs).ended hrest, List.map_cons, List.length_cons]
    simp only [if_true]
    omega

/-- **What the last reader is given is the line, or stands behind a delimiter**, and nothing before that matters
to the look back. -/
theorem lastFrom_spec (hne : l.escape ≠ some l.delimiter) (cs : List Char) :
    (∃ before, cs = before ++ lastFrom l cs) ∧ endsOpen l (lastFrom l cs) = endsOpen l cs := by
  fun_induction lastFrom l cs with
  | case1 cs hrest => exact ⟨⟨[], rfl⟩, rfl⟩
  | case2 cs hrest ih =>
    have hstops := field_stops l cs
    obtain ⟨used, hcs⟩ := hstops.eq_append (hstops.ended hrest)
    obtain ⟨⟨before, hbefore⟩, hback⟩ := ih
    refine ⟨⟨used ++ l.delimiter :: before, ?_⟩, ?_⟩
    · rw [List.append_assoc, List.cons_append, ← hbefore]
      exact hcs
    · have hskip := endsOpen_append_cons hne used hrest
      rw [← hcs] at hskip
      exact hback.trans hskip.symm

/-! ## Quoted fields -/

/-- **What stands behind the quote that closes a quoted field**, for the field after its first quote; nothing,
if none does. -/
def behindQuote? (l : Layout) : List Char → Option (List Char)
  | [] => none
  | [c] => if c == '"' then some [] else none
  | c :: d :: cs =>
    if c == '"' then if d == '"' then behindQuote? l cs else some (d :: cs)
    else if l.escape == some c then behindQuote? l cs
    else behindQuote? l (d :: cs)

theorem quoted_ended_of_none (h : behindQuote? l cs = none) : (quoted l cs).ended = false := by
  fun_induction quoted l cs with
  | case1 => rfl
  | case2 => rfl
  | case3 => rfl
  | case4 c d cs hc hd ih => exact ih (by simpa [behindQuote?, hc, hd] using h)
  | case5 c d cs hc hd => simp [behindQuote?, hc, hd] at h
  | case6 c d cs hc he ih => exact ih (by simpa [behindQuote?, hc, he] using h)
  | case7 c d cs hc he ih => exact ih (by simpa [behindQuote?, hc, he] using h)

theorem afterQuote_ended (l : Layout) (cs : List Char) : (afterQuote l cs).ended = true ↔ l.delimiter ∈ cs := by
  fun_induction afterQuote l cs with
  | case1 => simp [Taken.last]
  | case2 c cs hc => simp [beq_iff_eq.1 hc]
  | case3 c cs hc ih =>
    have hne : l.delimiter ≠ c := fun h => hc (beq_iff_eq.2 h.symm)
    rw [ih, List.mem_cons]
    exact ⟨.inr, fun h => h.resolve_left hne⟩

/-- **A quoted field that is closed ends at the first delimiter behind its closing quote.** -/
theorem quoted_of_some {r : List Char} (h : behindQuote? l cs = some r) :
    (∃ used, cs = used ++ '"' :: r) ∧ ((quoted l cs).ended = true ↔ l.delimiter ∈ r) := by
  fun_induction quoted l cs with
  | case1 => cases h
  | case2 c hc =>
    by_cases hquote : c = '"'
    · obtain rfl : [] = r := by simpa [behindQuote?, hquote] using h
      exact ⟨⟨[], by rw [hquote]; rfl⟩, by simp [Taken.last]⟩
    · simp [behindQuote?, hquote] at h
  | case3 c hc =>
    simp only [Bool.or_eq_true, not_or] at hc
    simp [behindQuote?, hc.1] at h
  | case4 c d cs hc hd ih =>
    obtain ⟨⟨used, hused⟩, hended⟩ := ih (by simpa [behindQuote?, hc, hd] using h)
    exact ⟨⟨c :: d :: used, by rw [hused]; rfl⟩, hended⟩
  | case5 c d cs hc hd =>
    obtain rfl : d :: cs = r := by simpa [behindQuote?, hc, hd] using h
    exact ⟨⟨[], by rw [beq_iff_eq.1 hc]; rfl⟩, afterQuote_ended l _⟩
  | case6 c d cs hc he ih =>
    obtain ⟨⟨used, hused⟩, hended⟩ := ih (by simpa [behindQuote?, hc, he] using h)
    exact ⟨⟨c :: d :: used, by rw [hused]; rfl⟩, hended⟩
  | case7 c d cs hc he ih =>
    obtain ⟨⟨used, hused⟩, hended⟩ := ih (by simpa [behindQuote?, hc, he] using h)
    exact ⟨⟨c :: used, by rw [hused]; rfl⟩, hended⟩

/-! ## The last field of a line -/

/-- **The last field of a line opens with a quote that nothing closes.** -/
def LastUnclosed (l : Layout) (line : List Char) : Prop :=
  ∃ body, lastFrom l line = '"' :: body ∧ behindQuote? l body = none

/-- **The last field of a line is quoted and closed.** -/
def LastClosed (l : Layout) (line : List Char) : Prop :=
  ∃ body r, lastFrom l line = '"' :: body ∧ behindQuote? l body = some r

/-- **The line ends with a delimiter that an escape is, or is not, pending for.** -/
def EndsAt (l : Layout) (line : List Char) (escaped : Bool) : Prop :=
  ∃ before, line = before ++ [l.delimiter] ∧ pending l before = escaped

/-- **A line with a field too many**: its last field is not closed, and ends with a delimiter. -/
def Surplus (l : Layout) (line : List Char) : Prop := LastUnclosed l line ∧ EndsAt l line false

/-- **A line with a field too few**: what was dropped behind the last closing quote ends with an escape and a
delimiter. -/
def Deficit (l : Layout) (line : List Char) : Prop := LastClosed l line ∧ EndsAt l line true

theorem endsOpen_iff : endsOpen l line = true ↔ EndsAt l line false := by
  constructor
  · intro h
    cases line using List.reverseRecOn with
    | nil => cases h
    | append_singleton before c =>
      rw [endsOpen_concat, Bool.and_eq_true, beq_iff_eq, Bool.not_eq_true'] at h
      exact ⟨before, by rw [h.1], h.2⟩
  · rintro ⟨before, rfl, hpending⟩
    rw [endsOpen_concat, hpending, beq_self_eq_true]
    rfl

theorem endsOpen_of_escaped (h : EndsAt l line true) : endsOpen l line = false := by
  obtain ⟨before, rfl, hpending⟩ := h
  rw [endsOpen_concat, hpending, Bool.not_true, Bool.and_false]

theorem lastEnded_of_unclosed (hq : l.quoting = true) (h : LastUnclosed l line) : lastEnded l line = false := by
  obtain ⟨body, hlast, hbody⟩ := h
  rw [lastEnded, hlast, field, if_pos hq]
  exact quoted_ended_of_none hbody

/-- **Behind a closing quote, a delimiter at the end of the line ends the field**, whatever stands before it. -/
theorem lastEnded_of_closed (hq : l.quoting = true) (hd : l.delimiter ≠ '"') (hne : l.escape ≠ some l.delimiter)
    (h : LastClosed l line) : lastEnded l line = true ↔ ∃ escaped, EndsAt l line escaped := by
  obtain ⟨⟨before, hline⟩, -⟩ := lastFrom_spec hne line
  obtain ⟨body, r, hlast, hbody⟩ := h
  obtain ⟨⟨used, hused⟩, hended⟩ := quoted_of_some hbody
  have hfield : lastEnded l line = (quoted l body).ended := by rw [lastEnded, hlast, field, if_pos hq]
  constructor
  · intro hstop
    obtain ⟨seen, hseen⟩ := (field_stops l (lastFrom l line)).eq_append hstop
    rw [lastFrom_rest] at hseen
    exact ⟨_, before ++ seen, by rw [List.append_assoc, ← hseen, ← hline], rfl⟩
  · rintro ⟨-, all, hall, -⟩
    rw [hfield, hended]
    -- the line ends as what is behind the closing quote does, or with that quote
    have hparts : line = (before ++ '"' :: used) ++ '"' :: r := hline.trans (by rw [hlast, hused]; simp)
    have hfinal : (all ++ [l.delimiter]).getLast? = ('"' :: r).getLast? := by
      rw [← hall, hparts, List.getLast?_append_cons]
    cases r with
    | nil => exact absurd (by simpa using hfinal) hd
    | cons c r =>
      rw [List.getLast?_concat, List.getLast?_cons_cons] at hfinal
      exact List.mem_of_getLast? hfinal.symm

/-- **The look back tells what the last reader did**, but for the two kinds of lines. -/
theorem endsOpen_eq_lastEnded (hq : l.quoting = true) (hd : l.delimiter ≠ '"') (hne : l.escape ≠ some l.delimiter)
    (hs : ¬ Surplus l line) (hdef : ¬ Deficit l line) : endsOpen l line = lastEnded l line := by
  obtain ⟨-, hback⟩ := lastFrom_spec hne line
  have hrest := lastFrom_rest l line
  by_cases hquote : ∃ body, lastFrom l line = '"' :: body
  · obtain ⟨body, hlast⟩ := hquote
    cases hbody : behindQuote? l body with
    | none =>
      -- the last reader stopped at the end, so the look back errs if it finds a delimiter
      have hopen : LastUnclosed l line := ⟨body, hlast, hbody⟩
      rw [lastEnded_of_unclosed hq hopen, Bool.eq_false_iff]
      exact fun h => hs ⟨hopen, endsOpen_iff.1 h⟩
    | some r =>
      -- the last reader stopped at any delimiter at the end, so the look back errs if it takes it for an escaped one
      have hclosed : LastClosed l line := ⟨body, r, hlast, hbody⟩
      rw [Bool.eq_iff_iff, endsOpen_iff, lastEnded_of_closed hq hd hne hclosed]
      refine ⟨fun h => ⟨_, h⟩, ?_⟩
      rintro ⟨escaped, h⟩
      cases escaped with
      | false => exact h
      | true => exact absurd ⟨hclosed, h⟩ hdef
  · have hfield : field l (lastFrom l line) = plain l (lastFrom l line) :=
      field_eq_plain fun c hc h => hquote ⟨_, h ▸ List.eq_cons_of_mem_head? hc⟩
    rw [hfield] at hrest
    rw [← hback, lastEnded, hfield]
    exact endsOpen_of_plain l _ hrest

/-- **A line with quotes has one field more than there are delimiters at which a reader stopped**, and a last,
empty field just when the last reader stopped at one, unless the line has a field too many, which no reader
opened, or one too few, which the last reader did open. -/
theorem fields_eq_stops (hq : l.quoting = true) (hd : l.delimiter ≠ '"') (hne : l.escape ≠ some l.delimiter)
    (line : List Char) :
    (¬ Surplus l line → ¬ Deficit l line →
      fields l line = texts l line ++ (if lastEnded l line then [[]] else []) ∧
      (fields l line).length = stops l line + 1) ∧
    (Surplus l line → lastEnded l line = false ∧ fields l line = texts l line ++ [[]] ∧
      (fields l line).length = stops l line + 2) ∧
    (Deficit l line → lastEnded l line = true ∧ fields l line = texts l line ∧
      (fields l line).length = stops l line) := by
  have hfields : fields l line = texts l line ++ if endsOpen l line then [[]] else [] := fieldsFrom_eq_texts l line line
  have hstops := stops_add_one l line
  refine ⟨fun hs hdef => ?_, fun ⟨hopen, hend⟩ => ?_, fun ⟨hclosed, hend⟩ => ?_⟩
  · rw [endsOpen_eq_lastEnded hq hd hne hs hdef] at hfields
    refine ⟨hfields, ?_⟩
    rw [hfields, List.length_append, hstops]
    split <;> rfl
  · have hended := lastEnded_of_unclosed hq hopen
    rw [endsOpen_iff.2 hend, if_pos rfl] at hfields
    rw [hended] at hstops
    refine ⟨hended, hfields, ?_⟩
    rw [hfields, List.length_append, List.length_singleton]
    simp only [Bool.false_eq_true, if_false] at hstops
    omega
  · have hended := (lastEnded_of_closed hq hd hne hclosed).2 ⟨_, hend⟩
    rw [endsOpen_of_escaped hend, if_neg Bool.false_ne_true, List.append_nil] at hfields
    rw [hended, if_pos rfl] at hstops
    refine ⟨hended, hfields, ?_⟩
    rw [hfields]
    omega

/-- A layout with bars between fields, quotes, and a backslash as the escape. -/
def quotedBars : Layout := ⟨'|', true, some '\\'⟩

/-- Two fields and an empty one: `"a|b"x|c|`. -/
def closedLine : List Char := ['"', 'a', '|', 'b', '"', 'x', '|', 'c', '|']

/-- A line that ends in quotes: `"a|`. -/
def unclosedLine : List Char := ['"', 'a', '|']

/-- A line with an escape and a delimiter behind the closing quote: `"a"\|`. -/
def droppedLine : List Char := ['"', 'a', '"', '\\', '|']

theorem fields_eq_stops_quotedBars :
    quotedBars.delimiter ≠ '"' ∧ quotedBars.escape ≠ some quotedBars.delimiter ∧
    (¬ Surplus quotedBars closedLine ∧ ¬ Deficit quotedBars closedLine ∧
      fields quotedBars closedLine = [['a', '|', 'b'], ['c'], []] ∧ (fields quotedBars closedLine).length = 2 + 1) ∧
    (Surplus quotedBars unclosedLine ∧ fields quotedBars unclosedLine = [['a', '|'], []]) ∧
    Deficit quotedBars droppedLine ∧ fields quotedBars droppedLine = [['a']] := by
  have hd : quotedBars.delimiter ≠ '"' := by decide
  have hne : quotedBars.escape ≠ some quotedBars.delimiter := by decide
  have hall := fields_eq_stops (l := quotedBars) rfl hd hne
  refine ⟨hd, hne, ?_, ?_, ?_⟩
  · have hlast : lastFrom quotedBars closedLine = ['c', '|'] := by
      rw [lastFrom, if_neg (by decide), lastFrom]
      decide
    have htaken : takenFrom quotedBars closedLine = [⟨['a', '|', 'b'], true, ['c', '|']⟩, ⟨['c'], true, []⟩] := by
      rw [takenFrom, if_neg (by decide), takenFrom]
      decide
    have hplain : ∀ body, ['c', '|'] ≠ '"' :: body := by simp
    have hsurplus : ¬ Surplus quotedBars closedLine := fun ⟨⟨body, hbody, _⟩, _⟩ => hplain body (hlast.symm.trans hbody)
    have hdeficit : ¬ Deficit quotedBars closedLine :=
      fun ⟨⟨body, _, hbody, _⟩, _⟩ => hplain body (hlast.symm.trans hbody)
    obtain ⟨hfields, hlength⟩ := (hall closedLine).1 hsurplus hdeficit
    rw [stops, htaken] at hlength
    rw [texts, htaken, lastEnded, hlast] at hfields
    exact ⟨hsurplus, hdeficit, hfields, hlength⟩
  · have hrest : (field quotedBars unclosedLine).rest = [] := by decide
    have hsurplus : Surplus quotedBars unclosedLine :=
      ⟨⟨['a', '|'], by rw [lastFrom, if_pos hrest]; rfl, rfl⟩, ['"', 'a'], rfl, rfl⟩
    obtain ⟨-, hfields, -⟩ := (hall unclosedLine).2.1 hsurplus
    rw [texts, takenFrom, if_pos hrest] at hfields
    exact ⟨hsurplus, hfields⟩
  · have hrest : (field quotedBars droppedLine).rest = [] := by decide
    have hdeficit : Deficit quotedBars droppedLine :=
      ⟨⟨['a', '"', '\\', '|'], ['\\', '|'], by rw [lastFrom, if_pos hrest]; rfl, rfl⟩, ['"', 'a', '"', '\\'], rfl, rfl⟩
    obtain ⟨-, hfields, -⟩ := (hall droppedLine).2.2 hdeficit
    rw [texts, takenFrom, if_pos hrest] at hfields
    exact ⟨hdeficit, hfields⟩

/-- **The look back opens a field that no reader stopped for, and leaves out one that a reader did stop for.** -/
theorem length_fields_ne_stops :
    ((fields quotedBars unclosedLine).length = 2 ∧ stops quotedBars unclosedLine = 0) ∧
    (fields quotedBars droppedLine).length = 1 ∧ stops quotedBars droppedLine = 1 := by
  have hunclosed : (field quotedBars unclosedLine).rest = [] := by decide
  have hdropped : (field quotedBars droppedLine).rest = [] := by decide
  rw [fields, fieldsFrom, if_pos hunclosed, stops, takenFrom, if_pos hunclosed, fields, fieldsFrom, if_pos hdropped,
    stops, takenFrom, if_pos hdropped]
  decide

end Csv
end RowSql
