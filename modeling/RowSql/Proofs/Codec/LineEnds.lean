import Mathlib.Data.List.Induction
import RowSql.Codec.Csv
/-!
# LineEnds — the look back from the end of a line

A reader stops at a delimiter or at the end of the line (`field_stops`).  Whether there is one more, empty field
is not told by the reader: it is read off the end of the line, from a delimiter there and the escapes before it.
These escapes are in pairs just when no escape is pending for the delimiter (`pending_eq`), and what is pending
does not depend on what stands before an earlier delimiter (`endsOpen_append_cons`).  So for a field that is not
quoted the look back tells what the reader did (`endsOpen_of_plain`).
-/
namespace RowSql
namespace Csv

variable {l : Layout} {e c : Char} {cs : List Char}

/-! ## Escapes at the end of a text -/

/-- The escapes at the end of a text are in pairs, so none of them is meant for the next character. -/
def paired (e : Char) (cs : List Char) : Bool := (cs.reverse.takeWhile (· == e)).length % 2 == 0

theorem paired_concat_of_ne (hc : c ≠ e) (cs : List Char) : paired e (cs ++ [c]) = true := by
  simp [paired, hc]

theorem paired_concat (e : Char) (cs : List Char) : paired e (cs ++ [e]) = !paired e cs := by
  simp only [paired, List.reverse_append, List.reverse_singleton, List.singleton_append, List.takeWhile_cons,
    beq_self_eq_true, if_true, List.length_cons]
  rcases Nat.mod_two_eq_zero_or_one (cs.reverse.takeWhile (· == e)).length with h | h
  · simp [Nat.add_mod, h]
  · simp [Nat.add_mod, h]

/-- Whether an escape is pending after one more character: the character is one, and stands for itself no less. -/
def pendingAfter (l : Layout) (before : Bool) (c : Char) : Bool := !before && l.escape == some c

/-- **An escape is pending behind a text**: read from the left, its last character is an escape that no escape
before it makes an ordinary character. -/
def pending (l : Layout) (cs : List Char) : Bool := cs.foldl (pendingAfter l) false

theorem pending_concat (l : Layout) (cs : List Char) (c : Char) :
    pending l (cs ++ [c]) = pendingAfter l (pending l cs) c := by
  rw [pending, List.foldl_append]
  rfl

theorem pendingAfter_of_ne (hc : l.escape ≠ some c) (before : Bool) : pendingAfter l before c = false := by
  simp [pendingAfter, hc]

/-- A character that is no escape leaves nothing pending, whatever stands before it. -/
theorem pending_append_cons (hc : l.escape ≠ some c) (before cs : List Char) :
    pending l (before ++ c :: cs) = pending l cs := by
  rw [pending, List.foldl_append, List.foldl_cons, pendingAfter_of_ne hc]
  rfl

theorem pending_escape_cons (he : l.escape = some e) (c : Char) (cs : List Char) :
    pending l (e :: c :: cs) = pending l cs := by
  simp [pending, pendingAfter, he]

theorem pending_of_none (he : l.escape = none) (cs : List Char) : pending l cs = false := by
  induction cs using List.reverseRecOn with
  | nil => rfl
  | append_singleton cs c ih => rw [pending_concat, pendingAfter_of_ne (by simp [he])]

/-- **An escape is pending just when the escapes at the end are not in pairs.** -/
theorem pending_eq (he : l.escape = some e) (cs : List Char) : pending l cs = !paired e cs := by
  induction cs using List.reverseRecOn with
  | nil => rfl
  | append_singleton cs c ih =>
    rw [pending_concat, ih]
    by_cases hc : c = e
    · subst hc
      rw [paired_concat]
      simp [pendingAfter, he]
    · rw [paired_concat_of_ne hc, pendingAfter_of_ne fun h => hc (Option.some.inj (h.symm.trans he))]
      rfl

/-! ## The look back -/

theorem endsOpen_nil (l : Layout) : endsOpen l [] = false := rfl

/-- **The look back finds a delimiter for which no escape is pending.** -/
theorem endsOpen_concat (l : Layout) (before : List Char) (c : Char) :
    endsOpen l (before ++ [c]) = (c == l.delimiter && !pending l before) := by
  rw [endsOpen, List.reverse_concat]
  cases he : l.escape with
  | none => rw [pending_of_none he]; rfl
  | some e =>
    rw [pending_eq he, Bool.not_not]
    rfl

theorem endsOpen_singleton (l : Layout) (c : Char) : endsOpen l [c] = (c == l.delimiter) := by
  have h := endsOpen_concat l [] c
  rwa [pending, List.foldl_nil, Bool.not_false, Bool.and_true] at h

/-- What stands before a character that is no escape does not matter. -/
theorem endsOpen_append_cons (hc : l.escape ≠ some c) (before : List Char) (hcs : cs ≠ []) :
    endsOpen l (before ++ c :: cs) = endsOpen l cs := by
  obtain ⟨init, d, rfl⟩ : ∃ init d, cs = init ++ [d] := ⟨_, _, (List.dropLast_concat_getLast hcs).symm⟩
  rw [← List.cons_append, ← List.append_assoc, endsOpen_concat, endsOpen_concat, pending_append_cons hc]

theorem endsOpen_escape_cons (he : l.escape = some e) (c : Char) (cs : List Char) :
    endsOpen l (e :: c :: cs) = endsOpen l cs := by
  cases cs using List.reverseRecOn with
  | nil =>
    have hpair : [e, c] = [e] ++ [c] := rfl
    have hpending : pending l [e] = true := by simp [pending, pendingAfter, he]
    rw [hpair, endsOpen_concat, hpending, Bool.not_true, Bool.and_false, endsOpen_nil]
  | append_singleton init d =>
    rw [← List.cons_append, ← List.cons_append, endsOpen_concat, endsOpen_concat, pending_escape_cons he]

/-! ## Where readers stop -/

/-- **Where a reader stopped in a text**: at a delimiter, with what stands behind it left, or at the end. -/
def Taken.Stops (l : Layout) (t : Taken) (cs : List Char) : Prop :=
  if t.ended then ∃ used, cs = used ++ l.delimiter :: t.rest else t.rest = []

namespace Taken

variable {t : Taken}

theorem Stops.append (h : t.Stops l cs) (more text : List Char) : Stops l ⟨text, t.ended, t.rest⟩ (more ++ cs) := by
  unfold Stops at h ⊢
  split at h
  · rename_i hended
    obtain ⟨used, rfl⟩ := h
    rw [if_pos hended]
    exact ⟨more ++ used, by rw [List.append_assoc]⟩
  · rename_i hended
    rwa [if_neg hended]

theorem Stops.cons (h : t.Stops l cs) (d : Char) (more : List Char) : (t.cons d).Stops l (more ++ cs) :=
  h.append more _

theorem stops_last (l : Layout) (cs : List Char) : last.Stops l cs := rfl

theorem stops_delimiter (hc : c = l.delimiter) (cs : List Char) : Stops l ⟨[], true, cs⟩ (c :: cs) :=
  ⟨[], by rw [hc]; rfl⟩

theorem Stops.ended (h : t.Stops l cs) (hrest : t.rest ≠ []) : t.ended = true := by
  unfold Stops at h
  split at h
  · assumption
  · exact absurd h hrest

theorem Stops.eq_append (h : t.Stops l cs) (hended : t.ended = true) : ∃ used, cs = used ++ l.delimiter :: t.rest := by
  rwa [Stops, if_pos hended] at h

end Taken

theorem plain_stops (l : Layout) (cs : List Char) : (plain l cs).Stops l cs := by
  fun_induction plain l cs with
  | case1 => exact Taken.stops_last l _
  | case2 c hc => exact Taken.stops_delimiter (beq_iff_eq.1 hc) []
  | case3 => exact Taken.stops_last l _
  | case4 => exact Taken.stops_last l _
  | case5 c d cs hc => exact Taken.stops_delimiter (beq_iff_eq.1 hc) _
  | case6 c d cs _ _ ih => exact ih.cons d [c, d]
  | case7 c d cs _ _ ih => exact ih.cons c [c]

theorem afterQuote_stops (l : Layout) (cs : List Char) : (afterQuote l cs).Stops l cs := by
  fun_induction afterQuote l cs with
  | case1 => exact Taken.stops_last l _
  | case2 c cs hc => exact Taken.stops_delimiter (beq_iff_eq.1 hc) cs
  | case3 c cs _ ih => exact ih.append [c] _

theorem quoted_stops (l : Layout) (cs : List Char) : (quoted l cs).Stops l cs := by
  fun_induction quoted l cs with
  | case1 => exact Taken.stops_last l _
  | case2 => exact Taken.stops_last l _
  | case3 => exact Taken.stops_last l _
  | case4 c d cs _ _ ih => exact ih.cons '"' [c, d]
  | case5 c d cs => exact (afterQuote_stops l (d :: cs)).append [c] _
  | case6 c d cs _ _ ih => exact ih.cons d [c, d]
  | case7 c d cs _ _ ih => exact ih.cons c [c]

/-- **A reader stops at a delimiter or at the end.** -/
theorem field_stops (l : Layout) (cs : List Char) : (field l cs).Stops l cs := by
  unfold field
  split
  · split
    · exact (quoted_stops l _).append ['"'] _
    · exact plain_stops l _
  · exact plain_stops l _

/-- **For a field that is not quoted, the look back tells whether it ended at a delimiter.** -/
theorem endsOpen_of_plain (l : Layout) (cs : List Char) (hrest : (plain l cs).rest = []) :
    endsOpen l cs = (plain l cs).ended := by
  fun_induction plain l cs with
  | case1 => rfl
  | case2 c hc => rw [endsOpen_singleton, hc]
  | case3 c hc =>
    rw [endsOpen_singleton, Bool.eq_false_iff.2 hc]
    rfl
  | case4 c hc =>
    rw [endsOpen_singleton, Bool.eq_false_iff.2 hc]
    rfl
  | case5 c d cs hc => cases hrest
  | case6 c d cs hc he ih =>
    -- the reader takes the escape and the character behind it together, and the look back skips both
    rw [endsOpen_escape_cons (beq_iff_eq.1 he)]
    exact ih hrest
  | case7 c d cs hc he ih =>
    have hplain : l.escape ≠ some c := fun h => he (beq_iff_eq.2 h)
    have hskip := endsOpen_append_cons hplain [] (List.cons_ne_nil d cs)
    rw [List.nil_append] at hskip
    rw [hskip]
    exact ih hrest

end Csv
end RowSql
