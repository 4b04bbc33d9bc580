import RowSql.Proofs.Codec.Csv
import RowSql.Proofs.Codec.LineEnds
/-!
# Scan — lines without quotes, read in one pass

Without quoting, the fields of a line are those of one scan from the left (`fields_eq_scan`).  The scan knows
only the fields that it closed, the field that it is in, and whether the next character stands for itself.  An
empty field at the end of a line needs no rule of its own there: it is the field that the scan is in when the
last character closed one.  A reader that begins where a scan begins stops where the scan closes its field
(`fields_run_plain`), and at the end of the line, where no reader begins again, the look back tells what the
scan did (`endsOpen_of_plain`).
-/
namespace RowSql
namespace Csv

variable {l : Layout} {cs : List Char}

/-! ## The scan -/

/-- **The state of a scan**: the fields that are closed, the field that the scan is in, and whether the next
character stands for itself. -/
structure Scan where
  closed : List (List Char)
  current : List Char
  escaped : Bool
deriving DecidableEq, Repr

namespace Scan

def start : Scan := ⟨[], [], false⟩

/-- **One character**: behind an escape it stands for itself, an escape is left out, and a delimiter closes the
field. -/
def step (l : Layout) (s : Scan) (c : Char) : Scan :=
  if s.escaped then ⟨s.closed, s.current ++ [c], false⟩
  else if l.escape = some c then ⟨s.closed, s.current, true⟩
  else if c = l.delimiter then ⟨s.closed ++ [s.current], [], false⟩
  else ⟨s.closed, s.current ++ [c], false⟩

def run (l : Layout) (s : Scan) (cs : List Char) : Scan := cs.foldl (step l) s

/-- The fields at the end of a line: the last one is the one that the scan is in. -/
def fields (s : Scan) : List (List Char) := s.closed ++ [s.current]

theorem run_cons (s : Scan) (c : Char) (cs : List Char) : run l s (c :: cs) = run l (step l s c) cs := rfl

theorem run_concat (s : Scan) (cs : List Char) (c : Char) : run l s (cs ++ [c]) = step l (run l s cs) c := by
  rw [run, List.foldl_append]
  rfl

theorem step_escaped (closed : List (List Char)) (current : List Char) (c : Char) :
    step l ⟨closed, current, true⟩ c = ⟨closed, current ++ [c], false⟩ := rfl

theorem step_escape {e : Char} (he : l.escape = some e) (closed : List (List Char)) (current : List Char) :
    step l ⟨closed, current, false⟩ e = ⟨closed, current, true⟩ := by
  simp [step, he]

theorem step_delimiter (hne : l.escape ≠ some l.delimiter) (closed : List (List Char)) (current : List Char) :
    step l ⟨closed, current, false⟩ l.delimiter = ⟨closed ++ [current], [], false⟩ := by
  simp [step, hne]

theorem step_plain {c : Char} (he : l.escape ≠ some c) (hc : c ≠ l.delimiter) (closed : List (List Char))
    (current : List Char) : step l ⟨closed, current, false⟩ c = ⟨closed, current ++ [c], false⟩ := by
  simp [step, he, hc]

/-- **Fields that are closed stay as they are.** -/
theorem fields_run_closed (closed : List (List Char)) : ∀ (cs : List Char) (s : Scan),
    (run l ⟨closed ++ s.closed, s.current, s.escaped⟩ cs).fields = closed ++ (run l s cs).fields
  | [], s => List.append_assoc _ _ _
  | c :: cs, s => by
    have hstep : step l ⟨closed ++ s.closed, s.current, s.escaped⟩ c =
        ⟨closed ++ (step l s c).closed, (step l s c).current, (step l s c).escaped⟩ := by
      unfold step
      dsimp only
      split
      · rfl
      split
      · rfl
      split
      · rw [List.append_assoc]
      · rfl
    rw [run_cons, run_cons, hstep, fields_run_closed closed cs (step l s c)]

/-- **A scan and a reader that begin together**: the scan closes a field where the reader stops, and begins anew
there. -/
theorem fields_run_plain (hne : l.escape ≠ some l.delimiter) (cs : List Char) : ∀ current : List Char,
    (run l ⟨[], current, false⟩ cs).fields = (current ++ (plain l cs).text) ::
      (if (plain l cs).ended then (run l .start (plain l cs).rest).fields else []) := by
  -- along the reader, for any field that the scan is in: what the reader takes goes behind it
  fun_induction plain l cs with
  | case1 =>
    intro current
    rw [Taken.last, List.append_nil]
    rfl
  | case2 c hc =>
    intro current
    rw [beq_iff_eq.1 hc, run_cons, step_delimiter hne, List.append_nil]
    rfl
  | case3 c hc he =>
    intro current
    rw [run_cons, step_escape (beq_iff_eq.1 he), Taken.last, List.append_nil]
    rfl
  | case4 c hc he =>
    intro current
    rw [run_cons, step_plain (mt beq_iff_eq.2 he) (mt beq_iff_eq.2 hc)]
    rfl
  | case5 c d cs hc =>
    intro current
    rw [beq_iff_eq.1 hc, run_cons, step_delimiter hne, List.append_nil]
    exact fields_run_closed [current] (d :: cs) start
  | case6 c d cs hc he ih =>
    intro current
    rw [run_cons, step_escape (beq_iff_eq.1 he), run_cons, step_escaped, ih (current ++ [d]), List.append_assoc]
    rfl
  | case7 c d cs hc he ih =>
    intro current
    rw [run_cons, step_plain (mt beq_iff_eq.2 he) (mt beq_iff_eq.2 hc), ih (current ++ [c]), List.append_assoc]
    rfl

end Scan

/-- **The scan of a line.** -/
def scan (l : Layout) (line : List Char) : Scan := Scan.run l .start line

/-- **The places of the delimiters that no escape stands before**, for one scan from the left. -/
def openDelimiters (l : Layout) (cs : List Char) : List Nat :=
  (List.range cs.length).filter fun i => cs[i]? == some l.delimiter && !(scan l (cs.take i)).escaped

theorem scan_concat (cs : List Char) (c : Char) : scan l (cs ++ [c]) = Scan.step l (scan l cs) c :=
  Scan.run_concat _ cs c

theorem openDelimiters_concat (l : Layout) (cs : List Char) (c : Char) : openDelimiters l (cs ++ [c]) =
    openDelimiters l cs ++ if c = l.delimiter ∧ (scan l cs).escaped = false then [cs.length] else [] := by
  have hbefore : ∀ i ∈ List.range cs.length,
      ((cs ++ [c])[i]? == some l.delimiter && !(scan l ((cs ++ [c]).take i)).escaped) =
        (cs[i]? == some l.delimiter && !(scan l (cs.take i)).escaped) := by
    intro i hi
    have hlt : i < cs.length := List.mem_range.1 hi
    rw [List.getElem?_append_left hlt, List.take_append_of_le_length (Nat.le_of_lt hlt)]
  have hlast : (cs ++ [c])[cs.length]? = some c := by simp
  rw [openDelimiters, List.length_append, List.length_singleton, List.range_succ, List.filter_append,
    List.filter_congr hbefore, List.filter_singleton, hlast, List.take_left, ← openDelimiters]
  simp

/-- **A scan closes a field at every such delimiter**, and nowhere else. -/
theorem length_closed_scan (hne : l.escape ≠ some l.delimiter) (line : List Char) :
    (scan l line).closed.length = (openDelimiters l line).length := by
  induction line using List.reverseRecOn with
  | nil => rfl
  | append_singleton line c ih =>
    rw [openDelimiters_concat, List.length_append, ← ih, scan_concat]
    unfold Scan.step
    split
    · rename_i hescaped
      simp [hescaped]
    · rename_i hescaped
      split
      · rename_i he
        have hc : c ≠ l.delimiter := fun h => hne (h ▸ he)
        simp [hc]
      · split
        · rename_i hc
          simp [hc, hescaped]
        · rename_i hc
          simp [hc]

/-! ## Lines -/

theorem fieldsFrom_eq_scan (hq : l.quoting = false) (hne : l.escape ≠ some l.delimiter) {line : List Char}
    (cs : List Char) (hline : endsOpen l line = endsOpen l cs) : fieldsFrom l line cs = (scan l cs).fields := by
  have hfield := field_of_not_quoting hq
  have hscan : ∀ cs, (scan l cs).fields = _ := fun cs => Scan.fields_run_plain hne cs []
  -- along the readers: the look back is at the whole line, and sees there what it sees in the part that is left
  fun_induction fieldsFrom l line cs with
  | case1 cs hrest =>
    rw [hfield] at hrest
    rw [hscan, hfield, hline, endsOpen_of_plain l cs hrest, hrest]
    rfl
  | case2 cs hrest ih =>
    have hstops := field_stops l cs
    have hended := hstops.ended hrest
    obtain ⟨used, hcs⟩ := hstops.eq_append hended
    have hback := endsOpen_append_cons hne used hrest
    rw [← hcs] at hback
    rw [ih (hline.trans hback)]
    rw [hfield] at hended
    rw [hscan cs, hfield, hended]
    rfl

/-- **Without quoting, the fields of a line are those of one scan from the left**, in which an escape makes the
next character stand for itself and every other delimiter closes a field; so there is one field more than there
are such delimiters. -/
theorem fields_eq_scan (hq : l.quoting = false) (hne : l.escape ≠ some l.delimiter) (line : List Char) :
    fields l line = (scan l line).fields ∧ (fields l line).length = (openDelimiters l line).length + 1 := by
  have hfields : fields l line = (scan l line).fields := fieldsFrom_eq_scan hq hne line rfl
  refine ⟨hfields, ?_⟩
  rw [hfields, Scan.fields, List.length_append, length_closed_scan hne]
  rfl

/-- A line with an escaped delimiter, an escaped escape before a delimiter, and an escape at the end: `a\|b\\||\`. -/
def escapesLine : List Char := ['a', '\\', '|', 'b', '\\', '\\', '|', '|', '\\']

theorem fields_eq_scan_escapesLine :
    (⟨'|', false, some '\\'⟩ : Layout).escape ≠ some '|' ∧
    fields ⟨'|', false, some '\\'⟩ escapesLine = [['a', '|', 'b', '\\'], [], []] ∧
    openDelimiters ⟨'|', false, some '\\'⟩ escapesLine = [6, 7] ∧
    (fields ⟨'|', false, some '\\'⟩ escapesLine).length = 2 + 1 := by
  have hne : (⟨'|', false, some '\\'⟩ : Layout).escape ≠ some '|' := by decide
  obtain ⟨hfields, hlength⟩ := fields_eq_scan (l := ⟨'|', false, some '\\'⟩) rfl hne escapesLine
  have hplaces : openDelimiters ⟨'|', false, some '\\'⟩ escapesLine = [6, 7] := by decide
  rw [hplaces] at hlength
  exact ⟨hne, hfields.trans (by decide), hplaces, hlength⟩

end Csv
end RowSql
