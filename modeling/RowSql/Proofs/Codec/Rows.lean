import Mathlib.Data.List.DropRight
import RowSql.Codec.Rows
import RowSql.Proofs.Text.Utf8
/-!
# Rows — what is written of a row and read as a line

Of a row that is written, each declared field has the first value of its name (`lookup_project`, `get_append`),
and what is written of that is the same again.  A written text is read as its characters, and the end of a line
that is no line end stays.
-/
namespace RowSql

namespace Codec

theorem textOf_encode (codec : Format) (s : String) : textOf codec (Text.encode s) = .ok s.toList := by
  rw [textOf, Text.decode_encode]

/-- **A line that ends with no line end is left as it is.** -/
theorem trimLineEnds_of_getLast? {cs : List Char} (h : ∀ c ∈ cs.getLast?, isLineEnd c = false) :
    trimLineEnds cs = cs := by
  refine List.rdropWhile_eq_self_iff.2 fun hne => ?_
  rw [h _ (List.getLast?_eq_some_getLast hne)]
  exact Bool.false_ne_true

theorem trimLineEnds_append {c : Char} (hc : isLineEnd c = false) (before : List Char) :
    trimLineEnds (before ++ [c]) = before ++ [c] :=
  trimLineEnds_of_getLast? (by simpa using hc)

end Codec

namespace NamedRow

variable {fields : List Field} {row : NamedRow}

theorem written_of_mem {f : Field} (hf : f ∈ fields) : row.written fields = row.project fields := by
  rw [written, List.isEmpty_eq_false_iff.2 (List.ne_nil_of_mem hf)]
  rfl

theorem mem_written {f : Field} (hf : f ∈ fields) : (f.name, row.get f.name) ∈ row.written fields := by
  rw [written_of_mem hf]
  exact List.mem_map_of_mem hf

theorem eq_get_of_mem_written {f : Field} (hf : f ∈ fields) {p : String × Value} (hp : p ∈ row.written fields) :
    p.2 = row.get p.1 := by
  rw [written_of_mem hf] at hp
  obtain ⟨g, -, rfl⟩ := List.mem_map.1 hp
  rfl

/-- **A name of a declared field has its value among those that are written.** -/
theorem lookup_project {name : String} : ∀ {fields : List Field}, name ∈ fields.map Field.name →
    (row.project fields).lookup name = some (row.get name)
  | f :: fs, h => by
    rw [project, List.map_cons, List.lookup_cons]
    by_cases hf : name = f.name
    · simp [hf]
    · rw [beq_eq_false_iff_ne.2 hf]
      exact lookup_project ((List.mem_cons.1 h).resolve_left hf)

/-- **The value of a name is the first one of that name.** -/
theorem get_append {name : String} {v : Value} : ∀ {before after : NamedRow}, name ∉ before.map Prod.fst →
    NamedRow.get (before ++ (name, v) :: after) name = v
  | [], _, _ => by simp [get]
  | (other, w) :: before, after, h => by
    rw [List.map_cons, List.mem_cons, not_or] at h
    obtain ⟨hne, hrest⟩ := h
    rw [get, List.cons_append, List.lookup_cons, beq_eq_false_iff_ne.2 hne]
    exact get_append hrest

theorem getElem?_written {i : Nat} {f : Field} (hf : fields[i]? = some f) :
    (row.written fields)[i]? = some (f.name, row.get f.name) := by
  rw [written_of_mem (List.mem_of_getElem? hf), project, List.getElem?_map, hf]
  rfl

/-- **What is written is written again as it is.** -/
theorem written_written : (row.written fields).written fields = row.written fields := by
  cases fields with
  | nil => rfl
  | cons f fs =>
    have hmem : f ∈ f :: fs := List.mem_cons_self
    rw [written_of_mem hmem, written_of_mem hmem]
    refine List.map_congr_left fun g hg => ?_
    rw [get, lookup_project (List.mem_map_of_mem hg)]
    rfl

end NamedRow
end RowSql
