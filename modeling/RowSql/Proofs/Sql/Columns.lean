import Mathlib.Data.List.Nodup
import RowSql.Proofs.Expr.Reads
import RowSql.Sql.Binding
/-!
# Columns — names and the columns they are bound to

Where no two fields have one name up to the case of ASCII letters, a name is bound to the one field of that
name, wherever it stands (`columnIndex?_eq_some`).  So fields in another order bind a name to another position
at which rows in that order have the same cell (`column_alike`).
-/
namespace RowSql

/-- The name of a field as it is compared where the case of letters does not count. -/
def Field.key (f : Field) : List Char := Text.lowerAscii f.name.toList

/-- **No two fields have one name**, up to the case of ASCII letters. -/
def DistinctNames (fields : List Field) : Prop := (fields.map Field.key).Nodup

/-- **The fields with the cells of a row**; a cell that is missing is nothing. -/
def cellsOf (fields : List Field) (row : List Value) : List (Field × Value) :=
  fields.mapIdx fun i f => (f, row[i]?.getD .null)

theorem mem_cellsOf {fields : List Field} {row : List Value} {f : Field} {v : Value} :
    (f, v) ∈ cellsOf fields row ↔ ∃ i : Nat, fields[i]? = some f ∧ row[i]?.getD .null = v := by
  unfold cellsOf
  rw [List.mem_mapIdx]
  constructor
  · rintro ⟨i, hi, h⟩
    obtain ⟨rfl, rfl⟩ := Prod.mk.inj h
    exact ⟨i, List.getElem?_eq_getElem hi, rfl⟩
  · rintro ⟨i, hf, rfl⟩
    obtain ⟨hi, rfl⟩ := List.getElem?_eq_some_iff.1 hf
    exact ⟨i, hi, rfl⟩

theorem DistinctNames.perm {fields fields' : List Field} (hd : DistinctNames fields) (hp : fields.Perm fields') :
    DistinctNames fields' := (hp.map Field.key).nodup_iff.1 hd

/-- **Fields of one name stand at one place.** -/
theorem DistinctNames.place_eq {fields : List Field} (hd : DistinctNames fields) {i j : Nat} {f g : Field}
    (hi : fields[i]? = some f) (hj : fields[j]? = some g) (h : f.key = g.key) : i = j := by
  obtain ⟨hi', -⟩ := List.getElem?_eq_some_iff.1 hi
  have hlt : i < (fields.map Field.key).length := by simpa using hi'
  refine (List.getElem?_inj hlt hd).1 ?_
  rw [List.getElem?_map, List.getElem?_map, hi, hj, Option.map_some, Option.map_some, h]

namespace Sql

theorem columnIndex?_place {fields : List Field} {name : String} {i : Nat} (h : columnIndex? fields name = some i) :
    ∃ f, fields[i]? = some f ∧ f.key = Text.lowerAscii name.toList := by
  unfold columnIndex? at h
  rcases Option.or_eq_some_iff.1 h with h | ⟨-, h⟩
  · obtain ⟨hi, hf, -⟩ := List.findIdx?_eq_some_iff_getElem.1 h
    refine ⟨fields[i], List.getElem?_eq_getElem hi, ?_⟩
    rw [Field.key, eq_of_beq hf]
  · obtain ⟨hi, hf, -⟩ := List.findIdx?_eq_some_iff_getElem.1 h
    exact ⟨fields[i], List.getElem?_eq_getElem hi, eq_of_beq hf⟩

theorem columnIndex?_isSome {fields : List Field} {name : String} {f : Field} (hf : f ∈ fields)
    (hk : f.key = Text.lowerAscii name.toList) : (columnIndex? fields name).isSome = true := by
  unfold columnIndex?
  rw [Option.isSome_or, Bool.or_eq_true]
  refine .inr ?_
  rw [List.findIdx?_isSome, List.any_eq_true]
  exact ⟨f, hf, beq_iff_eq.2 hk⟩

/-- **A name is bound to the position of the field of that name.** -/
theorem columnIndex?_eq_some {fields : List Field} (hd : DistinctNames fields) {name : String} {i : Nat} :
    columnIndex? fields name = some i ↔ ∃ f, fields[i]? = some f ∧ f.key = Text.lowerAscii name.toList := by
  constructor
  · exact columnIndex?_place
  · rintro ⟨f, hf, hk⟩
    obtain ⟨j, hj⟩ := Option.isSome_iff_exists.1 (columnIndex?_isSome (List.mem_of_getElem? hf) hk)
    obtain ⟨g, hg, hgk⟩ := columnIndex?_place hj
    rw [hj, hd.place_eq hg hf (hgk.trans hk.symm)]

/-- **Two scopes bind every name alike**, and find the same functions. -/
structure Scope.Alike (R : List Value → List Value → Prop) (scope scope' : Scope) : Prop where
  registry : scope.registry = scope'.registry
  column : ∀ name, Agree (Expr.Alike R) (scope.column name) (scope'.column name)

/-- **Fields in another order bind a name alike** on rows in that order. -/
theorem column_alike (registry : Registry Function) {fields fields' : List Field} (hd : DistinctNames fields)
    (hp : fields.Perm fields') (name : String) :
    Agree (Expr.Alike fun row row' => (cellsOf fields row).Perm (cellsOf fields' row'))
      (Scope.column ⟨registry, fields⟩ name) (Scope.column ⟨registry, fields'⟩ name) := by
  have hd' := hd.perm hp
  unfold Scope.column
  by_cases hmark : paramMark.isPrefixOf name.toList = true
  · rw [if_pos hmark, if_pos hmark]
    exact Expr.Alike.param _
  · rw [if_neg hmark, if_neg hmark]
    cases hi : columnIndex? fields name with
    | none =>
      cases hj : columnIndex? fields' name with
      | none => exact Agree.error _
      | some j =>
        obtain ⟨f, hf, hk⟩ := columnIndex?_place hj
        have hs := columnIndex?_isSome (hp.symm.subset (List.mem_of_getElem? hf)) hk
        rw [hi] at hs
        cases hs
    | some i =>
      obtain ⟨f, hf, hk⟩ := columnIndex?_place hi
      obtain ⟨j, hj⟩ := List.mem_iff_getElem?.1 (hp.subset (List.mem_of_getElem? hf))
      rw [(columnIndex?_eq_some hd').2 ⟨f, hj, hk⟩]
      dsimp only
      rw [hf, hj]
      -- the cell of the field is found in the other row, and at the one place that the field has there
      intro context row row' hr
      have hm : (f, row[i]?.getD .null) ∈ cellsOf fields' row' := hr.subset (mem_cellsOf.2 ⟨i, hf, rfl⟩)
      obtain ⟨k, hk', hc⟩ := mem_cellsOf.1 hm
      obtain rfl := hd'.place_eq hk' hj rfl
      exact Expr.eval_column_eq (Expr.filled_eq_of_cell hc.symm) _ _

theorem Scope.alike_of_perm (registry : Registry Function) {fields fields' : List Field} (hd : DistinctNames fields)
    (hp : fields.Perm fields') :
    Scope.Alike (fun row row' => (cellsOf fields row).Perm (cellsOf fields' row')) ⟨registry, fields⟩
      ⟨registry, fields'⟩ :=
  ⟨rfl, column_alike registry hd hp⟩

end Sql
end RowSql
