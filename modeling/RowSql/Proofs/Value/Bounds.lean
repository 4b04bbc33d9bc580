import RowSql.Json.Values
import RowSql.Proofs.Avro.Datum
import RowSql.Proofs.Json.Numbers
import RowSql.Proofs.Number.FloatText
/-!
# Bounds — numbers at any depth of a value

A value is bounded when at whatever depth every decimal in it has a scale within the limit of those from data
and every float in it is finite (`Bounded`).  The value of a document whose floats are finite is bounded
(`bounded_ofJson`), and so is that of any Avro datum (`bounded_toValue`).  The program can halt over the text of
an Avro decimal, but over no number of a document (`Json.not_halts_number`).
-/
namespace RowSql

namespace Value

/-- **A value is part of another**, at any depth. -/
inductive Part (p : Value) : Value → Prop
  | self : Part p p
  | item {v : Value} {items : List Value} (hmem : v ∈ items) (h : Part p v) : Part p (.array items)
  | field {k : String} {v : Value} {fields : List (String × Value)} (hmem : (k, v) ∈ fields) (h : Part p v) :
    Part p (.row fields)

/-- The scale of a decimal is within the limit, and a float is finite. -/
def Within : Value → Prop
  | .decimal d => d.scale.natAbs ≤ Decimal.scaleLimit
  | .float x => x.isFinite = true
  | _ => True

/-- **Every decimal in a value has a scale within the limit, and every float in it is finite.** -/
def Bounded (v : Value) : Prop := ∀ p, Part p v → p.Within

theorem bounded_leaf {v : Value} (h : v.Within) (harray : ∀ items, v ≠ .array items)
    (hrow : ∀ fields, v ≠ .row fields) :
    v.Bounded := by
  intro p hp
  cases hp with
  | self => exact h
  | item => exact absurd rfl (harray _)
  | field => exact absurd rfl (hrow _)

theorem bounded_null : Bounded .null := bounded_leaf trivial nofun nofun

theorem bounded_text (s : String) : Bounded (.text s) := bounded_leaf trivial nofun nofun

theorem bounded_int (n : Whole) : Bounded (.int n) := bounded_leaf trivial nofun nofun

theorem bounded_bool (b : Bool) : Bounded (.bool b) := bounded_leaf trivial nofun nofun

theorem bounded_decimal {d : Decimal} (h : d.scale.natAbs ≤ Decimal.scaleLimit) : Bounded (.decimal d) :=
  bounded_leaf h nofun nofun

theorem bounded_float {x : Float} (h : x.isFinite = true) : Bounded (.float x) := bounded_leaf h nofun nofun

theorem bounded_array {items : List Value} (h : ∀ v ∈ items, v.Bounded) : Bounded (.array items) := by
  intro p hp
  cases hp with
  | self => trivial
  | item hmem hp => exact h _ hmem p hp

theorem bounded_row {fields : List (String × Value)} (h : ∀ f ∈ fields, f.2.Bounded) : Bounded (.row fields) := by
  intro p hp
  cases hp with
  | self => trivial
  | field hmem hp => exact h _ hmem p hp

theorem bounded_ofText? (s : Option String) : (ofText? s).Bounded := by
  cases s with
  | none => exact bounded_null
  | some s => exact bounded_text s

theorem bounded_ofDecimal? {d : Option Decimal} (h : ∀ e, d = some e → e.scale.natAbs ≤ Decimal.scaleLimit) :
    (ofDecimal? d).Bounded := by
  cases d with
  | none => exact bounded_null
  | some e => exact bounded_decimal (h e rfl)

theorem bounded_ofFinite (x : Float) : (ofFinite x).Bounded := by
  unfold ofFinite
  by_cases h : x.isFinite = true
  · rw [if_pos h]
    exact bounded_float h
  · rw [if_neg h]
    exact bounded_null

theorem bounded_getD {o : Option Value} (h : ∀ v, o = some v → v.Bounded) : (o.getD .null).Bounded := by
  cases o with
  | none => exact bounded_null
  | some v => exact h v rfl

end Value

/-! ## Documents -/

/-- **The program halts over no number of a document.** -/
theorem Json.not_halts_number (n : Int) (x : Float) :
    Decimal.halts (toString n) = false ∧ Decimal.halts (FloatText.text .json x) = false :=
  ⟨Decimal.not_halts_of_ofText? (Decimal.ofText?_toString_int n), FloatText.not_halts_text x⟩

namespace Value

mutual

/-- **The numbers in the value of a document are bounded** if its floats are finite. -/
theorem bounded_ofJson : ∀ {j : Json}, j.Finite → (ofJson j).Bounded
  | .null, _ => bounded_null
  | .bool b, _ => bounded_bool b
  | .int n, _ => by
    rw [ofJson, Decimal.ofText?_toString_int]
    split
    · exact bounded_int _
    · exact bounded_decimal (Nat.zero_le _)
  | .float x, h => by
    rw [ofJson]
    split
    · rename_i hread
      exact bounded_decimal (Decimal.scale_of_ofText? hread)
    · exact bounded_float h
  | .text s, _ => bounded_text s
  | .array _, h => bounded_array (bounded_ofJsonItems h)
  | .object _, h => bounded_row (bounded_ofJsonMembers h)

theorem bounded_ofJsonItems : ∀ {js : List Json}, Json.FiniteItems js → ∀ v ∈ ofJsonItems js, v.Bounded
  | [], _ => List.forall_mem_nil _
  | _ :: _, ⟨hj, hjs⟩ => List.forall_mem_cons.2 ⟨bounded_ofJson hj, bounded_ofJsonItems hjs⟩

theorem bounded_ofJsonMembers : ∀ {ms : List (String × Json)}, Json.FiniteMembers ms →
    ∀ f ∈ ofJsonMembers ms, f.2.Bounded
  | [], _ => List.forall_mem_nil _
  | (_, _) :: _, ⟨hj, hms⟩ => List.forall_mem_cons.2 ⟨bounded_ofJson hj, bounded_ofJsonMembers hms⟩

end

end Value

/-! ## Avro data -/

namespace Avro.Datum

open Value (bounded_null bounded_bool bounded_int bounded_text bounded_array bounded_row bounded_ofFinite
  bounded_ofDecimal?)

mutual

/-- **The numbers in the value of a datum are bounded.** -/
theorem bounded_toValue : ∀ d : Datum, d.toValue.Bounded
  | .null => bounded_null
  | .boolean b => bounded_bool b
  | .number n => bounded_int n
  | .float x => bounded_ofFinite x
  | .bytes _ => bounded_text _
  | .text s => bounded_text s
  | .array items => bounded_array (bounded_toValues items)
  | .map entries => bounded_row fun f hf => bounded_toMembers entries f ((byKey_perm _).mem_iff.1 hf)
  | .record fields => bounded_row (bounded_toMembers fields)
  | .union _ d => bounded_toValue d
  | .decimal _ => bounded_ofDecimal? fun _ he => Decimal.scale_of_ofText? he
  | .duration _ _ _ => bounded_null

theorem bounded_toValues : ∀ ds : List Datum, ∀ v ∈ toValues ds, v.Bounded
  | [] => List.forall_mem_nil _
  | d :: ds => List.forall_mem_cons.2 ⟨bounded_toValue d, bounded_toValues ds⟩

theorem bounded_toMembers : ∀ entries : List (String × Datum), ∀ f ∈ toMembers entries, f.2.Bounded
  | [] => List.forall_mem_nil _
  | (_, d) :: entries => List.forall_mem_cons.2 ⟨bounded_toValue d, bounded_toMembers entries⟩

end

end Avro.Datum

end RowSql
