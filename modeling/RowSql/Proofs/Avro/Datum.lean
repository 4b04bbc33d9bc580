import RowSql.Codec.AvroRows
import RowSql.Proofs.Json.Objects
import RowSql.Proofs.Keys
/-!
# Datum — maps in any order

The entries of a map come in an order that means nothing.  The value of a datum does not tell it
(`toValue_of_rearranged`): entries under distinct keys have one arrangement in ascending order
(`byKey_of_perm`), and the entries of maps inside their values are put in order before.  The fields of a record
keep their order.
-/
namespace RowSql
namespace Avro
namespace Datum

open Json (Ascending)

mutual

/-- **Two data are one up to the order of the entries of maps**, anywhere inside. -/
inductive Rearranged : Datum → Datum → Prop
  | refl (d : Datum) : Rearranged d d
  | array {items items' : List Datum} (h : RearrangedItems items items') : Rearranged (.array items) (.array items')
  | map {entries entries' enumerated : List (String × Datum)} (hkeys : DistinctKeys entries)
      (h : RearrangedMembers entries entries') (hperm : entries'.Perm enumerated) :
        Rearranged (.map entries) (.map enumerated)
  | record {fields fields' : List (String × Datum)} (h : RearrangedMembers fields fields') :
      Rearranged (.record fields) (.record fields')
  | union {d e : Datum} (index : Nat) (h : Rearranged d e) : Rearranged (.union index d) (.union index e)

inductive RearrangedItems : List Datum → List Datum → Prop
  | nil : RearrangedItems [] []
  | cons {d e : Datum} {ds es : List Datum} (h : Rearranged d e) (hs : RearrangedItems ds es) :
      RearrangedItems (d :: ds) (e :: es)

/-- The same names in the same order. -/
inductive RearrangedMembers : List (String × Datum) → List (String × Datum) → Prop
  | nil : RearrangedMembers [] []
  | cons (name : String) {d e : Datum} {ds es : List (String × Datum)} (h : Rearranged d e)
    (hs : RearrangedMembers ds es) :
      RearrangedMembers ((name, d) :: ds) ((name, e) :: es)

end

/-! ## Members in order -/

variable {members others : List (String × Value)}

theorem byKey_perm (members : List (String × Value)) : (byKey members).Perm members := List.mergeSort_perm _ _

/-- **Members under distinct keys are put in ascending order.** -/
theorem ascending_byKey (h : DistinctKeys members) : Ascending (byKey members) := by
  have hsorted : (byKey members).Pairwise fun p q => decide (p.1 ≤ q.1) = true :=
    List.pairwise_mergeSort (fun p q r hpq hqr => by
      simp only [decide_eq_true_eq] at *
      exact String.le_trans hpq hqr) (fun p q => by simpa using String.le_total p.1 q.1) members
  have hdistinct : (byKey members).Pairwise fun p q => p.1 ≠ q.1 :=
    List.pairwise_map.1 (h.perm (byKey_perm members).symm)
  refine (hsorted.and hdistinct).imp fun {p q} hpq => ?_
  obtain ⟨hle, hne⟩ := hpq
  by_cases hlt : p.1 < q.1
  · exact hlt
  · exact absurd (String.le_antisymm (of_decide_eq_true hle) (String.not_lt.1 hlt)) hne

/-- **There is one arrangement in ascending order**, whatever the order before. -/
theorem byKey_of_perm (h : DistinctKeys members) (hperm : members.Perm others) : byKey members = byKey others := by
  have hothers : Ascending (byKey others) := ascending_byKey (h.perm hperm)
  refine List.Perm.eq_of_pairwise (fun p q _ _ hpq hqp => ?_) (ascending_byKey h) hothers
    ((byKey_perm members).trans (hperm.trans (byKey_perm others).symm))
  exact absurd hqp (String.lt_asymm hpq)

/-! ## Values -/

theorem toMembers_eq_map :
    ∀ entries : List (String × Datum), toMembers entries = entries.map fun e => (e.1, e.2.toValue)
  | [] => rfl
  | (k, d) :: entries => by rw [toMembers, toMembers_eq_map entries, List.map_cons]

theorem distinctKeys_toMembers {entries : List (String × Datum)} (h : DistinctKeys entries) :
    DistinctKeys (toMembers entries) := by
  rw [DistinctKeys, toMembers_eq_map, List.map_map]
  exact h

mutual

/-- **The value of a datum does not tell the order of the entries of its maps.** -/
theorem Rearranged.toValue_eq : ∀ {d e : Datum}, Rearranged d e → d.toValue = e.toValue
  | _, _, .refl _ => rfl
  | _, _, .array h => by rw [toValue, toValue, h.toValues_eq]
  | .map entries, .map enumerated, .map hkeys h hperm => by
    have hvalues : (toMembers entries).Perm (toMembers enumerated) := by
      rw [h.toMembers_eq, toMembers_eq_map, toMembers_eq_map]
      exact hperm.map _
    rw [toValue, toValue, byKey_of_perm (distinctKeys_toMembers hkeys) hvalues]
  | _, _, .record h => by rw [toValue, toValue, h.toMembers_eq]
  | _, _, .union _ h => by rw [toValue, toValue, h.toValue_eq]

theorem RearrangedItems.toValues_eq : ∀ {ds es : List Datum}, RearrangedItems ds es → toValues ds = toValues es
  | _, _, .nil => rfl
  | _, _, .cons h hs => by rw [toValues, toValues, h.toValue_eq, hs.toValues_eq]

theorem RearrangedMembers.toMembers_eq : ∀ {ds es : List (String × Datum)}, RearrangedMembers ds es →
    toMembers ds = toMembers es
  | _, _, .nil => rfl
  | _, _, .cons _ h hs => by rw [toMembers, toMembers, h.toValue_eq, hs.toMembers_eq]

end

/-! ## Halting -/

theorem entriesHalt_eq_any : ∀ entries : List (String × Datum), entriesHalt entries = entries.any fun e => e.2.halts
  | [] => rfl
  | (_, d) :: entries => by rw [entriesHalt, entriesHalt_eq_any entries, List.any_cons]

mutual

/-- **Whether the program halts does not tell the order of the entries of maps.** -/
theorem Rearranged.halts_eq : ∀ {d e : Datum}, Rearranged d e → d.halts = e.halts
  | _, _, .refl _ => rfl
  | _, _, .array h => by rw [halts, halts, h.halts_eq]
  | .map _, .map _, .map _ h hperm => by
    rw [halts, halts, h.entriesHalt_eq, entriesHalt_eq_any, entriesHalt_eq_any, hperm.any_eq]
  | _, _, .record h => by rw [halts, halts, h.entriesHalt_eq]
  | _, _, .union _ h => by rw [halts, halts, h.halts_eq]

theorem RearrangedItems.halts_eq : ∀ {ds es : List Datum}, RearrangedItems ds es → itemsHalt ds = itemsHalt es
  | _, _, .nil => rfl
  | _, _, .cons h hs => by rw [itemsHalt, itemsHalt, h.halts_eq, hs.halts_eq]

theorem RearrangedMembers.entriesHalt_eq : ∀ {ds es : List (String × Datum)}, RearrangedMembers ds es →
    entriesHalt ds = entriesHalt es
  | _, _, .nil => rfl
  | _, _, .cons _ h hs => by rw [entriesHalt, entriesHalt, h.halts_eq, hs.entriesHalt_eq]

end

/-- The row of a map has its entries with their values, and has them in ascending order. -/
theorem toValue_map {entries : List (String × Datum)} (h : DistinctKeys entries) :
    ∃ members, toValue (.map entries) = .row members ∧ Ascending members ∧
      members.Perm (entries.map fun e => (e.1, e.2.toValue)) := by
  refine ⟨byKey (toMembers entries), by rw [toValue], ascending_byKey (distinctKeys_toMembers h), ?_⟩
  rw [← toMembers_eq_map]
  exact byKey_perm _

/-! ## Rows -/

theorem lookup_toMembers (name : String) : ∀ entries : List (String × Datum),
    (toMembers entries).lookup name = (entries.lookup name).map toValue
  | [] => rfl
  | (k, d) :: entries => by
    rw [toMembers, List.lookup_cons, List.lookup_cons, lookup_toMembers name entries]
    split <;> rfl

theorem RearrangedMembers.lookup_halts_eq (name : String) : ∀ {ds es : List (String × Datum)}, RearrangedMembers ds es →
    (ds.lookup name).any halts = (es.lookup name).any halts
  | _, _, .nil => rfl
  | _, _, .cons _ h hs => by
    rw [List.lookup_cons, List.lookup_cons]
    split
    · exact h.halts_eq
    · exact hs.lookup_halts_eq name

theorem row_record (declared : List Field) (fields : List (String × Datum)) :
    AvroRows.row declared (.record fields) =
      if declared.any fun f => (fields.lookup f.path).any halts then .error .halt
      else .ok (declared.map fun f => ((toMembers fields).lookup f.path).getD .null) := by
  simp only [AvroRows.row, fields?, lookup_toMembers]

theorem Rearranged.row_eq {d e : Datum} (h : Rearranged d e) (declared : List Field) :
    AvroRows.row declared d = AvroRows.row declared e := by
  cases h with
  | refl => rfl
  | record h =>
    have hhalts := funext fun f : Field => h.lookup_halts_eq f.path
    rw [row_record, row_record, h.toMembers_eq, hhalts]
  | array | map | union => rfl

/-- **Maps are read in whatever order**: two data that are one up to the order of the entries of maps have one
value and give one row, and the row of every map has its entries in strictly ascending order of their keys. -/
theorem toValue_of_rearranged :
    (∀ d e : Datum, Rearranged d e → d.toValue = e.toValue ∧
      ∀ declared, AvroRows.row declared d = AvroRows.row declared e) ∧
    ∀ entries : List (String × Datum), DistinctKeys entries → ∃ members, toValue (.map entries) = .row members ∧
      Ascending members ∧ members.Perm (entries.map fun e => (e.1, e.2.toValue)) :=
  ⟨fun _ _ h => ⟨h.toValue_eq, h.row_eq⟩, fun _ => toValue_map⟩

/-- The sizes of a shirt by colour, in a list of one. -/
def sizes (entries : List (String × Datum)) : Datum := .union 1 (.array [.map entries])

/-- A record of two fields, of which the first holds a map of maps. -/
def shirts (entries : List (String × Datum)) : Datum := .record [("sizes", .map entries), ("name", .text "shirt")]

theorem toValue_of_rearranged_shirts :
    Rearranged
      (shirts [("red", sizes [("m", .boolean true), ("l", .null)]), ("blue", .null)])
      (shirts [("blue", .null), ("red", sizes [("l", .null), ("m", .boolean true)])]) ∧
    toValue (shirts [("red", sizes [("m", .boolean true), ("l", .null)]), ("blue", .null)]) =
      toValue (shirts [("blue", .null), ("red", sizes [("l", .null), ("m", .boolean true)])]) ∧
    DistinctKeys [("m", Datum.boolean true), ("l", .null)] ∧
    ∃ members, toValue (.map [("m", .boolean true), ("l", .null)]) = .row members ∧ Ascending members := by
  have hinner : Rearranged (sizes [("m", .boolean true), ("l", .null)])
      (sizes [("l", .null), ("m", .boolean true)]) := by
    refine .union 1 (.array (.cons (.map (by decide) (.cons "m" (.refl _) (.cons "l" (.refl _) .nil)) ?_) .nil))
    exact List.Perm.swap _ _ []
  have houter : Rearranged
      (shirts [("red", sizes [("m", .boolean true), ("l", .null)]), ("blue", .null)])
      (shirts [("blue", .null), ("red", sizes [("l", .null), ("m", .boolean true)])]) := by
    refine .record (.cons "sizes" (.map (by decide) (.cons "red" hinner (.cons "blue" (.refl _) .nil)) ?_)
      (.cons "name" (.refl _) .nil))
    exact List.Perm.swap _ _ []
  have hkeys : DistinctKeys [("m", Datum.boolean true), ("l", .null)] := by decide
  obtain ⟨members, hrow, horder, -⟩ := toValue_of_rearranged.2 _ hkeys
  exact ⟨houter, (toValue_of_rearranged.1 _ _ houter).1, hkeys, members, hrow, horder⟩

end Datum
end Avro
end RowSql
