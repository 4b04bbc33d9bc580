import RowSql.Proofs.Value.Order
/-!
# Sameness — values that are the same

Without floats two values are the same if they have the same content (`same_iff`): numbers are told by their
value, whatever kind or scale they come in, texts and truth values as they are, arrays and rows by their parts
in order.  So sameness is an equivalence, and equality is the same relation among the values that are there.
-/
namespace RowSql

/-- **What a value says**, numbers by their value. -/
inductive Content where
  | absent
  | truth (b : Bool)
  | number (q : ℚ)
  /-- A float stands for itself. -/
  | float (x : Float)
  | text (s : String)
  | array (items : List Content)
  | row (fields : List (String × Content))

namespace Value

mutual

/-- **The content of a value.** -/
def content : Value → Content
  | .null => .absent
  | .bool b => .truth b
  | .int n => .number n.toInt
  | .decimal d => .number d.value
  | .float x => .float x
  | .text s => .text s
  | .array items => .array (contentItems items)
  | .row fields => .row (contentFields fields)

def contentItems : List Value → List Content
  | [] => []
  | v :: vs => v.content :: contentItems vs

def contentFields : List (String × Value) → List (String × Content)
  | [] => []
  | (name, v) :: rest => (name, v.content) :: contentFields rest

end

mutual

/-- **No float is in a value**, at any depth. -/
def FloatFree : Value → Prop
  | .null => True
  | .bool _ => True
  | .int _ => True
  | .decimal _ => True
  | .float _ => False
  | .text _ => True
  | .array items => FloatFreeItems items
  | .row fields => FloatFreeFields fields

def FloatFreeItems : List Value → Prop
  | [] => True
  | v :: vs => FloatFree v ∧ FloatFreeItems vs

def FloatFreeFields : List (String × Value) → Prop
  | [] => True
  | (_, v) :: rest => FloatFree v ∧ FloatFreeFields rest

end

theorem floatFreeItems_iff : ∀ {items : List Value}, FloatFreeItems items ↔ ∀ v ∈ items, v.FloatFree
  | [] => by simp [FloatFreeItems]
  | v :: vs => by rw [FloatFreeItems, floatFreeItems_iff, List.forall_mem_cons]

theorem floatFreeItems_nil : FloatFreeItems [] := trivial

theorem FloatFree.singleton {v : Value} (hv : v.FloatFree) : FloatFreeItems [v] := ⟨hv, trivial⟩

theorem FloatFreeItems.append {s t : List Value} (hs : FloatFreeItems s) (ht : FloatFreeItems t) :
    FloatFreeItems (s ++ t) :=
  floatFreeItems_iff.2 (List.forall_mem_append.2 ⟨floatFreeItems_iff.1 hs, floatFreeItems_iff.1 ht⟩)

/-- The content of a number is its value. -/
theorem content_of_isNumber {v : Value} (h : v.isNumber = true) (hv : v.FloatFree) :
    ∃ q, v.number? = some q ∧ v.content = .number q := by
  cases v with
  | int n => exact ⟨n.toInt, by rw [number?, toDecimal?, Option.map_some, Decimal.value_ofWhole], by rw [content]⟩
  | decimal d => exact ⟨d.value, rfl, by rw [content]⟩
  | float x => exact hv.elim
  | _ => cases h

theorem isFloat_of_floatFree {v : Value} (hv : v.FloatFree) : v.isFloat = false := by
  cases v with
  | float x => exact hv.elim
  | _ => rfl

theorem same_of_numbers {a b : Value} (ha : a.isNumber = true) (hb : b.isNumber = true) :
    same a b = (numberOrder? a b == some .eq) := by
  rw [same.eq_def]
  split
  all_goals first | cases ha | rw [ha, hb, Bool.true_and, Bool.true_and]

theorem same_numbers_iff {a b : Value} (ha : a.isNumber = true) (hb : b.isNumber = true) (hfa : a.FloatFree)
    (hfb : b.FloatFree) : same a b = true ↔ a.content = b.content := by
  obtain ⟨x, hx, hcontent⟩ := content_of_isNumber ha hfa
  obtain ⟨y, hy, hcontent'⟩ := content_of_isNumber hb hfb
  rw [same_of_numbers ha hb, numberOrder?_eq (isFloat_of_floatFree hfa), hx, hy, hcontent, hcontent',
    Content.number.injEq]
  simp

mutual

/-- **Values are the same if they have the same content.** -/
theorem same_iff : ∀ {a b : Value}, a.FloatFree → b.FloatFree → (same a b = true ↔ a.content = b.content)
  | .null, b, _, _ => by cases b <;> simp [same, content, isNumber]
  | .bool _, b, _, _ => by cases b <;> simp [same, content, isNumber]
  | .int m, b, ha, hb => by
    cases b with
    | int n => exact same_numbers_iff rfl rfl ha hb
    | decimal e => exact same_numbers_iff rfl rfl ha hb
    | float x => exact hb.elim
    | _ => simp [same, content, isNumber]
  | .decimal d, b, ha, hb => by
    cases b with
    | int n => exact same_numbers_iff rfl rfl ha hb
    | decimal e => exact same_numbers_iff rfl rfl ha hb
    | float x => exact hb.elim
    | _ => simp [same, content, isNumber]
  | .text _, b, _, _ => by cases b <;> simp [same, content, isNumber]
  | .array as, b, ha, hb => by
    cases b with
    | array bs => rw [same, content, content, Content.array.injEq, sameItems_iff ha hb]
    | _ => simp [same, content, isNumber]
  | .row as, b, ha, hb => by
    cases b with
    | row bs => rw [same, content, content, Content.row.injEq, sameFields_iff ha hb]
    | _ => simp [same, content, isNumber]

theorem sameItems_iff : ∀ {as bs : List Value}, FloatFreeItems as → FloatFreeItems bs →
    (sameItems as bs = true ↔ contentItems as = contentItems bs)
  | [], bs, _, _ => by cases bs <;> simp [sameItems, contentItems]
  | a :: as, bs, ha, hb => by
    cases bs with
    | nil => simp [sameItems, contentItems]
    | cons b bs =>
      rw [sameItems, Bool.and_eq_true, same_iff ha.1 hb.1, sameItems_iff ha.2 hb.2, contentItems, contentItems,
        List.cons.injEq]

theorem sameFields_iff : ∀ {as bs : List (String × Value)}, FloatFreeFields as → FloatFreeFields bs →
    (sameFields as bs = true ↔ contentFields as = contentFields bs)
  | [], bs, _, _ => by cases bs <;> simp [sameFields, contentFields]
  | (j, a) :: as, bs, ha, hb => by
    cases bs with
    | nil => simp [sameFields, contentFields]
    | cons field bs =>
      obtain ⟨k, b⟩ := field
      rw [sameFields, Bool.and_eq_true, Bool.and_eq_true, beq_iff_eq, same_iff ha.1 hb.1, sameFields_iff ha.2 hb.2,
        contentFields, contentFields, List.cons.injEq, Prod.mk.injEq]

end

theorem equal_iff {a b : Value} : equal a b = true ↔ a ≠ .null ∧ b ≠ .null ∧ same a b = true := by
  have hnull : ∀ v : Value, (!v.isNull) = true ↔ v ≠ .null := fun v => by cases v <;> simp [isNull]
  rw [equal, Bool.and_eq_true, Bool.and_eq_true, hnull, hnull, and_assoc]

/-- Among values that are there equality is sameness. -/
theorem equal_of_present {v : Value} (hv : v.isNull = false) (w : Value) : w.equal v = w.same v := by
  cases w with
  | null =>
    cases v with
    | null => cases hv
    | _ => rfl
  | _ =>
    rw [equal, hv]
    rfl

/-- **Sameness is an equivalence of the values without floats**, that of having one content, and equality is
sameness where neither value is nothing. -/
theorem same_equivalence :
    Equivalence (fun a b : {v : Value // v.FloatFree} => same a b = true) ∧
    ∀ a b : {v : Value // v.FloatFree},
      (same a b = true ↔ content a = content b) ∧
      (equal a b = true ↔ a.1 ≠ .null ∧ b.1 ≠ .null ∧ same a b = true) := by
  have hcontent (a b : {v : Value // v.FloatFree}) : same a b = true ↔ content a = content b := same_iff a.2 b.2
  refine ⟨⟨fun a => (hcontent a a).2 rfl, fun {a b} hab => ?_, fun {a b c} hab hbc => ?_⟩,
    fun a b => ⟨hcontent a b, equal_iff⟩⟩
  · exact (hcontent b a).2 ((hcontent a b).1 hab).symm
  · exact (hcontent a c).2 (((hcontent a b).1 hab).trans ((hcontent b c).1 hbc))

example : same (array [int 2, null]) (array [decimal ⟨200, 2⟩, null]) = true := by decide +kernel

end Value
end RowSql
