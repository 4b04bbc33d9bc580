import RowSql.Json.Values
import RowSql.Proofs.Json.Reader
/-!
# Values — values that documents give back

A value without decimals and floats, whose rows are in ascending order of names, is the value of its document
(`ofJson_toJson`), and the document is one that its text gives back (`exact_toJson`).  A decimal is not: a whole
one comes back as a word.  A row out of order is not either: its document has it in order.

The documents of such values are those whose numbers are words, and each of them is the document of its value
(`toJson_ofJson`); so documents and values of these two kinds stand for each other (`json_inverse`).  A greater
number is not the document of its value, which is a decimal.
-/
namespace RowSql

namespace Json

mutual

/-- **A document whose numbers are all words.** -/
def Worded : Json → Prop
  | .null => True
  | .bool _ => True
  | .int n => Whole.least ≤ n ∧ n ≤ Whole.greatest
  | .float _ => False
  | .text _ => True
  | .array items => WordedItems items
  | .object members => Ascending members ∧ WordedMembers members

def WordedItems : List Json → Prop
  | [] => True
  | j :: js => Worded j ∧ WordedItems js

def WordedMembers : List (String × Json) → Prop
  | [] => True
  | (_, j) :: ms => Worded j ∧ WordedMembers ms

end

mutual

/-- **A document whose numbers are words is read back from its text**, in which numbers may be greater. -/
theorem Worded.exact : ∀ {j : Json}, j.Worded → j.Exact
  | .null, _ => trivial
  | .bool _, _ => trivial
  | .int _, ⟨hlow, hhigh⟩ => ⟨hlow, Int.lt_of_le_of_lt hhigh (by decide)⟩
  | .text _, _ => trivial
  | .array _, h => WordedItems.exact h
  | .object _, ⟨horder, h⟩ => ⟨horder, WordedMembers.exact h⟩

theorem WordedItems.exact : ∀ {js : List Json}, WordedItems js → ExactItems js
  | [], _ => trivial
  | _ :: _, ⟨hj, hjs⟩ => ⟨hj.exact, WordedItems.exact hjs⟩

theorem WordedMembers.exact : ∀ {ms : List (String × Json)}, WordedMembers ms → ExactMembers ms
  | [], _ => trivial
  | (_, _) :: _, ⟨hj, hms⟩ => ⟨hj.exact, WordedMembers.exact hms⟩

end

end Json

namespace Value

open Json (Ascending Worded WordedItems WordedMembers)

mutual

/-- **A value that its document gives back.** -/
def Exact : Value → Prop
  | .null => True
  | .bool _ => True
  | .int _ => True
  | .decimal _ => False
  | .float _ => False
  | .text _ => True
  | .array items => ExactItems items
  | .row fields => Ascending fields ∧ ExactFields fields

def ExactItems : List Value → Prop
  | [] => True
  | v :: vs => Exact v ∧ ExactItems vs

def ExactFields : List (String × Value) → Prop
  | [] => True
  | (_, v) :: fs => Exact v ∧ ExactFields fs

end

theorem toJsonFields_eq_map :
    ∀ fields : List (String × Value), toJsonFields fields = fields.map fun p => (p.1, p.2.toJson)
  | [] => rfl
  | (k, v) :: fs => by rw [toJsonFields, toJsonFields_eq_map fs, List.map_cons]

/-- The document of a row in order has its members as they stand. -/
theorem toJson_row {fields : List (String × Value)} (h : Ascending fields) :
    Ascending (toJsonFields fields) ∧ toJson (.row fields) = .object (toJsonFields fields) := by
  have hmembers : Ascending (toJsonFields fields) := by
    rw [toJsonFields_eq_map]
    exact List.pairwise_map.2 h
  exact ⟨hmembers, Json.ofPairs_eq hmembers⟩

mutual

/-- **A value is the value of its document.** -/
theorem ofJson_toJson : ∀ {v : Value}, v.Exact → ofJson v.toJson = v
  | .null, _ => rfl
  | .bool _, _ => rfl
  | .int n, _ => by rw [toJson, ofJson, Whole.ofInt?_toInt]
  | .text _, _ => rfl
  | .array items, h => by rw [toJson, ofJson, ofJsonItems_toJsonItems h]
  | .row fields, ⟨horder, h⟩ => by rw [(toJson_row horder).2, ofJson, ofJsonMembers_toJsonFields h]

theorem ofJsonItems_toJsonItems : ∀ {vs : List Value}, ExactItems vs → ofJsonItems (toJsonItems vs) = vs
  | [], _ => rfl
  | v :: vs, ⟨hv, hvs⟩ => by rw [toJsonItems, ofJsonItems, ofJson_toJson hv, ofJsonItems_toJsonItems hvs]

theorem ofJsonMembers_toJsonFields : ∀ {fs : List (String × Value)}, ExactFields fs →
    ofJsonMembers (toJsonFields fs) = fs
  | [], _ => rfl
  | (k, v) :: fs, ⟨hv, hfs⟩ => by
    rw [toJsonFields, ofJsonMembers, ofJson_toJson hv, ofJsonMembers_toJsonFields hfs]

end

mutual

/-- **The numbers in the document of a value are words.** -/
theorem worded_toJson : ∀ {v : Value}, v.Exact → v.toJson.Worded
  | .null, _ => trivial
  | .bool _, _ => trivial
  | .int n, _ => Whole.toInt_inRange n
  | .text _, _ => trivial
  | .array _, h => wordedItems_toJsonItems h
  | .row fields, ⟨horder, h⟩ => by
    obtain ⟨hmembers, hobject⟩ := toJson_row horder
    rw [hobject]
    exact ⟨hmembers, wordedMembers_toJsonFields h⟩

theorem wordedItems_toJsonItems : ∀ {vs : List Value}, ExactItems vs → WordedItems (toJsonItems vs)
  | [], _ => trivial
  | _ :: _, ⟨hv, hvs⟩ => ⟨worded_toJson hv, wordedItems_toJsonItems hvs⟩

theorem wordedMembers_toJsonFields : ∀ {fs : List (String × Value)}, ExactFields fs → WordedMembers (toJsonFields fs)
  | [], _ => trivial
  | (_, _) :: _, ⟨hv, hfs⟩ => ⟨worded_toJson hv, wordedMembers_toJsonFields hfs⟩

end

/-- **The document of a value is one that its text gives back.** -/
theorem exact_toJson {v : Value} (h : v.Exact) : v.toJson.Exact := (worded_toJson h).exact

/-! ## Documents that values give back -/

theorem ofJsonMembers_eq_map :
    ∀ members : List (String × Json), ofJsonMembers members = members.map fun p => (p.1, ofJson p.2)
  | [] => rfl
  | (k, j) :: ms => by rw [ofJsonMembers, ofJsonMembers_eq_map ms, List.map_cons]

theorem ascending_ofJsonMembers {members : List (String × Json)} (h : Ascending members) :
    Ascending (ofJsonMembers members) := by
  rw [ofJsonMembers_eq_map]
  exact List.pairwise_map.2 h

theorem ofJson_int {n : Int} (h : Whole.least ≤ n ∧ n ≤ Whole.greatest) :
    ∃ w : Whole, w.toInt = n ∧ ofJson (.int n) = .int w := by
  obtain ⟨w, hw⟩ := Option.isSome_iff_exists.1 (Whole.ofInt?_isSome.2 h)
  exact ⟨w, Whole.toInt_ofInt? hw, by rw [ofJson, hw]⟩

mutual

/-- **A document whose numbers are words is the document of its value**, which is one that its document gives back. -/
theorem toJson_ofJson : ∀ {j : Json}, j.Worded → (ofJson j).Exact ∧ toJson (ofJson j) = j
  | .null, _ => ⟨trivial, rfl⟩
  | .bool _, _ => ⟨trivial, rfl⟩
  | .int n, h => by
    obtain ⟨w, hw, hvalue⟩ := ofJson_int h
    rw [hvalue]
    exact ⟨trivial, by rw [toJson, hw]⟩
  | .text _, _ => ⟨trivial, rfl⟩
  | .array items, h => by
    obtain ⟨hexact, hitems⟩ := toJsonItems_ofJsonItems h
    exact ⟨hexact, by rw [ofJson, toJson, hitems]⟩
  | .object members, ⟨horder, h⟩ => by
    obtain ⟨hexact, hmembers⟩ := toJsonFields_ofJsonMembers h
    have hfields := ascending_ofJsonMembers horder
    exact ⟨⟨hfields, hexact⟩, by rw [ofJson, (toJson_row hfields).2, hmembers]⟩

theorem toJsonItems_ofJsonItems : ∀ {js : List Json}, WordedItems js →
    ExactItems (ofJsonItems js) ∧ toJsonItems (ofJsonItems js) = js
  | [], _ => ⟨trivial, rfl⟩
  | _ :: _, ⟨hj, hjs⟩ => by
    obtain ⟨hexact, hfirst⟩ := toJson_ofJson hj
    obtain ⟨hexacts, hrest⟩ := toJsonItems_ofJsonItems hjs
    exact ⟨⟨hexact, hexacts⟩, by rw [ofJsonItems, toJsonItems, hfirst, hrest]⟩

theorem toJsonFields_ofJsonMembers : ∀ {ms : List (String × Json)}, WordedMembers ms →
    ExactFields (ofJsonMembers ms) ∧ toJsonFields (ofJsonMembers ms) = ms
  | [], _ => ⟨trivial, rfl⟩
  | (_, _) :: _, ⟨hj, hms⟩ => by
    obtain ⟨hexact, hfirst⟩ := toJson_ofJson hj
    obtain ⟨hexacts, hrest⟩ := toJsonFields_ofJsonMembers hms
    exact ⟨⟨hexact, hexacts⟩, by rw [ofJsonMembers, toJsonFields, hfirst, hrest]⟩

end

/-- **Documents whose numbers are words and values that documents give back stand for each other**: from either
kind there and back is the same again. -/
theorem json_inverse :
    (∀ j : Json, j.Worded → (ofJson j).Exact ∧ toJson (ofJson j) = j) ∧
    (∀ v : Value, v.Exact → v.toJson.Worded ∧ ofJson v.toJson = v) :=
  ⟨fun _ h => toJson_ofJson h, fun _ h => ⟨worded_toJson h, ofJson_toJson h⟩⟩

/-- A document of an array and an object in an object, with the least word among its numbers. -/
def nestedDocument : Json :=
  .object [("a", .array [.int 1, .object [("b", .int (-9223372036854775808)), ("é", .bool true)]]), ("c", .null)]

/-- The value of that document. -/
def nestedValue : Value :=
  .row [("a", .array [.int 1, .row [("b", .int (-9223372036854775808)), ("é", .bool true)]]), ("c", .null)]

theorem json_inverse_nested :
    nestedDocument.Worded ∧ toJson (ofJson nestedDocument) = nestedDocument ∧
    nestedValue.Exact ∧ ofJson nestedValue.toJson = nestedValue := by
  have houter {α : Type} (v w : α) : Ascending [("a", v), ("c", w)] := List.pairwise_pair.2 (show "a" < "c" by decide)
  have hinner {α : Type} (v w : α) : Ascending [("b", v), ("é", w)] := List.pairwise_pair.2 (show "b" < "é" by decide)
  have hdocument : nestedDocument.Worded :=
    ⟨houter _ _, ⟨⟨by decide, by decide⟩, ⟨hinner _ _, ⟨by decide, by decide⟩, trivial, trivial⟩, trivial⟩,
      trivial, trivial⟩
  have hvalue : nestedValue.Exact :=
    ⟨houter _ _, ⟨trivial, ⟨hinner _ _, trivial, trivial, trivial⟩, trivial⟩, trivial, trivial⟩
  exact ⟨hdocument, (json_inverse.1 _ hdocument).2, hvalue, (json_inverse.2 _ hvalue).2⟩

end Value

namespace Json

theorem exactMembers_of_forall : ∀ {ms : List (String × Json)}, (∀ m ∈ ms, m.2.Exact) → ExactMembers ms
  | [], _ => trivial
  | (k, v) :: _, h =>
    ⟨h (k, v) List.mem_cons_self, exactMembers_of_forall fun m hm => h m (List.mem_cons_of_mem _ hm)⟩

/-- **An object is read back from its text if its members are**, in whatever order they were set. -/
theorem exact_ofPairs {pairs : List (String × Json)} (h : ∀ p ∈ pairs, p.2.Exact) : (ofPairs pairs).Exact := by
  obtain ⟨ms, hms, horder, hmem⟩ := ofPairs_ascending pairs
  rw [hms]
  exact ⟨horder, exactMembers_of_forall fun m hm => h m (hmem m hm)⟩

end Json
end RowSql
