import RowSql.Codec.Document
import RowSql.Proofs.Codec.Rows
import RowSql.Proofs.Json.Paths
import RowSql.Proofs.Json.Values
/-!
# Document — decoding written documents

A row that is written as a document is read back from its bytes, cell by cell (`decode_encode_values`).  Each
stage gives its input back: the bytes a text, the text a document, the document the member of each field under
its name, and the member the value.  The order of the fields is lost on the way, since the document has the
names in order, and comes back with the layout.
-/
namespace RowSql

/-! ## Names as paths -/

namespace Json.Path

/-- **A name without points and opening brackets is the path of one key.** -/
theorem parse_name {name : String} (hne : name ≠ "") (h : ∀ c ∈ name.toList, c ≠ '.' ∧ c ≠ '(' ∧ c ≠ '[') :
    parse name = .ok ⟨[.key name], false⟩ := by
  have hspell : spell false [⟨name, [], h, nofun, .inl hne⟩] = name.toList := by simp [spell, Segment.write]
  have hroot : ¬ rootPrefix <+: name.toList := fun hpre => (h '.' (hpre.subset (by decide))).1 rfl
  have hread := read?_spell (List.cons_ne_nil _ _) fun _ => hspell.symm ▸ hroot
  rw [hspell] at hread
  rw [parse, hread]
  simp [Segment.steps, hne]

theorem resolve?_key (name : String) (fromRoot : Bool) (j : Json) :
    resolve? ⟨[.key name], fromRoot⟩ j = j.member? name := by
  simp [resolve?, stepInto?]

end Json.Path

namespace Document

open NamedRow (mem_written eq_get_of_mem_written)

/-- **A field that is found under its name**: it has no path of its own, and its name is a path of one key. -/
structure Keyed (f : Field) : Prop where
  path : f.path? = none
  name : f.name ≠ ""
  chars : ∀ c ∈ f.name.toList, c ≠ '.' ∧ c ≠ '(' ∧ c ≠ '['

/-- **The document of a row.** -/
def objectOf (declared : List Field) (row : NamedRow) : Json :=
  .ofPairs ((row.written declared).map fun p => (p.1, p.2.toJson))

variable {fields : List Field} {row : NamedRow}

theorem Keyed.parse_path {f : Field} (h : Keyed f) : Json.Path.parse f.path = .ok ⟨[.key f.name], false⟩ := by
  rw [Field.path, h.path]
  exact Json.Path.parse_name h.name h.chars

theorem mapM_parse : ∀ {fields : List Field}, (∀ f ∈ fields, Keyed f) →
    fields.mapM (fun f => Json.Path.parse f.path) = .ok (fields.map fun f => ⟨[.key f.name], false⟩)
  | [], _ => rfl
  | f :: fs, h => by
    rw [List.mapM_cons, (h f List.mem_cons_self).parse_path, mapM_parse fun g hg => h g (List.mem_cons_of_mem _ hg)]
    rfl

theorem ofOptions_keyed {o : Options} (hfields : ∀ f ∈ fields, Keyed f) (hrows : o.text? "rows_path" = none) :
    Layout.ofOptions fields o = .ok ⟨fields.map fun f => ⟨[.key f.name], false⟩, none⟩ := by
  simp [Layout.ofOptions, mapM_parse hfields, hrows, bind, Except.bind, pure, Except.pure]

/-- **The member of a declared field is the document of its value.** -/
theorem member?_objectOf {f : Field} (hf : f ∈ fields) :
    (objectOf fields row).member? f.name = some (row.get f.name).toJson := by
  -- two fields of one name are written with one value, so the last of them is as good as any
  refine Json.member?_ofPairs (fun p hp hname => ?_) ⟨_, List.mem_map_of_mem (mem_written hf), rfl⟩
  obtain ⟨q, hq, rfl⟩ := List.mem_map.1 hp
  rw [eq_get_of_mem_written hf hq]
  exact congrArg (fun name => (row.get name).toJson) hname

/-- **The cells of a written document are the values of its fields.** -/
theorem row_objectOf (hvalues : ∀ p ∈ row.written fields, p.2.Exact) (whole : Json) (rows : Option Json.Path) :
    Layout.row ⟨fields.map fun f => ⟨[.key f.name], false⟩, rows⟩ whole (objectOf fields row) =
      fields.map fun f => row.get f.name := by
  rw [Layout.row, List.map_map]
  refine List.map_congr_left fun f hf => ?_
  have hcell : (row.get f.name).Exact := hvalues _ (mem_written hf)
  simp [Json.Path.resolve?_key, member?_objectOf hf, Value.ofJson_toJson hcell]

/-- **A row that is written as a document is decoded as one row of its values**, in the order of the declared
fields, if each field is found under its name, no decimal or float is written, and the document nests less than
128 levels. -/
theorem decode_encode_values {o : Options} (hfields : ∀ f ∈ fields, Keyed f) (hrows : o.text? "rows_path" = none)
    (hvalues : ∀ p ∈ row.written fields, p.2.Exact) (hdepth : (objectOf fields row).depth < 128) :
    ∃ l, Layout.ofOptions fields o = .ok l ∧
      decode l (Text.encode (encode fields row)) = .ok (.single (fields.map fun f => row.get f.name)) := by
  refine ⟨_, ofOptions_keyed hfields hrows, ?_⟩
  have hexact : (objectOf fields row).Exact := Json.exact_ofPairs fun p hp => by
    obtain ⟨q, hq, rfl⟩ := List.mem_map.1 hp
    exact Value.exact_toJson (hvalues q hq)
  have htext : (encode fields row).toList = (objectOf fields row).render := String.toList_ofList
  have hparse : Json.parse (objectOf fields row).render = .ok (objectOf fields row) :=
    Json.parse_render hexact (Nat.le_of_lt_succ hdepth)
  simp [decode, Codec.textOf, Text.decode_encode, htext, hparse, Layout.rowsOf, row_objectOf hvalues, Rows.single,
    bind, Except.bind, pure, Except.pure]

/-- Two fields, declared out of order. -/
def nestedFields : List Field := [⟨"total", .whole, none⟩, ⟨"lines", .text, none⟩]

/-- An array of rows with texts to be escaped, a whole number, and a decimal that no field is declared for. -/
def nestedRow : NamedRow :=
  [("lines", .array [.row [("name", .text "5\" pipe\n"), ("sold", .bool true)], .null, .array []]),
    ("total", .int (-12)), ("rate", .decimal ⟨5, 1⟩)]

theorem decode_encode_values_nested :
    (∀ f ∈ nestedFields, Keyed f) ∧ (∀ p ∈ nestedRow.written nestedFields, p.2.Exact) ∧
    (objectOf nestedFields nestedRow).depth = 3 ∧
    ∃ l, Layout.ofOptions nestedFields .empty = .ok l ∧
      decode l (Text.encode (encode nestedFields nestedRow)) = .ok (.single [.int (-12),
        .array [.row [("name", .text "5\" pipe\n"), ("sold", .bool true)], .null, .array []]]) := by
  have hfields : ∀ f ∈ nestedFields, Keyed f := by
    simp only [nestedFields, List.forall_mem_cons]
    exact ⟨⟨rfl, by decide, by simp⟩, ⟨rfl, by decide, by simp⟩, nofun⟩
  have hvalues : ∀ p ∈ nestedRow.written nestedFields, p.2.Exact := by
    have hwritten : nestedRow.written nestedFields = [("total", .int (-12)),
        ("lines", .array [.row [("name", .text "5\" pipe\n"), ("sold", .bool true)], .null, .array []])] := rfl
    have horder : Json.Ascending [("name", Value.text "5\" pipe\n"), ("sold", .bool true)] :=
      List.pairwise_pair.2 (by decide)
    rw [hwritten]
    simp only [List.forall_mem_cons, Value.Exact, Value.ExactItems, Value.ExactFields, and_true, true_and]
    exact ⟨horder, nofun⟩
  have hdepth : (objectOf nestedFields nestedRow).depth = 3 := by decide
  exact ⟨hfields, hvalues, hdepth, decode_encode_values hfields rfl hvalues (by rw [hdepth]; decide)⟩

end Document
end RowSql
