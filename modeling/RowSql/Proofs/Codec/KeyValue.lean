import RowSql.Codec.KeyValue
import RowSql.Proofs.Codec.Rows
import RowSql.Proofs.Text.Joins
/-!
# KeyValue — reading the entries that were written

For two delimiters of one character, the entries of a line are the names and texts that it was written from
(`entries_lineOf`): no entry has the delimiter of entries in it, and the first delimiter of key and value in an
entry is the one after the name.  Nothing is escaped, so a text may have the second delimiter in it and not the
first.
-/
namespace RowSql
namespace KeyValue

variable {e k : Char}

/-- The line of named values. -/
def lineOf (l : Layout) (pairs : NamedRow) : List Char := Text.join l.entry (pairs.map fun p => entry l p.1 p.2)

theorem encode_toList (l : Layout) (sink : List Field) (row : NamedRow) :
    (encode l sink row).toList = lineOf l (row.written sink) := String.toList_ofList

theorem entry_eq (name : String) (v : Value) : entry ⟨[e], [k]⟩ name v = name.toList ++ k :: v.render.toList := by
  rw [entry, List.append_assoc, List.singleton_append]

/-- **A named value that can stand in an entry**: the name has neither delimiter, and the text not that of entries. -/
structure Fits (e k : Char) (p : String × Value) : Prop where
  nameEntry : e ∉ p.1.toList
  nameKey : k ∉ p.1.toList
  text : e ∉ p.2.render.toList

theorem Fits.not_mem_entry (hek : e ≠ k) {p : String × Value} (hp : Fits e k p) : e ∉ entry ⟨[e], [k]⟩ p.1 p.2 := by
  rw [entry_eq, List.mem_append, List.mem_cons]
  rintro (h | h | h)
  · exact hp.nameEntry h
  · exact hek h
  · exact hp.text h

theorem Fits.splitOnce?_entry {p : String × Value} (hp : Fits e k p) :
    Text.splitOnce? [k] (entry ⟨[e], [k]⟩ p.1 p.2) = some (p.1.toList, p.2.render.toList) := by
  rw [entry_eq, Text.splitOnce?_append hp.nameKey]

/-- **The entries of a line are the names and texts that it was written from.** -/
theorem entries_lineOf (hek : e ≠ k) {pairs : NamedRow} (hne : pairs ≠ []) (hp : ∀ p ∈ pairs, Fits e k p) :
    entries ⟨[e], [k]⟩ (lineOf ⟨[e], [k]⟩ pairs) = pairs.map fun p => (p.1.toList, p.2.render.toList) := by
  have hsplit : Text.split [e] (lineOf ⟨[e], [k]⟩ pairs) = pairs.map fun p => entry ⟨[e], [k]⟩ p.1 p.2 := by
    refine Text.split_join (by simpa using hne) fun cs hcs => ?_
    obtain ⟨p, hmem, rfl⟩ := List.mem_map.1 hcs
    exact (hp p hmem).not_mem_entry hek
  rw [entries, hsplit, List.filterMap_map, ← List.filterMap_eq_map]
  exact List.filterMap_congr fun p hmem => (hp p hmem).splitOnce?_entry

theorem lineOf_eq_append {pairs : NamedRow} (hne : pairs ≠ []) :
    ∃ before, lineOf ⟨[e], [k]⟩ pairs = before ++ k :: (pairs.getLast hne).2.render.toList := by
  obtain ⟨before, hline⟩ := Text.join_eq_append [e] (pairs.map fun p => entry ⟨[e], [k]⟩ p.1 p.2) (by simpa using hne)
  rw [List.getLast_map, entry_eq, ← List.append_assoc] at hline
  exact ⟨_, hline⟩

theorem find?_pairs (name : String) : ∀ pairs : NamedRow,
    find? name.toList (pairs.map fun p => (p.1.toList, p.2.render.toList)) =
      (pairs.lookup name).map fun v => v.render.toList
  | [] => rfl
  | p :: ps => by
    have ih : List.lookup name.toList (ps.map fun p => (p.1.toList, p.2.render.toList)) = _ := find?_pairs name ps
    rw [find?, List.map_cons, List.lookup_cons, List.lookup_cons, ih]
    have hname : (name.toList == p.1.toList) = (name == p.1) := beq_eq_beq.2 String.toList_inj
    rw [hname]
    cases name == p.1 <;> rfl

variable {sink source : List Field} {row : NamedRow}

/-- **What was written as entries is read as the texts that were written**, whatever the order in which the
fields are declared: each field has the text of the value under the name where it is found, and nothing is read
as the empty text.  The delimiters are two characters of which the second is no line end, the names have neither
of them, the texts do not have the first one, and the last text ends with no line end. -/
theorem decode_encode_entries (hek : e ≠ k) (hk : Codec.isLineEnd k = false) (hne : sink ≠ [])
    (hnames : ∀ f ∈ sink, e ∉ f.name.toList ∧ k ∉ f.name.toList) (hplaces : ∀ f ∈ source, f.path ∈ sink.map Field.name)
    (htexts : ∀ f ∈ sink, e ∉ (row.get f.name).render.toList)
    (hend : ∀ c ∈ (row.get (sink.getLast hne).name).render.toList.getLast?, Codec.isLineEnd c = false) :
    decode ⟨[e], [k]⟩ source (Text.encode (encode ⟨[e], [k]⟩ sink row)) =
      .ok (.single (source.map fun f => .text (row.get f.path).render)) := by
  have hwritten : row.written sink = row.project sink := NamedRow.written_of_mem (List.getLast_mem hne)
  have hpairs : row.project sink ≠ [] := by simpa [NamedRow.project] using hne
  have hfits : ∀ p ∈ row.project sink, Fits e k p := by
    intro p hp
    obtain ⟨f, hf, rfl⟩ := List.mem_map.1 hp
    exact ⟨(hnames f hf).1, (hnames f hf).2, htexts f hf⟩
  obtain ⟨before, hline⟩ := lineOf_eq_append (e := e) (k := k) hpairs
  have hfinal : (row.project sink).getLast hpairs = ((sink.getLast hne).name, row.get (sink.getLast hne).name) :=
    List.getLast_map _
  rw [hfinal] at hline
  -- the line ends as its last text does, or with the delimiter that stands before an empty one
  have hlast : ∀ c ∈ (before ++ k :: (row.get (sink.getLast hne).name).render.toList).getLast?,
      Codec.isLineEnd c = false := by
    intro c hc
    cases htext : (row.get (sink.getLast hne).name).render.toList with
    | nil =>
      obtain rfl : k = c := by simpa [htext] using hc
      exact hk
    | cons d ds => exact hend c (by simpa [htext] using hc)
  have hcell : ∀ f ∈ source, Value.ofText? ((find? f.path.toList ((row.project sink).map fun p =>
      (p.1.toList, p.2.render.toList))).map String.ofList) = .text (row.get f.path).render := by
    intro f hf
    rw [find?_pairs, NamedRow.lookup_project (hplaces f hf)]
    simp [Value.ofText?]
  unfold decode
  rw [Codec.textOf_encode, encode_toList, hwritten]
  dsimp only [bind, Except.bind]
  rw [Codec.trimLineEnds_of_getLast? (by rwa [hline]), if_neg (by simp [hline]), entries_lineOf hek hpairs hfits,
    List.map_congr_left hcell]
  rfl

/-- The names and values of an order, of which one has the delimiter of key and value in it and one is nothing. -/
def orderRow : NamedRow := [("note", .text "a=b\r\n"), ("price", .int 12), ("code", .null)]

/-- The fields of an order, which ends with its price. -/
def orderFields : List Field := [⟨"note", .text, none⟩, ⟨"code", .text, none⟩, ⟨"price", .text, none⟩]

example : encode ⟨['&'], ['=']⟩ orderFields orderRow = "note=a=b\r\n&code=&price=12" := by rfl

theorem decode_encode_entries_orderRow :
    (∀ f ∈ orderFields, '&' ∉ f.name.toList ∧ '=' ∉ f.name.toList) ∧
    (∀ f ∈ orderFields, '&' ∉ (orderRow.get f.name).render.toList) ∧
    decode ⟨['&'], ['=']⟩ orderFields.reverse (Text.encode (encode ⟨['&'], ['=']⟩ orderFields orderRow))
      = .ok (.single [.text "12", .text "", .text "a=b\r\n"]) := by
  have hnames : ∀ f ∈ orderFields, '&' ∉ f.name.toList ∧ '=' ∉ f.name.toList := by decide
  have htexts : ∀ f ∈ orderFields, '&' ∉ (orderRow.get f.name).render.toList := by decide
  have hend : ∀ c ∈ (orderRow.get "price").render.toList.getLast?, Codec.isLineEnd c = false := by
    have hlast : (orderRow.get "price").render.toList.getLast? = some '2' := by decide +kernel
    rw [hlast]
    rintro c ⟨⟩
    rfl
  exact ⟨hnames, htexts,
    decode_encode_entries (by decide) (by decide) (List.cons_ne_nil _ _) hnames (by decide) htexts hend⟩

end KeyValue
end RowSql
