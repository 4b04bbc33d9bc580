import Mathlib.Data.List.Nodup
import RowSql.Proofs.Codec.KeyValue
import RowSql.Proofs.Outcome
/-!
# Borders — entries with delimiters of any length

A delimiter of several characters can be read across the border between a name or a text and the delimiter
behind it, and across two delimiters.  What was written as entries is read as the texts that were written just
when that does not happen (`decode_encode_iff`).  The texts are found under their names only if the entries are
all among the pieces of the line; then these are the only pieces, and in the same order, since no entry begins
another: the first delimiter of key and value in an entry tells its name.
-/
namespace RowSql
namespace KeyValue

variable {l : Layout} {sink source : List Field} {row : NamedRow}

/-- Delimiters that options set are not empty. -/
theorem Layout.ofOptions_ne_nil {o : Options} (h : ofOptions o = .ok l) : l.entry ≠ [] ∧ l.keyValue ≠ [] := by
  have hset : ∀ {key : String} {default d : List Char}, default ≠ [] → delimiter o key default = .ok d → d ≠ [] := by
    intro key default d hdefault hd
    unfold delimiter at hd
    split at hd
    · cases hd
      exact hdefault
    · split at hd
      · cases hd
      · rename_i s hs
        cases hd
        simpa using hs
  unfold ofOptions at h
  obtain ⟨entry, hentry, h⟩ := bind_eq_ok.1 h
  obtain ⟨keyValue, hkeyValue, h⟩ := bind_eq_ok.1 h
  split at h
  · cases h
  · cases h
    exact ⟨hset (List.cons_ne_nil _ _) hentry, hset (List.cons_ne_nil _ _) hkeyValue⟩

/-! ## Entries of a row -/

/-- The entry that is written for a field. -/
def fieldEntry (l : Layout) (row : NamedRow) (f : Field) : List Char := entry l f.name (row.get f.name)

/-- **No delimiter is read across a border**: behind a name the first delimiter of key and value is the one that
was written, behind an entry the first delimiter of entries is, and the last entry has none in it. -/
structure Layout.Separates (l : Layout) (sink : List Field) (row : NamedRow) : Prop where
  names : ∀ f ∈ sink, Text.Clear l.keyValue f.name.toList
  entries : ∀ f ∈ sink.dropLast, Text.Clear l.entry (fieldEntry l row f)
  last : ∀ f ∈ sink.getLast?, ¬ l.entry <:+: fieldEntry l row f

theorem splitOnce?_entry_iff {name : String} {v : Value} {cs : List Char} :
    Text.splitOnce? l.keyValue cs = some (name.toList, v.render.toList) ↔
      cs = entry l name v ∧ Text.Clear l.keyValue name.toList := Text.splitOnce?_eq_some_iff

/-- **An entry that begins another has the same name**, if the names are clear. -/
theorem eq_name_of_prefix {f g : Field} (hf : Text.Clear l.keyValue f.name.toList)
    (hg : Text.Clear l.keyValue g.name.toList)
    (h : fieldEntry l row f <+: fieldEntry l row g) : f.name = g.name := by
  obtain ⟨more, hmore⟩ := h
  have hlong : Text.splitOnce? l.keyValue (fieldEntry l row g) =
      some (f.name.toList, (row.get f.name).render.toList ++ more) :=
    Text.splitOnce?_eq_some_iff.2 ⟨by rw [← hmore, fieldEntry, entry, List.append_assoc], hf⟩
  rw [fieldEntry, splitOnce?_entry_iff.2 ⟨rfl, hg⟩] at hlong
  exact (String.toList_inj.1 (congrArg Prod.fst (Option.some.inj hlong))).symm

/-- The line of the declared fields. -/
def fieldLine (l : Layout) (sink : List Field) (row : NamedRow) : List Char :=
  Text.join l.entry (sink.map (fieldEntry l row))

/-- **Every field has its text under its name** among some entries. -/
def Found (sink : List Field) (row : NamedRow) (es : List (List Char × List Char)) : Prop :=
  ∀ f ∈ sink, find? f.name.toList es = some (row.get f.name).render.toList

theorem split_fieldLine_iff (hentry : l.entry ≠ []) (hne : sink ≠ []) :
    Text.split l.entry (fieldLine l sink row) = sink.map (fieldEntry l row) ↔
      (∀ f ∈ sink.dropLast, Text.Clear l.entry (fieldEntry l row f)) ∧
        ∀ f ∈ sink.getLast?, ¬ l.entry <:+: fieldEntry l row f := by
  have hmap : sink.map (fieldEntry l row) ≠ [] := by simpa using hne
  rw [fieldLine, Text.split_join_iff hentry hmap, List.getLast_map, ← List.map_dropLast, List.forall_mem_map,
    List.getLast?_eq_some_getLast hne]
  simp

theorem found_of_separates (hentry : l.entry ≠ []) (hne : sink ≠ []) (h : l.Separates sink row) :
    Found sink row (entries l (fieldLine l sink row)) := by
  have hread : ∀ f ∈ sink, Text.splitOnce? l.keyValue (fieldEntry l row f) =
      some (f.name.toList, (row.get f.name).render.toList) := fun f hf => splitOnce?_entry_iff.2 ⟨rfl, h.names f hf⟩
  have hentries : entries l (fieldLine l sink row) =
      (row.project sink).map fun p => (p.1.toList, p.2.render.toList) := by
    rw [entries, (split_fieldLine_iff hentry hne).2 ⟨h.entries, h.last⟩, List.filterMap_map, NamedRow.project,
      List.map_map]
    exact List.filterMap_eq_map_iff_forall_eq_some.2 hread
  intro f hf
  rw [hentries, find?_pairs, NamedRow.lookup_project (List.mem_map_of_mem hf)]
  rfl

theorem mem_split_of_find? {f : Field} {line : List Char}
    (h : find? f.name.toList (entries l line) = some (row.get f.name).render.toList) :
    fieldEntry l row f ∈ Text.split l.entry line ∧ Text.Clear l.keyValue f.name.toList := by
  obtain ⟨before, after, hes, -⟩ := List.lookup_eq_some_iff.1 h
  have hmem : (f.name.toList, (row.get f.name).render.toList) ∈ entries l line := by
    rw [hes]
    exact List.mem_append_right before List.mem_cons_self
  obtain ⟨piece, hpiece, hread⟩ := List.mem_filterMap.1 hmem
  obtain ⟨rfl, hclear⟩ := splitOnce?_entry_iff.1 hread
  exact ⟨hpiece, hclear⟩

/-- **Where every field has its text under its name, no delimiter was read across a border.** -/
theorem separates_of_found (hentry : l.entry ≠ []) (hne : sink ≠ []) (hnames : (sink.map Field.name).Nodup)
    (h : Found sink row (entries l (fieldLine l sink row))) : l.Separates sink row := by
  have hclear : ∀ f ∈ sink, Text.Clear l.keyValue f.name.toList := fun f hf => (mem_split_of_find? (h f hf)).2
  have hname : ∀ f ∈ sink, ∀ g ∈ sink, fieldEntry l row f <+: fieldEntry l row g → f.name = g.name :=
    fun f hf g hg => eq_name_of_prefix (hclear f hf) (hclear g hg)
  have hnodup : (sink.map (fieldEntry l row)).Nodup :=
    List.Nodup.map_on (fun f hf g hg heq =>
      List.inj_on_of_nodup_map hnames hf hg (hname f hf g hg (heq ▸ List.prefix_rfl)))
      (List.Nodup.of_map _ hnames)
  have hfree : ∀ p ∈ sink.map (fieldEntry l row), ∀ q ∈ sink.map (fieldEntry l row), p <+: q → p = q := by
    intro p hp q hq hpq
    obtain ⟨f, hf, rfl⟩ := List.mem_map.1 hp
    obtain ⟨g, hg, rfl⟩ := List.mem_map.1 hq
    rw [fieldEntry, fieldEntry, hname f hf g hg hpq]
  have hsub : sink.map (fieldEntry l row) ⊆ Text.split l.entry (fieldLine l sink row) := by
    intro p hp
    obtain ⟨f, hf, rfl⟩ := List.mem_map.1 hp
    exact (mem_split_of_find? (h f hf)).1
  have hjoin : Text.join l.entry (Text.split l.entry (fieldLine l sink row)) = fieldLine l sink row :=
    Text.join_split hentry _
  -- the entries are among the pieces of a line that they make up, so they are all of them, in their order
  have hperm := Text.perm_of_join_eq hentry (Text.splitFrom_ne_nil _ _ _) (by simpa using hne) hnodup hsub hjoin
  obtain ⟨hentries, hlast⟩ := (split_fieldLine_iff hentry hne).1 (Text.eq_of_join_eq hperm hfree hjoin)
  exact ⟨hclear, hentries, hlast⟩

/-! ## Records -/

/-- **A line ends as its last text does**, or with the delimiter before an empty one. -/
theorem fieldLine_end (hkey : l.keyValue ≠ []) (hk : ∀ c ∈ l.keyValue.getLast?, Codec.isLineEnd c = false)
    (hne : sink ≠ [])
    (hend : ∀ c ∈ (row.get (sink.getLast hne).name).render.toList.getLast?, Codec.isLineEnd c = false) :
    fieldLine l sink row ≠ [] ∧ ∀ c ∈ (fieldLine l sink row).getLast?, Codec.isLineEnd c = false := by
  obtain ⟨before, hline⟩ := Text.join_eq_append l.entry (sink.map (fieldEntry l row)) (by simpa using hne)
  rw [List.getLast_map, fieldEntry, entry, ← List.append_assoc, ← List.append_assoc, ← fieldLine] at hline
  have hbefore : before ++ (sink.getLast hne).name.toList ++ l.keyValue ≠ [] :=
    List.append_ne_nil_of_right_ne_nil _ hkey
  rw [hline]
  refine ⟨List.append_ne_nil_of_left_ne_nil hbefore _, fun c hc => ?_⟩
  by_cases htext : (row.get (sink.getLast hne).name).render.toList = []
  · rw [htext, List.append_nil, List.getLast?_append_of_ne_nil _ hkey] at hc
    exact hk c hc
  · rw [List.getLast?_append_of_ne_nil _ htext] at hc
    exact hend c hc

theorem ofText?_eq_text_iff {o : Option (List Char)} {s : String} :
    Value.ofText? (o.map String.ofList) = .text s ↔ o = some s.toList := by
  cases o with
  | none => simp [Value.ofText?]
  | some cs => simp [Value.ofText?, String.ext_iff]

theorem single_inj {r r' : List Value} : Rows.single r = Rows.single r' ↔ r = r' :=
  ⟨fun h => List.singleton_inj.1 (congrArg Rows.rows h), congrArg _⟩

/-- A line that is not empty and does not end with a line end is read as its entries. -/
theorem decode_encode_eq (hne : sink ≠ []) (hline : fieldLine l sink row ≠ [])
    (hlast : ∀ c ∈ (fieldLine l sink row).getLast?, Codec.isLineEnd c = false) :
    decode l source (Text.encode (encode l sink row)) = .ok (.single (source.map fun f =>
      .ofText? ((find? f.path.toList (entries l (fieldLine l sink row))).map String.ofList))) := by
  have hwritten : (encode l sink row).toList = fieldLine l sink row := by
    rw [encode_toList, NamedRow.written_of_mem (List.getLast_mem hne), lineOf, NamedRow.project, List.map_map]
    rfl
  unfold decode
  rw [Codec.textOf_encode, hwritten]
  dsimp only [bind, Except.bind]
  rw [Codec.trimLineEnds_of_getLast? hlast, if_neg (by simpa using hline)]
  rfl

/-- Fields that are found among some entries, whatever the order in which they are read. -/
theorem cells_eq_iff (hplaces : ∀ name, name ∈ source.map Field.path ↔ name ∈ sink.map Field.name)
    (es : List (List Char × List Char)) :
    (source.map fun f => Value.ofText? ((find? f.path.toList es).map String.ofList)) =
      (source.map fun f => .text (row.get f.path).render) ↔ Found sink row es := by
  rw [List.map_inj_left]
  simp only [ofText?_eq_text_iff]
  constructor
  · intro h f hf
    obtain ⟨g, hg, hpath⟩ := List.mem_map.1 ((hplaces f.name).2 (List.mem_map_of_mem hf))
    rw [← hpath]
    exact h g hg
  · intro h f hf
    obtain ⟨g, hg, hname⟩ := List.mem_map.1 ((hplaces f.path).1 (List.mem_map_of_mem hf))
    rw [← hname]
    exact h g hg

/-- **What was written as entries is read as the texts that were written just when no delimiter is read across a
border**, for any two delimiters that options can set, and names that differ.  The fields are read in any order;
neither the delimiter of key and value nor the last text ends with a line end. -/
theorem decode_encode_iff {o : Options} (ho : Layout.ofOptions o = .ok l)
    (hk : ∀ c ∈ l.keyValue.getLast?, Codec.isLineEnd c = false) (hne : sink ≠ []) (hnames : (sink.map Field.name).Nodup)
    (hplaces : ∀ name, name ∈ source.map Field.path ↔ name ∈ sink.map Field.name)
    (hend : ∀ c ∈ (row.get (sink.getLast hne).name).render.toList.getLast?, Codec.isLineEnd c = false) :
    decode l source (Text.encode (encode l sink row)) =
      .ok (.single (source.map fun f => .text (row.get f.path).render)) ↔
      l.Separates sink row := by
  obtain ⟨hentry, hkey⟩ := Layout.ofOptions_ne_nil ho
  obtain ⟨hline, hlast⟩ := fieldLine_end hkey hk hne hend
  rw [decode_encode_eq hne hline hlast, Except.ok.injEq, single_inj, cells_eq_iff hplaces]
  exact ⟨separates_of_found hentry hne hnames, found_of_separates hentry hne⟩

/-- Options that set two dashes between entries and an arrow behind a key. -/
def dashes : Options := .ofPairs [("entry_delimiter", .text "--"), ("kv_delimiter", .text "=>")]

/-- A text with a dash and an arrow in it, and a price. -/
def dashRow : NamedRow := [("note", .text "a-b=>"), ("price", .int 12)]

def dashFields : List Field := [⟨"note", .text, none⟩, ⟨"price", .text, none⟩]

theorem decode_encode_iff_dashRow :
    Layout.ofOptions dashes = .ok ⟨['-', '-'], ['=', '>']⟩ ∧ (dashFields.map Field.name).Nodup ∧
    Layout.Separates ⟨['-', '-'], ['=', '>']⟩ dashFields dashRow ∧
    decode ⟨['-', '-'], ['=', '>']⟩ dashFields (Text.encode (encode ⟨['-', '-'], ['=', '>']⟩ dashFields dashRow)) =
      .ok (.single [.text "a-b=>", .text "12"]) := by
  have ho : Layout.ofOptions dashes = .ok ⟨['-', '-'], ['=', '>']⟩ := by rfl
  have hnames : (dashFields.map Field.name).Nodup := by decide
  have hseparates : Layout.Separates ⟨['-', '-'], ['=', '>']⟩ dashFields dashRow := ⟨by decide, by decide, by decide⟩
  have hkey : ∀ c ∈ ['=', '>'].getLast?, Codec.isLineEnd c = false := fun c hc => by cases hc; rfl
  have hend : ∀ c ∈ (dashRow.get "price").render.toList.getLast?, Codec.isLineEnd c = false :=
    fun c hc => by cases hc; rfl
  exact ⟨ho, hnames, hseparates, (decode_encode_iff ho hkey (by decide) hnames (fun _ => Iff.rfl) hend).2 hseparates⟩

/-- A text that ends as the delimiter behind it begins. -/
def borderRow : NamedRow := [("note", .text "x-"), ("price", .text "y")]

/-- **A text that ends with a dash gives it away to the delimiter behind it**, and the name behind that is not found. -/
theorem decode_encode_borderRow :
    Layout.ofOptions dashes = .ok ⟨['-', '-'], ['=', '>']⟩ ∧
    (∀ f ∈ dashFields, ¬ ['-', '-'] <:+: f.name.toList ∧ ¬ ['=', '>'] <:+: f.name.toList) ∧
    (∀ f ∈ dashFields, ¬ ['-', '-'] <:+: (borderRow.get f.name).render.toList) ∧
    encode ⟨['-', '-'], ['=', '>']⟩ dashFields borderRow = "note=>x---price=>y" ∧
    decode ⟨['-', '-'], ['=', '>']⟩ dashFields (Text.encode (encode ⟨['-', '-'], ['=', '>']⟩ dashFields borderRow)) =
      .ok (.single [.text "x", .null]) ∧
    decode ⟨['-', '-'], ['=', '>']⟩ dashFields (Text.encode (encode ⟨['-', '-'], ['=', '>']⟩ dashFields borderRow)) ≠
      .ok (.single [.text "x-", .text "y"]) := by
  have hread : decode ⟨['-', '-'], ['=', '>']⟩ dashFields
      (Text.encode (encode ⟨['-', '-'], ['=', '>']⟩ dashFields borderRow)) = .ok (.single [.text "x", .null]) := by
    rw [decode, Codec.textOf_encode]
    rfl
  refine ⟨by rfl, by decide, by decide, by rfl, hread, fun h => ?_⟩
  rw [hread, Except.ok.injEq, single_inj] at h
  cases List.tail_eq_of_cons_eq h

end KeyValue
end RowSql
