import RowSql.Proofs.Codec.Rows
import RowSql.Proofs.Sql.Clauses
import RowSql.Transform
/-!
# Outputs — from the items of a selection to the fields of a sink

The output columns of a plan stand in the order of the items (`bindItems_append_eq_ok`), and so do the named
values of a row (`columnValues_append_eq_some`).  A field of the sink is written with the first value of its
name.  So the value of an item is written unless an item before it has the same output name: an alias, or the
field of the sink at its position.
-/
namespace RowSql

/-- **An encoder writes of a row what it has for the fields of the sink**, and always does. -/
theorem Encoder.encode_written {format : Format} {fields : List Field} {o : Options} {encoder : Encoder}
    (h : Encoder.build? format fields o = some (.ok encoder)) (row : NamedRow) :
    ∃ text, encoder.encode row = .ok text ∧ encoder.encode (row.written fields) = .ok text := by
  cases format with
  | csv =>
    obtain ⟨l, -, hl⟩ := bind_eq_ok.1 (Option.some.inj h)
    cases hl
    refine ⟨_, rfl, ?_⟩
    simp only [Csv.encode, NamedRow.written_written]
  | kv =>
    obtain ⟨l, -, hl⟩ := bind_eq_ok.1 (Option.some.inj h)
    cases hl
    refine ⟨_, rfl, ?_⟩
    simp only [KeyValue.encode, NamedRow.written_written]
  | json =>
    cases h
    refine ⟨_, rfl, ?_⟩
    simp only [Document.encode, NamedRow.written_written]
  | avro => cases h

namespace Plan

open Sql

theorem bindItems_append_eq_ok {scope : Scope} {sink : List Field} {e : Term} {given : Option Name}
    {after : List SelectItem} :
    ∀ {before : List SelectItem} {position : Nat} {columns : List OutputColumn},
      bindItems scope sink position (before ++ .term e given :: after) = .ok columns →
      ∃ first expr rest, columns = first ++ ⟨columnName sink (position + before.length) e given, expr⟩ :: rest ∧
        bindItems scope sink position before = .ok first ∧ e.bind scope = .ok expr
  | [], position, columns, h => by
    rw [List.nil_append, bindItems] at h
    obtain ⟨expr, hexpr, h⟩ := bind_eq_ok.1 h
    obtain ⟨rest, -, h⟩ := bind_eq_ok.1 h
    cases h
    exact ⟨[], expr, rest, rfl, rfl, hexpr⟩
  | .star _ :: _, _, _, h => by cases h
  | .term e' given' :: before, position, columns, h => by
    rw [List.cons_append, bindItems] at h
    obtain ⟨expr', hexpr', h⟩ := bind_eq_ok.1 h
    obtain ⟨others, hothers, h⟩ := bind_eq_ok.1 h
    cases h
    obtain ⟨first, expr, rest, rfl, hfirst, hexpr⟩ := bindItems_append_eq_ok hothers
    have hposition : position + 1 + before.length = position + (SelectItem.term e' given' :: before).length := by
      rw [List.length_cons]
      omega
    refine ⟨⟨columnName sink position e' given', expr'⟩ :: first, expr, rest, ?_, ?_, hexpr⟩
    · rw [hposition]
      rfl
    · rw [bindItems, hexpr', hfirst]
      rfl

/-- One of the items has an output name. -/
def Named (sink : List Field) (items : List SelectItem) (name : String) : Prop :=
  ∃ i e given, items[i]? = some (.term e given) ∧ columnName sink i e given = name

theorem named_of_bindItems {scope : Scope} {sink : List Field} {name : String} :
    ∀ {items : List SelectItem} {position : Nat} {columns : List OutputColumn},
      bindItems scope sink position items = .ok columns → name ∈ columns.map OutputColumn.name →
      ∃ i e given, items[i]? = some (.term e given) ∧ columnName sink (position + i) e given = name
  | [], _, _, h, hname => by
    cases h
    cases hname
  | .star _ :: _, _, _, h, _ => by cases h
  | .term e given :: items, position, columns, h, hname => by
    rw [bindItems] at h
    obtain ⟨expr, -, h⟩ := bind_eq_ok.1 h
    obtain ⟨rest, hrest, h⟩ := bind_eq_ok.1 h
    cases h
    rcases List.mem_cons.1 hname with rfl | hname
    · exact ⟨0, e, given, rfl, rfl⟩
    · obtain ⟨i, e', given', hi, hn⟩ := named_of_bindItems hrest hname
      exact ⟨i + 1, e', given', hi, by rw [← hn, Nat.add_assoc, Nat.add_comm 1]⟩

end Plan

namespace Transform

variable {policy : FaultPolicy} {context : Context} {index : Nat} {cells : List Value} {column : OutputColumn}

theorem columnValues_cons_eq_some {columns : List OutputColumn} {values : NamedRow} :
    columnValues policy context index cells (column :: columns) = .ok (some values) ↔
      ∃ v rest, columnValue policy context index cells column = .ok (some v) ∧
        columnValues policy context index cells columns = .ok (some rest) ∧ values = (column.name, v) :: rest := by
  rw [columnValues]
  cases columnValue policy context index cells column with
  | error e => simp
  | ok v =>
    cases v with
    | none => simp
    | some v =>
      cases columnValues policy context index cells columns with
      | error e => simp [Except.map]
      | ok rest => cases rest <;> simp [Except.map, eq_comm]

theorem columnValues_append_eq_some {after : List OutputColumn} : ∀ {before : List OutputColumn} {values : NamedRow},
    columnValues policy context index cells (before ++ column :: after) = .ok (some values) →
    ∃ first v rest, values = first ++ (column.name, v) :: rest ∧ first.map Prod.fst = before.map OutputColumn.name ∧
      columnValue policy context index cells column = .ok (some v)
  | [], values, h => by
    obtain ⟨v, rest, hv, -, rfl⟩ := columnValues_cons_eq_some.1 h
    exact ⟨[], v, rest, rfl, rfl, hv⟩
  | c :: before, values, h => by
    obtain ⟨w, others, -, hothers, rfl⟩ := columnValues_cons_eq_some.1 h
    obtain ⟨first, v, rest, rfl, hnames, hv⟩ := columnValues_append_eq_some hothers
    exact ⟨(c.name, w) :: first, v, rest, rfl, by simp [hnames], hv⟩

/-- **The value that an expression has on a row**, or nothing where it faults and the policy puts nothing in its
place. -/
def HasValue (policy : FaultPolicy) (context : Context) (cells : List Value) (expr : Expr) (v : Value) : Prop :=
  expr.eval context cells = .ok v ∨
    (policy = .nullField ∧ v = .null ∧ ∃ fault, expr.eval context cells = .error fault)

theorem hasValue_of_columnValue {v : Value} (h : columnValue policy context index cells column = .ok (some v)) :
    HasValue policy context cells column.expr v := by
  unfold columnValue at h
  split at h
  · rename_i w hw
    cases h
    exact .inl hw
  · rename_i fault hfault
    unfold onFault at h
    split at h <;> cases h
    exact .inr ⟨rfl, rfl, fault, hfault⟩

theorem columnValues_of_rowValues {plan : Plan} {values : NamedRow}
    (h : rowValues plan policy context index cells = .ok (some values)) :
    columnValues policy context index cells plan.columns = .ok (some values) := by
  unfold rowValues at h
  split at h
  · cases h
  · cases h
  · exact h

open Sql Plan

/-- **The value of a term on a row is in a field** of what is written. -/
def Writes (scope : Scope) (policy : FaultPolicy) (context : Context) (cells : List Value) (written : NamedRow)
    (e : Term) (position : Nat) (f : Field) : Prop :=
  ∃ expr v, e.bind scope = .ok expr ∧ HasValue policy context cells expr v ∧ written[position]? = some (f.name, v)

/-- **The value of an item is written to the field of its output name**, if no item before it has that name. -/
theorem writes_of_item {scope : Scope} {sink : List Field} {plan : Plan} {before after : List SelectItem} {e : Term}
    {given : Option Name} (hitems : bindItems scope sink 0 (before ++ .term e given :: after) = .ok plan.columns)
    {values : NamedRow} (hrow : rowValues plan policy context index cells = .ok (some values)) {j : Nat} {f : Field}
    (hf : sink[j]? = some f) (hname : columnName sink before.length e given = f.name)
    (hfresh : ¬ Named sink before f.name) :
    Writes scope policy context cells (values.written sink) e j f := by
  obtain ⟨first, expr, rest, hcolumns, hfirst, hexpr⟩ := bindItems_append_eq_ok hitems
  have hvalues := columnValues_of_rowValues hrow
  rw [hcolumns] at hvalues
  obtain ⟨earlier, v, later, rfl, hnames, hv⟩ := columnValues_append_eq_some hvalues
  refine ⟨expr, v, hexpr, hasValue_of_columnValue hv, ?_⟩
  have hnot : f.name ∉ earlier.map Prod.fst := by
    rw [hnames]
    intro hmem
    obtain ⟨i, e', given', hi, hn⟩ := named_of_bindItems hfirst hmem
    exact hfresh ⟨i, e', given', hi, by rwa [Nat.zero_add] at hn⟩
  rw [NamedRow.getElem?_written hf, Nat.zero_add, hname, NamedRow.get_append hnot]

/-- An item has an alias. -/
def Aliased (items : List SelectItem) (name : String) : Prop :=
  ∃ e label, .term e (some label) ∈ items ∧ label.text = name

/-- **The field of the sink at the position after items is named by none of them but by an alias.** -/
theorem not_named_of_not_aliased {sink : List Field} (hnames : (sink.map Field.name).Nodup) {before : List SelectItem}
    {f : Field} (hf : sink[before.length]? = some f) (hlabel : ¬ Aliased before f.name) :
    ¬ Named sink before f.name := by
  rintro ⟨i, e, given, hi, hname⟩
  cases given with
  | some label => exact hlabel ⟨e, label, List.mem_of_getElem? hi, hname⟩
  | none =>
    have hlt : i < before.length := (List.getElem?_eq_some_iff.1 hi).1
    have hlength : before.length < sink.length := (List.getElem?_eq_some_iff.1 hf).1
    obtain ⟨g, hg⟩ : ∃ g, sink[i]? = some g := ⟨_, List.getElem?_eq_getElem (hlt.trans hlength)⟩
    have hsame : g.name = f.name := by rwa [columnName, hg] at hname
    have hat : (sink.map Field.name)[i]? = (sink.map Field.name)[before.length]? := by
      rw [List.getElem?_map, List.getElem?_map, hg, hf, Option.map_some, Option.map_some, hsame]
    have heq := (List.getElem?_inj (by rw [List.length_map]; exact hlt.trans hlength) hnames).1 hat
    omega

/-- **A value is written unless an item before it took the name.**  On a row that is admitted, an item without
an alias has its value in the field of the sink at its position, if that field's name is the alias of no item
before it, and an item whose alias is the name of a field has its value in that field, if no item before it has
that output name: by an alias, by the position, or by its text. -/
theorem rowText_writes_items {decoder : Decoder} {encoder : Encoder} {format : Format} {o : Options}
    (hencoder : Encoder.build? format encoder.fields o = some (.ok encoder))
    (hnames : (encoder.fields.map Field.name).Nodup) {sql : String} {params : List (String × Value)} {t : Transform}
    (hbuild : build decoder encoder sql policy params = .ok t) {values : NamedRow}
    (hrow : rowValues t.plan t.policy context index cells = .ok (some values)) :
    ∃ q s text, statements? sql = some [.query q] ∧ q.body = .select s ∧
      rowText t context index cells = .ok (some text) ∧ encoder.encode (values.written encoder.fields) = .ok text ∧
      ∀ before e given after, s.items = before ++ .term e given :: after →
        (∀ f, given = none → encoder.fields[before.length]? = some f → ¬ Aliased before f.name →
          Writes ⟨Builtin.registry, decoder.fields⟩ policy context cells
            (values.written encoder.fields) e before.length f) ∧
        (∀ label j f, given = some label → encoder.fields[j]? = some f → f.name = label.text →
          ¬ Named encoder.fields before label.text →
          Writes ⟨Builtin.registry, decoder.fields⟩ policy context cells (values.written encoder.fields) e j f) := by
  unfold build at hbuild
  split at hbuild
  case h_2 => cases hbuild
  rename_i plan hplan
  cases hbuild
  obtain ⟨text, htext, hwritten⟩ := Encoder.encode_written hencoder values
  obtain ⟨q, s, hread, hq, hitems, -⟩ := compile_eq_ok hplan
  refine ⟨q, s, text, hread, hq.body, ?_, hwritten, fun before e given after hs => ?_⟩
  · simp only [rowText, hrow, htext]
  rw [hs] at hitems
  constructor
  · rintro f rfl hf hlabel
    have hname : columnName encoder.fields before.length e none = f.name := by
      rw [columnName, hf]
      rfl
    exact writes_of_item hitems hrow hf hname (not_named_of_not_aliased hnames hf hlabel)
  · rintro label j f rfl hf hname hfresh
    exact writes_of_item hitems hrow hf hname.symm (by rwa [hname])

/-! ## Statements over two columns -/

/-- The names that are selected, and the aliases that they are given. -/
def selectedNames? : List SelectItem → Option (List (Name × Option Name))
  | [] => some []
  | .term (.name n) given :: items => (selectedNames? items).map ((n, given) :: ·)
  | _ => none

theorem eq_of_selectedNames? : ∀ {items : List SelectItem} {names : List (Name × Option Name)},
    selectedNames? items = some names → items = names.map fun p => .term (.name p.1) p.2
  | [], _, h => by
    cases h
    rfl
  | .star _ :: _, _, h => by cases h
  | .term e given :: items, names, h => by
    cases e
    case name n =>
      obtain ⟨rest, hrest, rfl⟩ := Option.map_eq_some_iff.1 h
      rw [eq_of_selectedNames? hrest]
      rfl
    all_goals cases h

/-- The names that a text of one selection of names selects. -/
def namesOf? (sql : String) : Option (List (Name × Option Name)) :=
  match statements? sql with
  | some [.query q] =>
    match q.body with
    | .select s => selectedNames? s.items
    | .other _ => none
  | _ => none

/-- The names and texts that are written of a row. -/
def writtenTexts? (source sink : List Field) (sql : String) (cells : List Value) : Option (List (String × String)) :=
  match compile Builtin.registry source sink sql with
  | .ok plan =>
    match rowValues plan .abort ⟨default, []⟩ 0 cells with
    | .ok (some values) => some ((values.written sink).map fun p => (p.1, p.2.render))
    | _ => none
  | .error _ => none

theorem items_of_namesOf? {sql : String} {names : List (Name × Option Name)} (h : namesOf? sql = some names) {q : Query}
    {s : Select} (hread : statements? sql = some [.query q]) (hbody : q.body = .select s) :
    s.items = names.map fun p => .term (.name p.1) p.2 := by
  unfold namesOf? at h
  rw [hread] at h
  dsimp only at h
  rw [hbody] at h
  exact eq_of_selectedNames? h

theorem exists_of_writtenTexts? {source sink : List Field} {sql : String} {cells : List Value}
    {texts : List (String × String)} (h : writtenTexts? source sink sql cells = some texts) :
    ∃ plan values, compile Builtin.registry source sink sql = .ok plan ∧
      rowValues plan .abort ⟨default, []⟩ 0 cells = .ok (some values) ∧
      (values.written sink).map (fun p => (p.1, p.2.render)) = texts := by
  unfold writtenTexts? at h
  split at h
  · rename_i plan hplan
    split at h
    · rename_i values hvalues
      exact ⟨plan, values, hplan, hvalues, Option.some.inj h⟩
    · cases h
  · cases h

/-- The fields of a sink, with three names. -/
def threeTexts : List Field := [⟨"x", .text, none⟩, ⟨"y", .text, none⟩, ⟨"z", .text, none⟩]

def toThree : Encoder := ⟨threeTexts, fun row => .ok (KeyValue.encode ⟨['&'], ['=']⟩ threeTexts row)⟩

def fromTwo : Decoder := ⟨twoTexts, Csv.decode ⟨'|', false, none⟩ twoTexts⟩

/-- The second column goes to the field of its alias, and the first one to the field at the second position. -/
theorem rowText_writes_items_three : ∃ t values,
    Encoder.build? .kv threeTexts .empty = some (.ok toThree) ∧ (threeTexts.map Field.name).Nodup ∧
    build fromTwo toThree "select b as z, a from source" .abort [] = .ok t ∧
    rowValues t.plan t.policy ⟨default, []⟩ 0 [.text "1", .text "2"] = .ok (some values) ∧
    Writes ⟨Builtin.registry, twoTexts⟩ .abort ⟨default, []⟩ [.text "1", .text "2"] (values.written threeTexts)
      (.name ⟨"b", none⟩) 2 ⟨"z", .text, none⟩ ∧
    Writes ⟨Builtin.registry, twoTexts⟩ .abort ⟨default, []⟩ [.text "1", .text "2"] (values.written threeTexts)
      (.name ⟨"a", none⟩) 1 ⟨"y", .text, none⟩ := by
  have htexts : writtenTexts? twoTexts threeTexts "select b as z, a from source" [.text "1", .text "2"] =
      some [("x", ""), ("y", "1"), ("z", "2")] := by decide +kernel
  have hselected : namesOf? "select b as z, a from source" =
      some [(⟨"b", none⟩, some ⟨"z", none⟩), (⟨"a", none⟩, none)] := by decide +kernel
  obtain ⟨plan, values, hplan, hrow, -⟩ := exists_of_writtenTexts? htexts
  have hencoder : Encoder.build? .kv threeTexts .empty = some (.ok toThree) := rfl
  have hnames : (threeTexts.map Field.name).Nodup := by decide
  have hbuild : build fromTwo toThree "select b as z, a from source" .abort [] =
      .ok ⟨fromTwo, plan, .abort, toThree, []⟩ := by
    simp only [build, fromTwo, toThree, hplan]
  obtain ⟨q, s, text, hread, hbody, -, -, hitems⟩ := rowText_writes_items hencoder hnames hbuild hrow
  have hs := items_of_namesOf? hselected hread hbody
  refine ⟨_, values, hencoder, hnames, hbuild, hrow, ?_, ?_⟩
  · refine (hitems [] _ _ _ hs).2 ⟨"z", none⟩ 2 _ rfl rfl rfl ?_
    rintro ⟨i, e, given, hi, -⟩
    cases hi
  · refine (hitems [.term (.name ⟨"b", none⟩) (some ⟨"z", none⟩)] _ _ _ hs).1 _ rfl rfl ?_
    rintro ⟨e, label, hmem, hlabel⟩
    cases List.mem_singleton.1 hmem
    revert hlabel
    decide

theorem not_writes {scope : Scope} {cells : List Value} {written : NamedRow} {texts : List (String × String)} {e : Term}
    {expr : Expr} {v : Value} {j : Nat} {f : Field} (hwritten : written.map (fun p => (p.1, p.2.render)) = texts)
    (hexpr : e.bind scope = .ok expr) (hv : expr.eval ⟨default, []⟩ cells = .ok v)
    (hj : texts[j]? ≠ some (f.name, v.render)) :
    ¬ Writes scope .abort ⟨default, []⟩ cells written e j f := by
  rintro ⟨expr', w, hexpr', hvalue | ⟨hpolicy, -⟩, hfield⟩
  · rw [hexpr] at hexpr'
    cases hexpr'
    rw [hv] at hvalue
    cases hvalue
    refine hj ?_
    rw [← hwritten, List.getElem?_map, hfield]
    rfl
  · cases hpolicy

/-- On the row `1`, `2` of two columns, a statement with these items does not write the second column to a field. -/
def Loses (sink : List Field) (sql : String) (items : List SelectItem) (j : Nat) (f : Field) : Prop :=
  ∃ plan values q s, compile Builtin.registry twoTexts sink sql = .ok plan ∧
    rowValues plan .abort ⟨default, []⟩ 0 [.text "1", .text "2"] = .ok (some values) ∧
    statements? sql = some [.query q] ∧ q.body = .select s ∧ s.items = items ∧ sink[j]? = some f ∧
    ¬ Writes ⟨Builtin.registry, twoTexts⟩ .abort ⟨default, []⟩ [.text "1", .text "2"] (values.written sink)
      (.name ⟨"b", none⟩) j f

theorem loses_of_texts {sink : List Field} {sql : String} {names : List (Name × Option Name)}
    {texts : List (String × String)}
    {j : Nat} {f : Field} (htexts : writtenTexts? twoTexts sink sql [.text "1", .text "2"] = some texts)
    (hnames : namesOf? sql = some names) (hf : sink[j]? = some f) (hj : texts[j]? ≠ some (f.name, "2")) :
    Loses sink sql (names.map fun p => .term (.name p.1) p.2) j f := by
  obtain ⟨plan, values, hplan, hrow, hwritten⟩ := exists_of_writtenTexts? htexts
  obtain ⟨q, s, hread, hq, -⟩ := compile_eq_ok hplan
  have hb : (Term.name ⟨"b", none⟩).bind ⟨Builtin.registry, twoTexts⟩ = .ok (.column 1 .text) := by rfl
  have hv : Expr.eval ⟨default, []⟩ [.text "1", .text "2"] (.column 1 .text) = .ok (.text "2") := by rfl
  exact ⟨plan, values, q, s, hplan, hrow, hread, hq.body, items_of_namesOf? hnames hread hq.body, hf,
    not_writes hwritten hb hv hj⟩

/-- **A name that is taken hides a value**: an alias hides that of a later item at the position of the field, an
item at the position of a field that of a later one with the field's name as its alias, and so does an item of
which the text is that name. -/
theorem item_not_written :
    Loses threeTexts "select a as y, b from source"
      [.term (.name ⟨"a", none⟩) (some ⟨"y", none⟩), .term (.name ⟨"b", none⟩) none] 1 ⟨"y", .text, none⟩ ∧
    Loses threeTexts "select a, b as x from source"
      [.term (.name ⟨"a", none⟩) none, .term (.name ⟨"b", none⟩) (some ⟨"x", none⟩)] 0 ⟨"x", .text, none⟩ ∧
    Loses [⟨"a", .text, none⟩] "select a as p, a, b as a from source"
      [.term (.name ⟨"a", none⟩) (some ⟨"p", none⟩), .term (.name ⟨"a", none⟩) none,
        .term (.name ⟨"b", none⟩) (some ⟨"a", none⟩)] 0 ⟨"a", .text, none⟩ := by
  have hlabel : writtenTexts? twoTexts threeTexts "select a as y, b from source" [.text "1", .text "2"] =
      some [("x", ""), ("y", "1"), ("z", "")] := by decide +kernel
  have hlabelNames : namesOf? "select a as y, b from source" =
      some [(⟨"a", none⟩, some ⟨"y", none⟩), (⟨"b", none⟩, none)] := by decide +kernel
  have hposition : writtenTexts? twoTexts threeTexts "select a, b as x from source" [.text "1", .text "2"] =
      some [("x", "1"), ("y", ""), ("z", "")] := by decide +kernel
  have hpositionNames : namesOf? "select a, b as x from source" =
      some [(⟨"a", none⟩, none), (⟨"b", none⟩, some ⟨"x", none⟩)] := by decide +kernel
  have htext : writtenTexts? twoTexts [⟨"a", .text, none⟩] "select a as p, a, b as a from source"
      [.text "1", .text "2"] =
      some [("a", "1")] := by decide +kernel
  have htextNames : namesOf? "select a as p, a, b as a from source" =
      some [(⟨"a", none⟩, some ⟨"p", none⟩), (⟨"a", none⟩, none), (⟨"b", none⟩, some ⟨"a", none⟩)] := by decide +kernel
  exact ⟨loses_of_texts hlabel hlabelNames rfl (by decide), loses_of_texts hposition hpositionNames rfl (by decide),
    loses_of_texts htext htextNames rfl (by decide)⟩

end Transform
end RowSql
