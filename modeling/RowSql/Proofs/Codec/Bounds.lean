import RowSql.Codec
import RowSql.Proofs.Value.Bounds
/-!
# Bounds — the numbers in decoded rows

A number that a decoder lets into a row cannot grow beyond reason later: at any depth of a cell a float is
finite, and the scale of a decimal is within the limit of decimals from data (`decode_bounds`).  A row has a
cell for each declared field, or in a line of delimited fields no more cells than that.

A decimal of Avro data is read again from the text of its digits and its scale, and the program halts over one
whose scale is the least word: such a record has no rows.
-/
namespace RowSql

namespace Json

theorem finite_stepInto? {j j' : Json} {s : Step} (hj : j.Finite) (h : Path.stepInto? j s = some j') : j'.Finite := by
  cases s with
  | key k =>
    cases j with
    | object ms =>
      obtain ⟨m, hm, rfl⟩ := Option.map_eq_some_iff.1 h
      exact finiteMembers_iff.1 hj m (List.mem_of_find?_eq_some hm)
    | null | bool | int | float | text | array => cases h
  | index n =>
    cases j with
    | array items => exact finiteItems_iff.1 hj j' (List.mem_of_getElem? h)
    | null | bool | int | float | text | object => cases h

/-- **What is found in a document has finite floats if the document has.** -/
theorem finite_resolve? {p : Path} {j j' : Json} (hj : j.Finite) (h : p.resolve? j = some j') : j'.Finite := by
  unfold Path.resolve? at h
  generalize p.steps = steps at h
  induction steps generalizing j with
  | nil =>
    cases h
    exact hj
  | cons s steps ih =>
    rw [List.foldlM_cons] at h
    obtain ⟨next, hnext, h⟩ := Option.bind_eq_some_iff.1 h
    exact ih (finite_stepInto? hj hnext) h

end Json

/-! ## Rows -/

/-- **Every row has as many cells as `fits` says, and their numbers are bounded.** -/
def Rows.Bounded (fits : Nat → Prop) (r : Rows) : Prop :=
  ∀ row ∈ r.rows, fits row.length ∧ ∀ v ∈ row, v.Bounded

variable {fits : Nat → Prop} {declared : List Field} {o : Options} {bytes : List UInt8} {rows : Rows}

theorem Rows.bounded_single {row : List Value} (hfits : fits row.length) (h : ∀ v ∈ row, v.Bounded) :
    (Rows.single row).Bounded fits := List.forall_mem_singleton.2 ⟨hfits, h⟩

theorem Csv.bounded_decode {l : Layout} (h : decode l declared bytes = .ok rows) :
    rows.Bounded (· ≤ declared.length) := by
  obtain ⟨text, -, h⟩ := bind_eq_ok.1 h
  dsimp only at h
  split at h
  · cases h
  · cases h
    refine Rows.bounded_single (List.length_take_le _ _) fun v hv => ?_
    obtain ⟨cs, -, rfl⟩ := List.mem_map.1 (List.mem_of_mem_take hv)
    exact Value.bounded_text _

theorem KeyValue.bounded_decode {l : Layout} (h : decode l declared bytes = .ok rows) :
    rows.Bounded (· = declared.length) := by
  obtain ⟨text, -, h⟩ := bind_eq_ok.1 h
  dsimp only at h
  split at h
  · cases h
  · cases h
    refine Rows.bounded_single (List.length_map _) fun v hv => ?_
    obtain ⟨f, -, rfl⟩ := List.mem_map.1 hv
    exact Value.bounded_ofText? _

namespace Document

theorem length_mapM_parse : ∀ {fields : List Field} {paths : List Json.Path},
    fields.mapM (fun f => Json.Path.parse f.path) = .ok paths → paths.length = fields.length
  | [], _, h => by
    cases h
    rfl
  | f :: fs, paths, h => by
    rw [List.mapM_cons] at h
    obtain ⟨p, -, h⟩ := bind_eq_ok.1 h
    obtain ⟨ps, hps, h⟩ := bind_eq_ok.1 h
    cases h
    rw [List.length_cons, List.length_cons, length_mapM_parse hps]

theorem length_paths {l : Layout} (h : Layout.ofOptions declared o = .ok l) : l.paths.length = declared.length := by
  obtain ⟨paths, hpaths, h⟩ := bind_eq_ok.1 h
  dsimp only at h
  split at h
  · obtain ⟨p, -, h⟩ := bind_eq_ok.1 h
    cases h
    exact length_mapM_parse hpaths
  · cases h
    exact length_mapM_parse hpaths

theorem bounded_row (l : Layout) {whole element : Json} (hwhole : whole.Finite) (helement : element.Finite) :
    ∀ v ∈ l.row whole element, v.Bounded := by
  intro v hv
  obtain ⟨p, -, rfl⟩ := List.mem_map.1 hv
  refine Value.bounded_getD fun w hw => ?_
  obtain ⟨j, hj, rfl⟩ := Option.map_eq_some_iff.1 hw
  refine Value.bounded_ofJson (Json.finite_resolve? ?_ hj)
  split
  · exact hwhole
  · exact helement

theorem bounded_rowsOf {l : Layout} {whole : Json} (hwhole : whole.Finite) {rows : List (List Value)}
    (h : l.rowsOf whole = .ok rows) :
    ∀ row ∈ rows, row.length = l.paths.length ∧ ∀ v ∈ row, v.Bounded := by
  have hrow : ∀ {element : Json}, element.Finite →
      (l.row whole element).length = l.paths.length ∧ ∀ v ∈ l.row whole element, v.Bounded :=
    fun helement => ⟨List.length_map _, bounded_row l hwhole helement⟩
  unfold Layout.rowsOf at h
  split at h
  · cases h
    exact List.forall_mem_singleton.2 (hrow hwhole)
  · split at h
    · cases h
      exact List.forall_mem_nil _
    · cases h
      exact List.forall_mem_nil _
    · rename_i items hitems
      cases h
      intro row hmem
      obtain ⟨element, helement, rfl⟩ := List.mem_map.1 hmem
      exact hrow (Json.finiteItems_iff.1 (Json.finite_resolve? hwhole hitems) element helement)
    · cases h

theorem bounded_decode {l : Layout} (h : decode l bytes = .ok rows) : rows.Bounded (· = l.paths.length) := by
  obtain ⟨text, -, h⟩ := bind_eq_ok.1 h
  split at h
  · cases h
  · rename_i whole hparse
    obtain ⟨found, hfound, h⟩ := bind_eq_ok.1 h
    cases h
    exact bounded_rowsOf (Json.finite_of_parse hparse) hfound

end Document

namespace AvroRows

theorem bounded_row {d : Avro.Datum} {cells : List Value} (h : row declared d = .ok cells) :
    cells.length = declared.length ∧ ∀ v ∈ cells, v.Bounded := by
  unfold row at h
  split at h
  · cases h
  · split at h
    · cases h
    · cases h
      refine ⟨List.length_map _, fun v hv => ?_⟩
      obtain ⟨f, -, rfl⟩ := List.mem_map.1 hv
      refine Value.bounded_getD fun w hw => ?_
      obtain ⟨d, -, rfl⟩ := Option.map_eq_some_iff.1 hw
      exact d.bounded_toValue

theorem bounded_rowsFrom : ∀ {index : Nat} {data : List Avro.Datum} {rows : List (List Value)},
    rowsFrom declared index data = .ok rows →
      ∀ cells ∈ rows, cells.length = declared.length ∧ ∀ v ∈ cells, v.Bounded
  | _, [], _, h => by
    cases h
    exact List.forall_mem_nil _
  | index, d :: ds, rows, h => by
    obtain ⟨cells, hcells, h⟩ := bind_eq_ok.1 h
    obtain ⟨rest, hrest, h⟩ := bind_eq_ok.1 h
    cases h
    exact List.forall_mem_cons.2 ⟨bounded_row (mapError_eq_ok.1 hcells), bounded_rowsFrom hrest⟩

theorem bounded_container (h : container declared bytes = .ok rows) : rows.Bounded (· = declared.length) := by
  unfold container at h
  split at h
  · cases h
  · obtain ⟨found, hfound, h⟩ := bind_eq_ok.1 h
    split at h
    · cases h
      exact bounded_rowsFrom hfound
    · cases h

theorem bounded_datum {schema : Avro.Schema} (h : datum schema declared bytes = .ok rows) :
    rows.Bounded (· = declared.length) := by
  unfold datum at h
  split at h
  · cases h
  · split at h
    · cases h
    · obtain ⟨cells, hcells, h⟩ := bind_eq_ok.1 h
      cases h
      exact List.forall_mem_singleton.2 (bounded_row hcells)

theorem bounded_decode {schema : Option Avro.Schema} (h : decode schema declared bytes = .ok rows) :
    rows.Bounded (· = declared.length) := by
  cases schema with
  | none => exact bounded_container h
  | some s => exact bounded_datum h

end AvroRows

namespace Decoder

/-- The cells that a row of a format has: one for each declared field, and at most so many in a line of
delimited fields. -/
def Fits (format : Format) (declared cells : Nat) : Prop := if format = .csv then cells ≤ declared else cells = declared

theorem bounded_build {files : Files} {format : Format} {decoder : Decoder}
    (hbuild : build files format declared o = .ok decoder) (h : decoder.decode bytes = .ok rows) :
    rows.Bounded (Fits format declared.length) := by
  cases format with
  | csv =>
    obtain ⟨l, -, hbuild⟩ := bind_eq_ok.1 hbuild
    cases hbuild
    exact Csv.bounded_decode h
  | kv =>
    obtain ⟨l, -, hbuild⟩ := bind_eq_ok.1 hbuild
    cases hbuild
    exact KeyValue.bounded_decode h
  | json =>
    obtain ⟨l, hl, hbuild⟩ := bind_eq_ok.1 hbuild
    cases hbuild
    have hrows := Document.bounded_decode h
    rw [Document.length_paths hl] at hrows
    exact hrows
  | avro =>
    obtain ⟨schema, -, hbuild⟩ := bind_eq_ok.1 hbuild
    cases hbuild
    exact AvroRows.bounded_decode h

/-- **The numbers in decoded rows are bounded, and no row has a cell too many.**  At any depth of a cell a float
is finite, and a decimal has a scale from -4096 to 4096. -/
theorem decode_bounds {files : Files} {format : Format} {decoder : Decoder}
    (hbuild : build files format declared o = .ok decoder) (h : decoder.decode bytes = .ok rows) :
    ∀ row ∈ rows.rows, (if format = .csv then row.length ≤ declared.length else row.length = declared.length) ∧
      ∀ v ∈ row, ∀ p, Value.Part p v →
        (∀ d, p = .decimal d → -4096 ≤ d.scale ∧ d.scale ≤ 4096) ∧
        ∀ x, p = .float x → x.isFinite = true := by
  intro row hrow
  obtain ⟨hcells, hvalues⟩ := bounded_build hbuild h row hrow
  refine ⟨hcells, fun v hv p hp => ⟨?_, ?_⟩⟩
  · rintro d rfl
    have hscale : d.scale.natAbs ≤ 4096 := hvalues v hv _ hp
    omega
  · rintro x rfl
    exact hvalues v hv _ hp

/-- No files at any path. -/
def noFiles : Files := fun _ => .error Files.notFound

/-- The rows that a decoder gives, if it could be built and the record can be decoded. -/
def rows? (decoder : Except CodecFault Decoder) (bytes : List UInt8) : Option Rows :=
  (decoder >>= fun d => d.decode bytes).toOption

theorem exists_of_rows? {decoder : Except CodecFault Decoder} (h : rows? decoder bytes = some rows) :
    ∃ d, decoder = .ok d ∧ d.decode bytes = .ok rows := by
  refine bind_eq_ok.1 ?_
  unfold rows? at h
  cases hboth : decoder >>= fun d => d.decode bytes with
  | error e =>
    rw [hboth] at h
    cases h
  | ok rows' =>
    rw [hboth] at h
    cases h
    rfl

/-- A document with a number that has a negative exponent, and, deeper, one that no signed word has. -/
def nestedText : List UInt8 := Text.encode "\x7b\"a\":[1e-7,\x7b\"b\":18446744073709551615\x7d]\x7d"

theorem decode_bounds_nested : ∃ decoder rows,
    build noFiles .json [⟨"a", .text, none⟩] .empty = .ok decoder ∧ decoder.decode nestedText = .ok rows ∧
    (rows.cell? 0 0).map Value.render = some "[1E-7, \x7bb=18446744073709551615\x7d]" ∧
    ∀ row ∈ rows.rows, row.length = 1 ∧
      ∀ v ∈ row, ∀ d, Value.Part (.decimal d) v → -4096 ≤ d.scale ∧ d.scale ≤ 4096 := by
  have htext : (rows? (build noFiles .json [⟨"a", .text, none⟩] .empty) nestedText).bind
      (fun rows => (rows.cell? 0 0).map Value.render) = some "[1E-7, \x7bb=18446744073709551615\x7d]" := by
        decide +kernel
  obtain ⟨rows, hrows, hcell⟩ := Option.bind_eq_some_iff.1 htext
  obtain ⟨decoder, hbuild, hdecode⟩ := exists_of_rows? hrows
  refine ⟨decoder, rows, hbuild, hdecode, hcell, fun row hrow => ?_⟩
  obtain ⟨hcells, hparts⟩ := decode_bounds hbuild hdecode row hrow
  exact ⟨hcells, fun v hv d hd => (hparts v hv _ hd).1 d rfl⟩

/-- The schema of a record of one decimal, with its scale beside its digits. -/
def scaledSchema : String :=
  "\x7b\"type\":\"record\",\"name\":\"r\",\"fields\":[\x7b\"name\":\"v\",\"type\":" ++
    "\x7b\"type\":\"bytes\",\"logicalType\":\"big-decimal\"\x7d\x7d]\x7d"

/-- The digit one, and the least word for its scale. -/
def leastScale : List UInt8 := [0x18, 0x02, 0x01, 0xff, 0xff, 0xff, 0xff, 0xff, 0xff, 0xff, 0xff, 0xff, 0x01]

example : (build noFiles .avro [⟨"v", .text, none⟩] (.ofPairs [("schema", .text scaledSchema)]) >>=
    fun d => (d.decode leastScale).map Rows.width) = .error .halt := by decide +kernel

end Decoder

end RowSql
