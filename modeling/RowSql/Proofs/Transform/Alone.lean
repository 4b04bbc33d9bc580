import Mathlib.Data.List.Forall2
import RowSql.Proofs.Transform.Rows
/-!
# Alone — the rows of a record, each by itself

What becomes of a row does not depend on its place in a record, but that a failure tells the place
(`rowText_cases`); where the program halts it tells none.  So a record is its rows, each alone in a record: it
succeeds when all of them do, with their texts one after another, and fails as the first of them that does
(`recordTexts_eq_rows_alone`).
-/
namespace RowSql

/-! ## Places of failures -/

/-- A failure that can tell a place. -/
def CodecFault.tellsPlace : CodecFault → Bool
  | .malformed .. => true
  | .notUtf8 .. => true
  | .unencodable .. => true
  | .badOption .. => false
  | .io .. => false
  | .halt => false

/-- **A failure takes the place it is given, unless it has one or can have none.** -/
theorem CodecFault.location_located (fault : CodecFault) (new : Location) :
    (fault.located new).location = if fault.tellsPlace && fault.location == .record then new else fault.location := by
  cases fault <;> simp [located, location, tellsPlace, pin]

namespace Transform

/-- The fault of an expression, told of each place, or the halt of the program, which is the same at all. -/
def IsPlaced (fault : Nat → TransformFault) : Prop :=
  (∃ field cause, ∀ i, fault i = .eval field i cause) ∨ ∀ i, fault i = .halt

/-- **A computation on a row that depends on the place of the row only in its faults.** -/
def Placed {α : Type} (run : Nat → Except TransformFault α) : Prop :=
  (∃ a, ∀ i, run i = .ok a) ∨ ∃ fault, IsPlaced fault ∧ ∀ i, run i = .error (fault i)

variable (policy : FaultPolicy) (context : Context) (cells : List Value)

theorem onFault_placed (field : String) (cause : EvalFault) : Placed fun i => onFault policy field i cause := by
  cases cause with
  | halt => exact .inr ⟨fun _ => .halt, .inr fun _ => rfl, fun _ => rfl⟩
  | divisionByZero | overflow | badPattern =>
    cases policy with
    | abort => exact .inr ⟨fun i => .eval field i _, .inl ⟨field, _, fun _ => rfl⟩, fun _ => rfl⟩
    | nullField => exact .inl ⟨some .null, fun _ => rfl⟩
    | skipRow => exact .inl ⟨none, fun _ => rfl⟩

theorem admits_placed (condition : Option Expr) : Placed fun i => admits policy context i cells condition := by
  cases condition with
  | none => exact .inl ⟨true, fun _ => rfl⟩
  | some e =>
    simp only [admits]
    cases e.eval context cells with
    | ok v =>
      -- only the truth value true admits
      cases v with
      | bool b => cases b <;> exact .inl ⟨_, fun _ => rfl⟩
      | _ => exact .inl ⟨false, fun _ => rfl⟩
    | error cause =>
      rcases onFault_placed policy conditionField cause with ⟨v, hv⟩ | ⟨fault, hplaced, hf⟩
      · exact .inl ⟨false, fun i => by simp only [hv i, Except.map]⟩
      · exact .inr ⟨fault, hplaced, fun i => by simp only [hf i, Except.map]⟩

theorem columnValue_placed (column : OutputColumn) : Placed fun i => columnValue policy context i cells column := by
  simp only [columnValue]
  cases column.expr.eval context cells with
  | ok v => exact .inl ⟨some v, fun _ => rfl⟩
  | error cause => exact onFault_placed policy column.name cause

theorem columnValues_placed :
    ∀ columns : List OutputColumn, Placed fun i => columnValues policy context i cells columns
  | [] => .inl ⟨some [], fun _ => rfl⟩
  | column :: columns => by
    simp only [columnValues]
    rcases columnValue_placed policy context cells column with ⟨v, hv⟩ | ⟨fault, hplaced, hf⟩
    · simp only [hv]
      cases v with
      | none => exact .inl ⟨none, fun _ => rfl⟩
      | some v =>
        rcases columnValues_placed columns with ⟨rest, hr⟩ | ⟨fault, hplaced, hf⟩
        · exact .inl ⟨rest.map ((column.name, v) :: ·), fun i => by simp only [hr i, Except.map]⟩
        · exact .inr ⟨fault, hplaced, fun i => by simp only [hf i, Except.map]⟩
    · exact .inr ⟨fault, hplaced, fun i => by simp only [hf i]⟩

theorem rowValues_placed (plan : Plan) : Placed fun i => rowValues plan policy context i cells := by
  simp only [rowValues]
  rcases admits_placed policy context cells plan.condition with ⟨b, hb⟩ | ⟨fault, hplaced, hf⟩
  · simp only [hb]
    cases b with
    | false => exact .inl ⟨none, fun _ => rfl⟩
    | true => exact columnValues_placed policy context cells plan.columns
  · exact .inr ⟨fault, hplaced, fun i => by simp only [hf i]⟩

theorem ofEncode_located {cause : CodecFault} (h : cause ≠ .halt) (location : Location) :
    TransformFault.ofEncode (cause.located location) = .encode (cause.located location) := by
  cases cause with
  | halt => exact absurd rfl h
  | badOption | malformed | notUtf8 | unencodable | io => rfl

/-- **What becomes of a row, wherever it stands**: the same text or the same skip, the same fault of an
expression, told of the place, the halt of the program, or the same failure of the encoder, which takes the
place if it has none. -/
theorem rowText_cases (t : Transform) :
    (∃ text, ∀ i, rowText t context i cells = .ok text) ∨
    (∃ fault, IsPlaced fault ∧ ∀ i, rowText t context i cells = .error (fault i)) ∨
    ∃ values cause, t.encoder.encode values = .error cause ∧
      ∀ i, rowText t context i cells = .error (.encode (cause.located (.row i))) := by
  simp only [rowText]
  rcases rowValues_placed t.policy context cells t.plan with ⟨v, hv⟩ | ⟨fault, hplaced, hf⟩
  · simp only [hv]
    cases v with
    | none => exact .inl ⟨none, fun _ => rfl⟩
    | some values =>
      cases he : t.encoder.encode values with
      | ok text => exact .inl ⟨some text, fun _ => by simp only [he]⟩
      | error cause =>
        by_cases hhalt : cause = .halt
        · subst hhalt
          exact .inr (.inl ⟨fun _ => .halt, .inr fun _ => rfl, fun _ => by simp only [he]; rfl⟩)
        · exact .inr (.inr ⟨values, cause, he, fun _ => by simp only [he, ofEncode_located hhalt]⟩)
  · exact .inr (.inl ⟨fault, hplaced, fun i => by simp only [hf i]⟩)

/-! ## Rows by themselves -/

/-- The transform for records that hold these rows. -/
def reading (t : Transform) (rows : Rows) : Transform := { t with decoder := ⟨t.decoder.fields, fun _ => .ok rows⟩ }

/-- **The texts of a record that holds this row and no other.** -/
def alone (t : Transform) (context : Context) (bytes : List UInt8) (width : Nat) (cells : List Value) :
    Except TransformFault (List String) :=
  recordTexts (t.reading ⟨width, [cells]⟩) context bytes

variable {context cells} {t : Transform} {bytes : List UInt8} {width : Nat}

theorem alone_eq (t : Transform) (context : Context) (bytes : List UInt8) (width : Nat) (cells : List Value) :
    alone t context bytes width cells = (rowText t context 0 cells).map Option.toList := by
  have hrow : rowText (t.reading ⟨width, [cells]⟩) context 0 cells = rowText t context 0 cells := rfl
  have hloop : alone t context bytes width cells = rowTexts (t.reading ⟨width, [cells]⟩) context 0 [cells] := rfl
  rw [hloop, rowTexts, hrow]
  cases rowText t context 0 cells <;> simp [rowTexts, Except.map]

theorem alone_of_rowText {text : Option String} {i : Nat} (h : rowText t context i cells = .ok text) :
    alone t context bytes width cells = .ok text.toList := by
  rw [alone_eq]
  rcases rowText_cases context cells t with ⟨text', ht⟩ | ⟨fault, -, hf⟩ | ⟨values, cause, -, hf⟩
  · obtain rfl : text' = text := by simpa [ht i] using h
    rw [ht 0]
    rfl
  · rw [hf i] at h
    cases h
  · rw [hf i] at h
    cases h

theorem rowText_of_alone {out : List String} (h : alone t context bytes width cells = .ok out) (i : Nat) :
    ∃ text, rowText t context i cells = .ok text ∧ out = text.toList := by
  rw [alone_eq] at h
  rcases rowText_cases context cells t with ⟨text, ht⟩ | ⟨fault, -, hf⟩ | ⟨values, cause, -, hf⟩
  · rw [ht 0] at h
    exact ⟨text, ht i, by simpa [Except.map, eq_comm] using h⟩
  · simp [hf 0, Except.map] at h
  · simp [hf 0, Except.map] at h

/-- **A loop over rows succeeds just when each row alone does**, with the texts of each. -/
theorem rowTexts_eq_ok_iff_alone (t : Transform) (context : Context) (bytes : List UInt8) (width : Nat) :
    ∀ (rows : List (List Value)) (index : Nat) (texts : List String),
      rowTexts t context index rows = .ok texts ↔
        ∃ each, List.Forall₂ (fun cells out => alone t context bytes width cells = .ok out) rows each ∧
          texts = each.flatten
  | [], index, texts => by simp [rowTexts, eq_comm]
  | cells :: rows, index, texts => by
    rw [rowTexts_cons_eq_ok]
    constructor
    · rintro ⟨text, rest, ht, hr, rfl⟩
      obtain ⟨each, heach, rfl⟩ := (rowTexts_eq_ok_iff_alone t context bytes width rows (index + 1) rest).1 hr
      exact ⟨text.toList :: each, .cons (alone_of_rowText ht) heach, by rw [List.flatten_cons]⟩
    · rintro ⟨_, heach, rfl⟩
      obtain ⟨out, each, hfirst, hrest, rfl⟩ := List.forall₂_cons_left_iff.1 heach
      obtain ⟨text, ht, rfl⟩ := rowText_of_alone hfirst index
      refine ⟨text, each.flatten, ht, ?_, by rw [List.flatten_cons]⟩
      exact (rowTexts_eq_ok_iff_alone t context bytes width rows (index + 1) _).2 ⟨each, hrest, rfl⟩

/-- **A failure of the row at a place is that of the row alone**, told of that place: always if an expression
faulted, and if the encoder failed, unless it knew a place itself.  The halt of the program tells no place. -/
def FailsAt (t : Transform) (context : Context) (bytes : List UInt8) (width i : Nat) (cells : List Value)
    (fault : TransformFault) : Prop :=
  (∃ field cause, alone t context bytes width cells = .error (.eval field 0 cause) ∧ fault = .eval field i cause) ∨
  (alone t context bytes width cells = .error .halt ∧ fault = .halt) ∨
  ∃ values cause, t.encoder.encode values = .error cause ∧
    alone t context bytes width cells = .error (.encode (cause.located (.row 0))) ∧
    fault = .encode (cause.located (.row i)) ∧
    (cause.located (.row i)).location
      = if cause.tellsPlace && cause.location == .record then .row i else cause.location

theorem failsAt_of_rowText {i : Nat} {fault : TransformFault} (h : rowText t context i cells = .error fault) :
    t.FailsAt context bytes width i cells fault := by
  rcases rowText_cases context cells t with
    ⟨text, ht⟩ | ⟨placed, ⟨field, cause, hplaced⟩ | hplaced, hf⟩ | ⟨values, cause, he, hf⟩
  · rw [ht i] at h
    cases h
  · obtain rfl : .eval field i cause = fault := by simpa [hf i, hplaced i] using h
    exact .inl ⟨field, cause, by rw [alone_eq, hf 0, hplaced 0]; rfl, rfl⟩
  · obtain rfl : .halt = fault := by simpa [hf i, hplaced i] using h
    exact .inr (.inl ⟨by rw [alone_eq, hf 0, hplaced 0]; rfl, rfl⟩)
  · obtain rfl : .encode (cause.located (.row i)) = fault := by simpa [hf i] using h
    exact .inr (.inr ⟨values, cause, he, by rw [alone_eq, hf 0]; rfl, rfl, cause.location_located _⟩)

theorem length_of_alone {out : List String} (h : alone t context bytes width cells = .ok out) : out.length ≤ 1 := by
  obtain ⟨text, -, rfl⟩ := rowText_of_alone h 0
  cases text <;> simp

/-- **The rows of a record do not touch each other.**  A record succeeds just when each of its rows, alone in a
record, does, and its texts are then those of the rows, at most one for each, in order.  Otherwise it fails as
the first row that fails alone, told of the place of that row. -/
theorem recordTexts_eq_rows_alone (t : Transform) (context : Context) (bytes : List UInt8) {decoded : Rows}
    (hdec : t.decoder.decode bytes = .ok decoded) :
    ((∃ texts, recordTexts t context bytes = .ok texts) ↔
      ∀ cells ∈ decoded.rows, ∃ out, alone t context bytes decoded.width cells = .ok out) ∧
    (∀ texts, recordTexts t context bytes = .ok texts →
      ∃ each, List.Forall₂ (fun cells out => alone t context bytes decoded.width cells = .ok out ∧ out.length ≤ 1)
        decoded.rows each ∧ texts = each.flatten) ∧
    (∀ fault, recordTexts t context bytes = .error fault →
      ∃ before cells after, decoded.rows = before ++ cells :: after ∧
        (∀ earlier ∈ before, ∃ out, alone t context bytes decoded.width earlier = .ok out) ∧
        t.FailsAt context bytes decoded.width before.length cells fault) := by
  have hloop : recordTexts t context bytes = rowTexts t context 0 decoded.rows := by simp only [recordTexts, hdec]
  have hok := rowTexts_eq_ok_iff_alone t context bytes decoded.width
  have hall : ∀ rows : List (List Value), (∃ texts, rowTexts t context 0 rows = .ok texts) ↔
      ∀ cells ∈ rows, ∃ out, alone t context bytes decoded.width cells = .ok out := by
    intro rows
    simp only [hok]
    constructor
    · rintro ⟨_, each, heach, rfl⟩ cells hcells
      obtain ⟨i, hi, rfl⟩ := List.getElem_of_mem hcells
      exact ⟨_, (List.forall₂_iff_get.1 heach).2 i hi (heach.length_eq ▸ hi)⟩
    · intro hrows
      choose! out hout using hrows
      exact ⟨_, rows.map out, List.forall₂_map_right_iff.2 (List.forall₂_same.2 hout), rfl⟩
  rw [hloop]
  refine ⟨hall decoded.rows, fun texts h => ?_, fun fault h => ?_⟩
  · obtain ⟨each, heach, rfl⟩ := (hok _ _ _).1 h
    exact ⟨each, heach.imp fun _ _ ho => ⟨ho, length_of_alone ho⟩, rfl⟩
  · obtain ⟨before, cells, after, hrows, hbefore, hfail⟩ := rowTexts_eq_error t context fault decoded.rows 0 h
    rw [Nat.zero_add] at hfail
    exact ⟨before, cells, after, hrows, (hall before).1 hbefore, failsAt_of_rowText hfail⟩

/-- A record is a row for each byte of it; the value is twelve divided by the byte, rows of the byte 1 are left
out, and a value of six cannot be written. -/
def twelfths : Transform where
  decoder := ⟨[], fun bytes => .ok ⟨1, bytes.map fun b => [.ofNat b.toNat]⟩⟩
  plan :=
    { columns := [⟨"part", .arith .div (.literal (.ofNat 12)) (.column 0 .whole)⟩]
      condition := some (.compare .ne (.column 0 .whole) (.literal (.ofNat 1))) }
  policy := .abort
  encoder := ⟨[], fun row =>
    if (row.get "part").same (.ofNat 6) then .error (.unencodable .csv .record "six")
    else .ok (row.get "part").render⟩
  params := []

theorem recordTexts_eq_rows_alone_twelfths :
    twelfths.decoder.decode [4, 1, 3] = .ok ⟨1, [[.ofNat 4], [.ofNat 1], [.ofNat 3]]⟩ ∧
    twelfths.decoder.decode [3, 2, 0] = .ok ⟨1, [[.ofNat 3], [.ofNat 2], [.ofNat 0]]⟩ ∧
    (∃ each, List.Forall₂ (fun cells out => alone twelfths ⟨default, []⟩ [4, 1, 3] 1 cells = .ok out ∧ out.length ≤ 1)
      [[.ofNat 4], [.ofNat 1], [.ofNat 3]] each ∧ ["3", "4"] = each.flatten) ∧
    ∃ before cells after, [[.ofNat 3], [.ofNat 2], [.ofNat 0]] = before ++ cells :: after ∧
      (∀ earlier ∈ before, ∃ out, alone twelfths ⟨default, []⟩ [3, 2, 0] 1 earlier = .ok out) ∧
      twelfths.FailsAt ⟨default, []⟩ [3, 2, 0] 1 before.length cells (.encode (.unencodable .csv (.row 1) "six")) := by
  have hok : recordTexts twelfths ⟨default, []⟩ [4, 1, 3] = .ok ["3", "4"] := by rfl
  have hbad : recordTexts twelfths ⟨default, []⟩ [3, 2, 0] =
      .error (.encode (.unencodable .csv (.row 1) "six")) := by rfl
  obtain ⟨-, h1, -⟩ := recordTexts_eq_rows_alone twelfths ⟨default, []⟩ [4, 1, 3] rfl
  obtain ⟨-, -, h2⟩ := recordTexts_eq_rows_alone twelfths ⟨default, []⟩ [3, 2, 0] rfl
  exact ⟨rfl, rfl, h1 _ hok, h2 _ hbad⟩

end Transform
end RowSql
