import RowSql.Proofs.Outcome
import RowSql.Proofs.Transform.Rows
/-!
# Policies — what a fault policy changes

Three transforms that differ only in their policy, on one record.  When aborting finds nothing to abort on, the
policy has no say; the other two policies never fail on a fault, unless the program halts, and what is left when
faulty rows are left out is a part, in order, of what is there when faulty values become nothing
(`rowTexts_skipRow_sublist`).  No policy admits a row whose condition faults.
-/
namespace RowSql
namespace Transform

/-- The transform under another policy. -/
def under (t : Transform) (policy : FaultPolicy) : Transform := { t with policy }

/-- There is a result, unless the program halts. -/
def Given {α : Type} (result : Except TransformFault α) : Prop := (∃ a, result = .ok a) ∨ result = .error .halt

/-! ## Faults -/

theorem onFault_abort_ne_ok {field : String} {row : Nat} {cause : EvalFault} {v : Option Value} :
    onFault .abort field row cause ≠ .ok v := by
  cases cause <;> nofun

/-- **A policy that does not abort has something to put in the place of a fault.** -/
theorem onFault_of_ne_abort {policy : FaultPolicy} (hp : policy ≠ .abort) (field : String) (row : Nat)
    (cause : EvalFault) :
    Given (onFault policy field row cause) := by
  cases policy with
  | abort => exact absurd rfl hp
  | nullField => cases cause <;> first | exact .inr rfl | exact .inl ⟨some .null, rfl⟩
  | skipRow => cases cause <;> first | exact .inr rfl | exact .inl ⟨none, rfl⟩

/-! ## Conditions -/

/-- **A condition that has a value admits the same rows under every policy.** -/
theorem admits_of_value {context : Context} {cells : List Value} {condition : Expr} {v : Value}
    (hv : condition.eval context cells = .ok v) (index : Nat) :
    ∃ b, ∀ policy, admits policy context index cells (some condition) = .ok b := by
  simp only [admits, hv]
  cases v with
  | bool b => cases b <;> exact ⟨_, fun _ => rfl⟩
  | _ => exact ⟨false, fun _ => rfl⟩

/-- **A condition that does not abort admits the same rows under every policy.** -/
theorem admits_of_abort {context : Context} {index : Nat} {cells : List Value} {condition : Option Expr} {b : Bool}
    (h : admits .abort context index cells condition = .ok b) (policy : FaultPolicy) :
    admits policy context index cells condition = .ok b := by
  cases condition with
  | none => exact h
  | some e =>
    cases he : e.eval context cells with
    | ok v =>
      obtain ⟨b', hb⟩ := admits_of_value he index
      rw [hb policy, ← hb .abort, h]
    | error cause =>
      simp only [admits, he] at h
      obtain ⟨v, hv, -⟩ := map_eq_ok.1 h
      exact absurd hv onFault_abort_ne_ok

theorem admits_of_ne_abort {policy : FaultPolicy} (hp : policy ≠ .abort) (context : Context) (index : Nat)
    (cells : List Value) (condition : Option Expr) : Given (admits policy context index cells condition) := by
  cases condition with
  | none => exact .inl ⟨true, rfl⟩
  | some e =>
    cases he : e.eval context cells with
    | ok v =>
      obtain ⟨b, hb⟩ := admits_of_value he index
      exact .inl ⟨b, hb policy⟩
    | error cause =>
      rcases onFault_of_ne_abort hp conditionField index cause with ⟨v, hv⟩ | hhalt
      · exact .inl ⟨false, by simp only [admits, he, hv, Except.map]⟩
      · exact .inr (by simp only [admits, he, hhalt, Except.map])

/-- **A condition that faults admits no row.** -/
theorem admits_of_fault {context : Context} {cells : List Value} {condition : Expr} {cause : EvalFault}
    (hc : condition.eval context cells = .error cause) (policy : FaultPolicy) (index : Nat) :
    admits policy context index cells (some condition) ≠ .ok true := by
  simp only [admits, hc]
  intro h
  obtain ⟨v, -, hv⟩ := map_eq_ok.1 h
  cases hv

theorem admits_skipRow (context : Context) (index : Nat) (cells : List Value) (condition : Option Expr) :
    admits .skipRow context index cells condition = admits .nullField context index cells condition := by
  cases condition with
  | none => rfl
  | some e =>
    cases he : e.eval context cells with
    | ok v =>
      obtain ⟨b, hb⟩ := admits_of_value he index
      rw [hb, hb]
    | error cause =>
      simp only [admits, he]
      cases cause <;> rfl

/-! ## Values -/

theorem columnValue_of_abort {context : Context} {index : Nat} {cells : List Value} {column : OutputColumn}
    {v : Option Value} (h : columnValue .abort context index cells column = .ok v) (policy : FaultPolicy) :
    columnValue policy context index cells column = .ok v := by
  unfold columnValue at h ⊢
  cases he : column.expr.eval context cells with
  | ok w => rw [he] at h; exact h
  | error cause =>
    rw [he] at h
    exact absurd h onFault_abort_ne_ok

theorem columnValue_of_ne_abort {policy : FaultPolicy} (hp : policy ≠ .abort) (context : Context) (index : Nat)
    (cells : List Value) (column : OutputColumn) : Given (columnValue policy context index cells column) := by
  unfold columnValue
  cases column.expr.eval context cells with
  | ok v => exact .inl ⟨some v, rfl⟩
  | error cause => exact onFault_of_ne_abort hp column.name index cause

/-- **Leaving a row out either happens at a column or makes no difference there.** -/
theorem columnValue_skipRow (context : Context) (index : Nat) (cells : List Value) (column : OutputColumn) :
    columnValue .skipRow context index cells column = .ok none ∨
      columnValue .skipRow context index cells column = columnValue .nullField context index cells column := by
  unfold columnValue
  cases column.expr.eval context cells with
  | ok v => exact .inr rfl
  | error cause => cases cause <;> first | exact .inl rfl | exact .inr rfl

theorem columnValues_of_abort {context : Context} {index : Nat} {cells : List Value} (policy : FaultPolicy) :
    ∀ {columns : List OutputColumn} {values : Option NamedRow},
      columnValues .abort context index cells columns = .ok values →
      columnValues policy context index cells columns = .ok values
  | [], _, h => h
  | column :: columns, values, h => by
    unfold columnValues at h ⊢
    cases hv : columnValue .abort context index cells column with
    | error e => rw [hv] at h; cases h
    | ok v =>
      rw [hv] at h
      rw [columnValue_of_abort hv policy]
      cases v with
      | none => exact h
      | some v =>
        cases hr : columnValues .abort context index cells columns with
        | error e => rw [hr] at h; cases h
        | ok rest =>
          rw [hr] at h
          rw [columnValues_of_abort policy hr]
          exact h

theorem columnValues_of_ne_abort {policy : FaultPolicy} (hp : policy ≠ .abort) (context : Context) (index : Nat)
    (cells : List Value) :
    ∀ columns : List OutputColumn, Given (columnValues policy context index cells columns)
  | [] => .inl ⟨some [], rfl⟩
  | column :: columns => by
    unfold columnValues
    rcases columnValue_of_ne_abort hp context index cells column with ⟨v, hv⟩ | hhalt
    · rw [hv]
      cases v with
      | none => exact .inl ⟨none, rfl⟩
      | some v =>
        rcases columnValues_of_ne_abort hp context index cells columns with ⟨rest, hr⟩ | hhalt
        · exact .inl ⟨rest.map ((column.name, v) :: ·), by rw [hr]; rfl⟩
        · exact .inr (by rw [hhalt]; rfl)
    · exact .inr (by rw [hhalt])

theorem columnValues_skipRow (context : Context) (index : Nat) (cells : List Value) :
    ∀ columns : List OutputColumn,
      columnValues .skipRow context index cells columns = .ok none ∨
        columnValues .skipRow context index cells columns = columnValues .nullField context index cells columns
  | [] => .inr rfl
  | column :: columns => by
    unfold columnValues
    rcases columnValue_skipRow context index cells column with hv | hv
    · rw [hv]; exact .inl rfl
    · rw [hv]
      cases columnValue .nullField context index cells column with
      | error fault => exact .inr rfl
      | ok v => cases v with
        | none => exact .inr rfl
        | some v =>
          rcases columnValues_skipRow context index cells columns with hr | hr
          · rw [hr]; exact .inl rfl
          · rw [hr]; exact .inr rfl

/-! ## Rows -/

theorem rowValues_of_abort {plan : Plan} {context : Context} {index : Nat} {cells : List Value}
    {values : Option NamedRow}
    (h : rowValues plan .abort context index cells = .ok values) (policy : FaultPolicy) :
    rowValues plan policy context index cells = .ok values := by
  unfold rowValues at h ⊢
  cases ha : admits .abort context index cells plan.condition with
  | error e => rw [ha] at h; cases h
  | ok b =>
    rw [ha] at h
    rw [admits_of_abort ha policy]
    cases b with
    | false => exact h
    | true => exact columnValues_of_abort policy h

theorem rowValues_of_ne_abort {policy : FaultPolicy} (hp : policy ≠ .abort) (plan : Plan) (context : Context)
    (index : Nat) (cells : List Value) : Given (rowValues plan policy context index cells) := by
  unfold rowValues
  rcases admits_of_ne_abort hp context index cells plan.condition with ⟨b, hb⟩ | hhalt
  · rw [hb]
    cases b with
    | false => exact .inl ⟨none, rfl⟩
    | true => exact columnValues_of_ne_abort hp context index cells plan.columns
  · exact .inr (by rw [hhalt])

theorem rowValues_skipRow (plan : Plan) (context : Context) (index : Nat) (cells : List Value) :
    rowValues plan .skipRow context index cells = .ok none ∨
      rowValues plan .skipRow context index cells = rowValues plan .nullField context index cells := by
  unfold rowValues
  rw [admits_skipRow]
  cases admits .nullField context index cells plan.condition with
  | error fault => exact .inr rfl
  | ok b => cases b with
    | false => exact .inr rfl
    | true => exact columnValues_skipRow context index cells plan.columns

theorem rowText_of_rowValues {t : Transform} {p q : FaultPolicy} {context : Context} {index : Nat} {cells : List Value}
    (h : rowValues t.plan p context index cells = rowValues t.plan q context index cells) :
    rowText (t.under p) context index cells = rowText (t.under q) context index cells := by
  simp only [rowText, under, h]

/-- **A row on which nothing aborts has the same text under every policy.** -/
theorem rowText_of_abort {t : Transform} {context : Context} {index : Nat} {cells : List Value} {text : Option String}
    (h : rowText (t.under .abort) context index cells = .ok text) (policy : FaultPolicy) :
    rowText (t.under policy) context index cells = .ok text := by
  rw [← h]
  apply rowText_of_rowValues
  cases hv : rowValues t.plan .abort context index cells with
  | error e => simp [rowText, under, hv] at h
  | ok values => exact rowValues_of_abort hv policy

/-- **A policy that does not abort leaves no fault of an expression.** -/
theorem rowText_ne_eval {policy : FaultPolicy} (hp : policy ≠ .abort) (t : Transform) (context : Context) (index : Nat)
    (cells : List Value) (field : String) (row : Nat) (cause : EvalFault) :
    rowText (t.under policy) context index cells ≠ .error (.eval field row cause) := by
  intro h
  rcases rowValues_of_ne_abort hp t.plan context index cells with ⟨values, hv⟩ | hhalt
  · simp only [rowText, under, hv] at h
    cases values with
    | none => cases h
    | some values => cases he : t.encoder.encode values with
      | ok text => simp [he] at h
      | error cause =>
        simp only [he, Except.error.injEq] at h
        exact TransformFault.ofEncode_ne_eval _ _ _ _ h
  · simp only [rowText, under, hhalt] at h
    cases h

/-- **Leaving faulty rows out either leaves a row out or makes no difference to it.** -/
theorem rowText_skipRow (t : Transform) (context : Context) (index : Nat) (cells : List Value) :
    rowText (t.under .skipRow) context index cells = .ok none ∨
      rowText (t.under .skipRow) context index cells = rowText (t.under .nullField) context index cells := by
  rcases rowValues_skipRow t.plan context index cells with h | h
  · exact .inl (by simp only [rowText, under, h])
  · exact .inr (rowText_of_rowValues h)

/-- **A row whose condition faults has no text.** -/
theorem rowText_of_condition_fault {t : Transform} {context : Context} {index : Nat} {cells : List Value}
    {condition : Expr} {cause : EvalFault} (hw : t.plan.condition = some condition)
    (hc : condition.eval context cells = .error cause) {text : Option String}
    (h : rowText t context index cells = .ok text) : text = none := by
  simp only [rowText, rowValues, hw] at h
  have hne := admits_of_fault hc t.policy index
  cases ha : admits t.policy context index cells (some condition) with
  | error e => simp [ha] at h
  | ok b =>
    cases b with
    | true => exact absurd ha hne
    | false => simpa [ha] using h.symm

/-! ## Records -/

theorem rowTexts_of_abort {t : Transform} {context : Context} (policy : FaultPolicy) :
    ∀ {rows : List (List Value)} {index : Nat} {texts : List String},
      rowTexts (t.under .abort) context index rows = .ok texts →
        rowTexts (t.under policy) context index rows = .ok texts
  | [], _, _, h => h
  | cells :: rows, index, texts, h => by
    obtain ⟨text, rest, ht, hr, rfl⟩ := (rowTexts_cons_eq_ok _ context index cells rows texts).1 h
    exact (rowTexts_cons_eq_ok _ context index cells rows _).2
      ⟨text, rest, rowText_of_abort ht policy, rowTexts_of_abort policy hr, rfl⟩

theorem rowTexts_skipRow_sublist {t : Transform} {context : Context} :
    ∀ {rows : List (List Value)} {index : Nat} {texts : List String},
      rowTexts (t.under .nullField) context index rows = .ok texts →
      ∃ kept, rowTexts (t.under .skipRow) context index rows = .ok kept ∧ kept.Sublist texts
  | [], _, texts, h => ⟨texts, h, List.Sublist.refl texts⟩
  | cells :: rows, index, texts, h => by
    obtain ⟨text, rest, ht, hr, rfl⟩ := (rowTexts_cons_eq_ok _ context index cells rows texts).1 h
    obtain ⟨kept, hk, hs⟩ := rowTexts_skipRow_sublist hr
    rcases rowText_skipRow t context index cells with hn | he
    · refine ⟨kept, ?_, hs.trans (List.sublist_append_right text.toList rest)⟩
      exact (rowTexts_cons_eq_ok _ context index cells rows _).2 ⟨none, kept, hn, hk, rfl⟩
    · refine ⟨text.toList ++ kept, ?_, List.Sublist.append (List.Sublist.refl text.toList) hs⟩
      exact (rowTexts_cons_eq_ok _ context index cells rows _).2 ⟨text, kept, he.trans ht, hk, rfl⟩

theorem rowTexts_ne_eval {policy : FaultPolicy} (hp : policy ≠ .abort) (t : Transform) (context : Context)
    (rows : List (List Value)) (index : Nat) (field : String) (row : Nat) (cause : EvalFault) :
    rowTexts (t.under policy) context index rows ≠ .error (.eval field row cause) := by
  intro h
  obtain ⟨before, cells, after, -, -, hf⟩ := rowTexts_eq_error _ context _ rows index h
  exact rowText_ne_eval hp t context _ cells field row cause hf

/-- **A row whose condition faults adds nothing**: the texts are those of the rows around it. -/
theorem rowTexts_of_condition_fault {t : Transform} {context : Context} {before after : List (List Value)}
    {cells : List Value} {condition : Expr} {cause : EvalFault} (hw : t.plan.condition = some condition)
    (hc : condition.eval context cells = .error cause) {index : Nat} {texts : List String}
    (h : rowTexts t context index (before ++ cells :: after) = .ok texts) :
    ∃ first last, rowTexts t context index before = .ok first ∧
      rowTexts t context (index + before.length + 1) after = .ok last ∧ texts = first ++ last := by
  obtain ⟨first, others, hf, ho, rfl⟩ := (rowTexts_append_eq_ok t context before (cells :: after) index texts).1 h
  obtain ⟨text, last, ht, hl, rfl⟩ := (rowTexts_cons_eq_ok t context _ cells after others).1 ho
  obtain rfl := rowText_of_condition_fault hw hc ht
  exact ⟨first, last, hf, hl, rfl⟩

/-- **The hierarchy of the policies**, on every record in every context.  Texts that come out under aborting
come out under every policy.  The other policies never end in the fault of an expression.  What comes out when
faulty rows are left out is a sublist of what comes out when faulty values become nothing.  And where a row has
a condition that faults, whatever comes out is what comes out of the rows before it and of those after it. -/
theorem recordTexts_policies (t : Transform) (context : Context) (bytes : List UInt8) :
    (∀ texts, recordTexts (t.under .abort) context bytes = .ok texts →
      ∀ policy, recordTexts (t.under policy) context bytes = .ok texts) ∧
    (∀ policy, policy ≠ .abort → ∀ field row cause,
      recordTexts (t.under policy) context bytes ≠ .error (.eval field row cause)) ∧
    (∀ texts, recordTexts (t.under .nullField) context bytes = .ok texts →
      ∃ kept, recordTexts (t.under .skipRow) context bytes = .ok kept ∧ kept.Sublist texts) ∧
    (∀ policy decoded before cells after condition cause texts,
      t.decoder.decode bytes = .ok decoded → decoded.rows = before ++ cells :: after →
      t.plan.condition = some condition → condition.eval context cells = .error cause →
      recordTexts (t.under policy) context bytes = .ok texts →
      ∃ first last, rowTexts (t.under policy) context 0 before = .ok first ∧
        rowTexts (t.under policy) context (before.length + 1) after = .ok last ∧ texts = first ++ last) := by
  have hdec : ∀ policy, (t.under policy).decoder = t.decoder := fun _ => rfl
  simp only [recordTexts, hdec]
  cases t.decoder.decode bytes with
  | error cause =>
    have hdecode : ∀ policy : FaultPolicy, policy ≠ .abort →
        ∀ field row fault, Except.error (TransformFault.ofDecode cause) ≠
        (Except.error (.eval field row fault) : Except TransformFault (List String)) :=
      fun _ _ field row fault h => TransformFault.ofDecode_ne_eval cause field row fault (Except.error.inj h)
    exact ⟨nofun, hdecode, nofun, nofun⟩
  | ok decoded =>
    refine ⟨fun texts h policy => rowTexts_of_abort policy h,
      fun policy hp => rowTexts_ne_eval hp t context decoded.rows 0,
      fun texts h => rowTexts_skipRow_sublist h, ?_⟩
    rintro policy _ before cells after condition cause texts ⟨⟩ hr hw hc h
    dsimp only at h
    rw [hr] at h
    obtain ⟨first, last, hf, hl, ht⟩ := rowTexts_of_condition_fault (t := t.under policy) hw hc h
    exact ⟨first, last, hf, by rwa [Nat.zero_add] at hl, ht⟩

/-- A record is a row for each byte `a` of it; the value is `6 / a`, and the condition is `6 % (a - 1) < 9`. -/
def sixths : Transform where
  decoder := ⟨[], fun bytes => .ok ⟨1, bytes.map fun b => [.ofNat b.toNat]⟩⟩
  plan :=
    { columns := [⟨"sixth", .arith .div (.literal (.ofNat 6)) (.column 0 .whole)⟩]
      condition := some (.compare .lt
        (.arith .rem (.literal (.ofNat 6)) (.arith .sub (.column 0 .whole) (.literal (.ofNat 1))))
          (.literal (.ofNat 9))) }
  policy := .abort
  encoder := ⟨[], fun row => .ok (if (row.get "sixth").isNull then "nothing" else "value")⟩
  params := []

theorem recordTexts_policies_sixths :
    (recordTexts (sixths.under .abort) ⟨default, []⟩ [2, 3] = .ok ["value", "value"] ∧
      ∀ policy, recordTexts (sixths.under policy) ⟨default, []⟩ [2, 3] = .ok ["value", "value"]) ∧
    (FaultPolicy.skipRow ≠ .abort ∧ ∀ field row cause,
      recordTexts (sixths.under .skipRow) ⟨default, []⟩ [1, 0, 2] ≠ .error (.eval field row cause)) ∧
    (recordTexts (sixths.under .nullField) ⟨default, []⟩ [1, 0, 2] = .ok ["nothing", "value"] ∧
      ∃ kept, recordTexts (sixths.under .skipRow) ⟨default, []⟩ [1, 0, 2] = .ok kept ∧
        kept.Sublist ["nothing", "value"]) ∧
    ∃ first last, rowTexts (sixths.under .nullField) ⟨default, []⟩ 0 [] = .ok first ∧
      rowTexts (sixths.under .nullField) ⟨default, []⟩ 1 [[.ofNat 0], [.ofNat 2]] = .ok last ∧
      ["nothing", "value"] = first ++ last := by
  have habort : recordTexts (sixths.under .abort) ⟨default, []⟩ [2, 3] = .ok ["value", "value"] := rfl
  have hnull : recordTexts (sixths.under .nullField) ⟨default, []⟩ [1, 0, 2] = .ok ["nothing", "value"] := rfl
  obtain ⟨h1, -⟩ := recordTexts_policies sixths ⟨default, []⟩ [2, 3]
  obtain ⟨-, h2, h3, h4⟩ := recordTexts_policies sixths ⟨default, []⟩ [1, 0, 2]
  refine ⟨⟨habort, h1 _ habort⟩, ⟨by decide, h2 .skipRow (by decide)⟩, ⟨hnull, h3 _ hnull⟩, ?_⟩
  -- the condition faults on the row of the byte 1, before the other two
  exact h4 .nullField _ [] [.ofNat 1] _ _ .divisionByZero _ rfl rfl rfl rfl hnull

end Transform
end RowSql
