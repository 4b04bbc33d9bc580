import RowSql.Transform
/-!
# Rows — the loop over the rows of a record

A loop over rows that succeeds has succeeded on every row, and its texts are those of the rows, one after another
(`rowTexts_append_eq_ok`).  One that fails has failed on a row before which all succeeded (`rowTexts_eq_error`).
-/
namespace RowSql

theorem TransformFault.ofDecode_ne_eval (cause : CodecFault) (field : String) (row : Nat) (fault : EvalFault) :
    ofDecode cause ≠ .eval field row fault := by
  cases cause <;> nofun

theorem TransformFault.ofEncode_ne_eval (cause : CodecFault) (field : String) (row : Nat) (fault : EvalFault) :
    ofEncode cause ≠ .eval field row fault := by
  cases cause <;> nofun

namespace Transform

/-- **A loop that succeeds has succeeded on its first row and on the rows after it.** -/
theorem rowTexts_cons_eq_ok (t : Transform) (context : Context) (index : Nat) (cells : List Value)
    (rows : List (List Value)) (texts : List String) :
    rowTexts t context index (cells :: rows) = .ok texts ↔
      ∃ text rest, rowText t context index cells = .ok text ∧ rowTexts t context (index + 1) rows = .ok rest ∧
        texts = text.toList ++ rest := by
  rw [rowTexts]
  cases rowText t context index cells with
  | error e => simp
  | ok text =>
    cases rowTexts t context (index + 1) rows with
    | error e => simp [Except.map]
    | ok rest => simp [Except.map, eq_comm]

/-- **The texts of rows are those of the first of them and those of the others.** -/
theorem rowTexts_append_eq_ok (t : Transform) (context : Context) :
    ∀ (before after : List (List Value)) (index : Nat) (texts : List String),
      rowTexts t context index (before ++ after) = .ok texts ↔
        ∃ first last, rowTexts t context index before = .ok first ∧
          rowTexts t context (index + before.length) after = .ok last ∧ texts = first ++ last
  | [], after, index, texts => by simp [rowTexts]
  | cells :: before, after, index, texts => by
    have hi : index + (cells :: before).length = index + 1 + before.length := by
      rw [List.length_cons]; omega
    rw [List.cons_append, rowTexts_cons_eq_ok, hi]
    constructor
    · rintro ⟨text, rest, ht, hr, rfl⟩
      obtain ⟨first, last, hf, hl, rfl⟩ := (rowTexts_append_eq_ok t context before after (index + 1) rest).1 hr
      refine ⟨text.toList ++ first, last, ?_, hl, by rw [List.append_assoc]⟩
      exact (rowTexts_cons_eq_ok t context index cells before _).2 ⟨text, first, ht, hf, rfl⟩
    · rintro ⟨first, last, hf, hl, rfl⟩
      obtain ⟨text, rest, ht, hr, rfl⟩ := (rowTexts_cons_eq_ok t context index cells before first).1 hf
      refine ⟨text, rest ++ last, ht, ?_, by rw [List.append_assoc]⟩
      exact (rowTexts_append_eq_ok t context before after (index + 1) _).2 ⟨rest, last, hr, hl, rfl⟩

/-- **A loop that fails has failed on a row before which all rows succeeded**, with the failure of that row. -/
theorem rowTexts_eq_error (t : Transform) (context : Context) (e : TransformFault) :
    ∀ (rows : List (List Value)) (index : Nat), rowTexts t context index rows = .error e →
      ∃ before cells after, rows = before ++ cells :: after ∧
        (∃ texts, rowTexts t context index before = .ok texts) ∧
        rowText t context (index + before.length) cells = .error e
  | [], index, h => by simp [rowTexts] at h
  | cells :: rows, index, h => by
    rw [rowTexts] at h
    cases ht : rowText t context index cells with
    | error e' =>
      rw [ht] at h
      obtain rfl : e' = e := by simpa using h
      exact ⟨[], cells, rows, rfl, ⟨[], rfl⟩, ht⟩
    | ok text =>
      rw [ht] at h
      have hr : rowTexts t context (index + 1) rows = .error e := by
        cases hr : rowTexts t context (index + 1) rows with
        | ok rest => rw [hr] at h; simp [Except.map] at h
        | error e' => rw [hr] at h; simpa [Except.map] using h
      obtain ⟨before, faulty, after, rfl, ⟨texts, hb⟩, hf⟩ := rowTexts_eq_error t context e rows (index + 1) hr
      refine ⟨cells :: before, faulty, after, rfl, ⟨text.toList ++ texts, ?_⟩, ?_⟩
      · exact (rowTexts_cons_eq_ok t context index cells before _).2 ⟨text, texts, ht, hb, rfl⟩
      · rw [← hf, List.length_cons]
        congr 1
        omega

end Transform
end RowSql
