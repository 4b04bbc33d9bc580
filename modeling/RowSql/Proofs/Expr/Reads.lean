import RowSql.Proofs.Expr.Alike
/-!
# Reads — what an expression reads of a row and of a context

An expression reads a row through its columns and a context through its parameters and functions, and through
nothing else (`eval_of_readsAlike`).  A column takes a cell that is missing, nothing or the empty text for
nothing, so rows in which these stand for each other have one result (`eval_of_filled_eq`).
-/
namespace RowSql
namespace Expr

/-- **Two rows in two contexts are read alike by an expression**: by the columns, the parameters and the
functions within it. -/
structure ReadsAlike (context context' : Context) (row row' : List Value) (e : Expr) : Prop where
  column : ∀ index type, Within (.column index type) e →
    eval context row (.column index type) = eval context' row' (.column index type)
  param : ∀ name, Within (.param name) e → context.param? name = context'.param? name
  call : ∀ f args, Within (.call f args) e → ∀ vs : List Value, vs.length = args.length →
    f.apply context vs = f.apply context' vs

variable {context context' : Context} {row row' : List Value} {e a : Expr}

theorem ReadsAlike.operand (h : ReadsAlike context context' row row' e) (ha : a ∈ e.operands) :
    ReadsAlike context context' row row' a where
  column index type hx := h.column index type (.operand ha hx)
  param name hx := h.param name (.operand ha hx)
  call f args hx := h.call f args (.operand ha hx)

theorem sameBranches_of_forall {branches : List (Expr × Expr)}
    (h : ∀ a ∈ branches.flatMap (fun b => [b.1, b.2]), SameResult context context' row row' a a) :
    List.Forall₂ (SameBranch context context' row row') branches branches := by
  refine List.forall₂_same.2 fun b hb => ⟨h b.1 ?_, h b.2 ?_⟩ <;> exact List.mem_flatMap.2 ⟨b, hb, by simp⟩

/-- **What is not read does not count**: rows and contexts that an expression reads alike give it one result. -/
theorem eval_of_readsAlike (h : ReadsAlike context context' row row' e) :
    e.eval context row = e.eval context' row' := by
  revert h
  refine of_operands (P := fun e => ReadsAlike context context' row row' e →
    SameResult context context' row row' e e) ?_ e
  intro e ih h
  have hop : ∀ a ∈ e.operands, SameResult context context' row row' a a := fun a ha => ih a ha (h.operand ha)
  cases e with
  | literal v => rfl
  | column index type => exact h.column index type (.self _)
  | param name => rw [SameResult, eval, eval, h.param name (.self _)]
  | arith op l r => exact .arith op (hop l (by simp [operands])) (hop r (by simp [operands]))
  | neg e => exact .neg (hop e (by simp [operands]))
  | compare op l r => exact .compare op (hop l (by simp [operands])) (hop r (by simp [operands]))
  | not e => exact .not (hop e (by simp [operands]))
  | and l r => exact .and (hop l (by simp [operands])) (hop r (by simp [operands]))
  | or l r => exact .or (hop l (by simp [operands])) (hop r (by simp [operands]))
  | isNull e negated => exact .isNull (hop e (by simp [operands])) negated
  | between e low high negated =>
    exact .between (hop e (by simp [operands])) (hop low (by simp [operands])) (hop high (by simp [operands])) negated
  | inList e items negated =>
    exact .inList (hop e (by simp [operands])) (List.forall₂_same.2 fun a ha => hop a (by simp [operands, ha])) negated
  | like e pattern negated ignoreCase =>
    exact .like (hop e (by simp [operands])) (hop pattern (by simp [operands])) negated ignoreCase
  | concat l r => exact .concat (hop l (by simp [operands])) (hop r (by simp [operands]))
  | cast e type => exact .cast (hop e (by simp [operands])) type
  | caseWhen branches otherwise =>
    obtain ⟨hbranches, hotherwise⟩ := List.forall_mem_append.1 hop
    exact .caseWhen (sameBranches_of_forall hbranches) (hotherwise otherwise (List.mem_singleton_self _))
  | caseOf operand branches otherwise =>
    obtain ⟨hoperand, hrest⟩ := List.forall_mem_cons.1 hop
    obtain ⟨hbranches, hotherwise⟩ := List.forall_mem_append.1 hrest
    exact .caseOf hoperand (sameBranches_of_forall hbranches) (hotherwise otherwise (List.mem_singleton_self _))
  | call f args => exact .call (List.forall₂_same.2 hop) (h.call f args (.self _))

/-! ## Cells that are not there -/

/-- **The cells of a row as they are taken**: one that is missing or holds the empty text is nothing. -/
def filled (row : List Value) (index : Nat) : Value :=
  match row[index]? with
  | none => .null
  | some (.text "") => .null
  | some v => v

theorem readColumn_eq (row : List Value) (index : Nat) (type : FieldType) :
    readColumn row index type = if (filled row index).isNull then .null else type.coerce (filled row index) := by
  unfold readColumn filled
  cases row[index]? with
  | none => rfl
  | some v =>
    cases v with
    | text s =>
      by_cases hs : s = ""
      · subst hs
        rfl
      · simp [hs, Value.isNull]
    | _ => rfl

theorem columnHalts_eq (row : List Value) (index : Nat) (type : FieldType) :
    columnHalts row index type = type.halts (filled row index) := by
  have hnull : type.halts .null = false := Bool.and_false _
  have hempty : type.halts (.text "") = false := Bool.and_false _
  unfold columnHalts filled
  split
  · rename_i hcell
    rw [hcell, hnull]
    rfl
  · rename_i hcell
    rw [hcell, hnull, Option.any_some, hempty]
  · rename_i hcell
    rw [hcell, Option.any_some]

/-- **The cell as it is taken is all that a column reads of a row.** -/
theorem eval_column_eq {i j : Nat} (h : filled row i = filled row' j) (context : Context) (type : FieldType) :
    eval context row (.column i type) = eval context row' (.column j type) := by
  rw [eval, eval, readColumn_eq, readColumn_eq, columnHalts_eq, columnHalts_eq, h]

theorem filled_eq_of_cell {i j : Nat} (h : row[i]?.getD .null = row'[j]?.getD .null) :
    filled row i = filled row' j := by
  have hcell : ∀ (r : List Value) (k : Nat), filled r k = filled [r[k]?.getD .null] 0 := by
    intro r k
    unfold filled
    cases r[k]? <;> rfl
  rw [hcell row i, hcell row' j, h]

/-- **Missing cells, empty cells and cells of nothing stand for each other**: on two rows that are one row when
missing cells and empty texts are taken for nothing, every expression has one value or one fault. -/
theorem eval_of_filled_eq (h : filled row = filled row') (context : Context) (e : Expr) :
    e.eval context row = e.eval context row' :=
  eval_of_readsAlike
    { column := fun index type _ => eval_column_eq (congrFun h index) context type
      param := fun _ _ => rfl
      call := fun _ _ _ _ _ => rfl }

/-- The second or else the third column where there is nothing in the first one. -/
def secondChoice : Expr :=
  .caseWhen [(.isNull (.column 0 .text) false, .call .firstPresent [.column 2 .whole, .column 1 .whole])]
    (.column 0 .text)

theorem eval_of_filled_eq_secondChoice :
    filled [.text "", .text "7", .text ""] = filled [.null, .text "7"] ∧
    secondChoice.eval default [.text "", .text "7", .text ""] = secondChoice.eval default [.null, .text "7"] ∧
    secondChoice.eval default [.null, .text "7"] = .ok (.int 7) := by
  have h : filled [.text "", .text "7", .text ""] = filled [.null, .text "7"] := by
    funext index
    match index with
    | 0 | 1 | 2 | _ + 3 => rfl
  exact ⟨h, eval_of_filled_eq h default secondChoice, by rfl⟩

end Expr
end RowSql
