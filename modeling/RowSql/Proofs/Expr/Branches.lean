import RowSql.Function.Builtin
import RowSql.Proofs.Expr.Membership
import RowSql.Proofs.Function.Registry
/-!
# Branches — the forms that choose

The forms of expressions that choose what they evaluate are the searched form of `case`.  A branch of the simple
form is taken where the comparison of its value with the operand is true (`evalWhen_of_evalOf`), a choice
between two expressions is one branch (`evalChoice_eq`), and the first value that is there is that of the first
branch with a value (`evalFirst_eq`).  The simple form may fail where the searched one does not: it evaluates
the operand even where there is no branch, and the values of branches even where the operand is nothing.
-/
namespace RowSql
namespace Expr

variable {context : Context} {row : List Value}

theorem truth_compare_ok {l r : Expr} {a b : Value} {o : Option Ordering} (hl : eval context row l = .ok a)
    (hr : eval context row r = .ok b) (ho : a.orderTo b = .ok o) (op : CompareOp) :
    truth context row (.compare op l r) = .ok (o.map op.holds) := by
  by_cases ha : a.isNull = true
  · obtain rfl := Value.eq_null_of_isNull ha
    cases ho
    rw [truth, eval_compare_null hl]
    rfl
  · rw [truth_compare_present hl (by simpa using ha), orderOf, hr]
    change _ <$> a.orderTo b = _
    rw [ho]
    rfl

/-- The branches of a simple form as those of a searched one. -/
def conditionsOf (operand : Expr) (branches : List (Expr × Expr)) : List (Expr × Expr) :=
  branches.map fun b => (.compare .eq operand b.1, b.2)

/-- **A branch is taken in the searched form where it is in the simple one.** -/
theorem evalWhen_of_evalOf {operand : Expr} {v : Value} (ho : eval context row operand = .ok v) :
    ∀ {branches : List (Expr × Expr)} {result : Option Value}, evalOf context row v branches = .ok result →
      evalWhen context row (conditionsOf operand branches) = .ok result
  | [], _, h => h
  | (candidate, value) :: branches, result, h => by
    rw [evalOf] at h
    obtain ⟨w, hw, h⟩ := bind_eq_ok.1 h
    obtain ⟨o, horder, hrest⟩ := bind_eq_ok.1 h
    obtain ⟨u, hu, htruth⟩ := map_eq_ok.1 (truth_compare_ok ho hw horder .eq)
    rw [conditionsOf, List.map_cons, evalWhen, hu]
    change (if u.toBool? == some true then _ else _) = Except.ok result
    have htaken : (u.toBool? == some true) = (o == some .eq) := by
      rw [htruth]
      rcases o with _ | _ | _ | _ <;> rfl
    rw [htaken]
    by_cases heq : (o == some .eq) = true
    · rw [if_pos heq] at hrest ⊢
      exact hrest
    · rw [if_neg heq] at hrest ⊢
      exact evalWhen_of_evalOf ho hrest

theorem eval_caseWhen_of_caseOf {operand otherwise : Expr} {branches : List (Expr × Expr)} {v : Value}
    (h : eval context row (.caseOf operand branches otherwise) = .ok v) :
    eval context row (.caseWhen (conditionsOf operand branches) otherwise) = .ok v := by
  rw [eval] at h
  obtain ⟨u, hu, hbranches⟩ := bind_eq_ok.1 h
  obtain ⟨result, hresult, hrest⟩ := bind_eq_ok.1 hbranches
  rw [eval, evalWhen_of_evalOf hu hresult]
  exact hrest

theorem evalChoice_eq (condition yes no : Expr) :
    evalChoice context row [condition, yes, no] = eval context row (.caseWhen [(condition, yes)] no) := by
  rw [evalChoice, eval, evalWhen, evalWhen]
  cases eval context row condition with
  | error fault => rfl
  | ok v =>
    change (if v.toBool? == some true then _ else _) = ((if v.toBool? == some true then _ else _) >>= _)
    by_cases hv : (v.toBool? == some true) = true
    · rw [if_pos hv, if_pos hv]
      cases eval context row yes <;> rfl
    · rw [if_neg hv, if_neg hv]
      rfl

/-- The branches of the expressions where they have values. -/
def presentBranches (es : List Expr) : List (Expr × Expr) := es.map fun e => (.isNull e true, e)

theorem evalFirst_eq (es : List Expr) :
    evalFirst context row es = eval context row (.caseWhen (presentBranches es) (.literal .null)) := by
  induction es with
  | nil =>
    rw [evalFirst, eval, presentBranches, List.map_nil, evalWhen]
    rfl
  | cons e es ih =>
    have hthere : eval context row (.isNull e true) =
        (do return .bool ((← eval context row e).isNull != true)) := by rw [eval]
    rw [eval] at ih ⊢
    rw [evalFirst, presentBranches, List.map_cons, evalWhen, hthere]
    cases he : eval context row e with
    | error fault => rfl
    | ok v =>
      change (if v.isNull then _ else _) =
        ((if (Value.bool (v.isNull != true)).toBool? == some true then _ else _) >>= _)
      by_cases hv : v.isNull = true
      · rw [if_pos hv, hv, ih]
        rfl
      · have hpresent : v.isNull = false := by simpa using hv
        rw [if_neg hv, hpresent]
        rfl

/-! ## The functions that choose -/

theorem resolve_if : Builtin.registry.resolve "if" 3 = .ok .choice := by
  rw [Builtin.registry, Registry.ofForms_eq]
  rfl

theorem resolve_coalesce (count : Nat) : Builtin.registry.resolve "coalesce" (count + 1) = .ok .firstPresent := by
  rw [Builtin.registry, Registry.ofForms_eq]
  rfl

theorem resolve_ifnull : Builtin.registry.resolve "ifnull" 2 = .ok .firstPresent := by
  rw [Builtin.registry, Registry.ofForms_eq]
  rfl

/-- **The forms that choose agree.**  A simple form of `case` that has a value has that of the searched form
over comparisons of its operand.  A call of `if` has the value or the fault of the searched form with one
branch, one of `coalesce` that of the searched form with a branch for each argument, taken where it is there,
and `ifnull` is `coalesce` on two arguments. -/
theorem eval_conditional_forms (context : Context) (row : List Value) :
    (∀ operand branches otherwise v, eval context row (.caseOf operand branches otherwise) = .ok v →
      eval context row (.caseWhen (branches.map fun b => (.compare .eq operand b.1, b.2)) otherwise) = .ok v) ∧
    (∃ f, Builtin.registry.resolve "if" 3 = .ok f ∧ ∀ condition yes no,
      eval context row (.call f [condition, yes, no]) = eval context row (.caseWhen [(condition, yes)] no)) ∧
    (∀ args, args ≠ [] → ∃ f, Builtin.registry.resolve "coalesce" args.length = .ok f ∧
      eval context row (.call f args) =
        eval context row (.caseWhen (args.map fun a => (.isNull a true, a)) (.literal .null))) ∧
    ∀ a b, ∃ f g, Builtin.registry.resolve "ifnull" 2 = .ok f ∧ Builtin.registry.resolve "coalesce" 2 = .ok g ∧
      eval context row (.call f [a, b]) = eval context row (.call g [a, b]) := by
  refine ⟨fun operand branches otherwise v h => eval_caseWhen_of_caseOf h, ⟨_, resolve_if, fun condition yes no => ?_⟩,
    fun args hargs => ⟨.firstPresent, ?_, ?_⟩, fun a b => ⟨_, _, resolve_ifnull, resolve_coalesce 1, rfl⟩⟩
  · rw [← evalChoice_eq, eval]
  · obtain ⟨first, rest, rfl⟩ := List.exists_cons_of_ne_nil hargs
    exact resolve_coalesce rest.length
  · rw [eval]
    exact evalFirst_eq args

/-- A text that is equal to a number in the third of four branches, behind nothing and before a branch that
would fail. -/
def numberWords : List (Expr × Expr) :=
  [(.literal (.int 1), byZero), (.literal .null, byZero), (.literal (.int 2), .literal (.text "two")), (byZero, byZero)]

theorem eval_conditional_forms_numberWords :
    eval default [.text "2.0"] (.caseOf (.column 0 .text) numberWords byZero) = .ok (.text "two") ∧
    eval default [.text "2.0"] (.caseWhen (numberWords.map fun b => (.compare .eq (.column 0 .text) b.1, b.2)) byZero) =
      .ok (.text "two") ∧
    [Expr.column 1 .text, .column 0 .text, byZero] ≠ [] ∧
    eval default [.text "2.0"] (.caseWhen ([.column 1 .text, .column 0 .text, byZero].map fun a => (.isNull a true, a))
      (.literal .null)) = .ok (.text "2.0") := by
  have hsimple : eval default [.text "2.0"] (.caseOf (.column 0 .text) numberWords byZero) = .ok (.text "two") := by rfl
  have hargs : [Expr.column 1 .text, .column 0 .text, byZero] ≠ [] := nofun
  obtain ⟨hcase, -, hcoalesce, -⟩ := eval_conditional_forms default [.text "2.0"]
  obtain ⟨f, hf, hvalue⟩ := hcoalesce _ hargs
  obtain rfl : f = .firstPresent := Except.ok.inj (hf.symm.trans (resolve_coalesce 2))
  exact ⟨hsimple, hcase _ _ _ _ hsimple, hargs, hvalue.symm.trans (by rfl)⟩

end Expr
end RowSql
