import RowSql.Proofs.Expr.Connectives
/-!
# Membership — a value among those of a list

A comparison with a list is the chain of `or` over the comparisons with its items.  The loop over the items
carries whether one of them had no order with the value, and the chain carries the truth value of what stands to
the left; both are a known `false` or an unknown truth value before the next item (`evalMember_eq`).  An item is
evaluated exactly if the value is there and none of the items before it fails or is equal to the value
(`evaluates_item_iff`); a fault in its place is then the fault of the whole, and otherwise what stands in its
place does not count.
-/
namespace RowSql

namespace Expr

variable {context : Context} {row : List Value} {e item : Expr} {items rest : List Expr} {v w : Value}

/-! ## Comparisons -/

theorem eval_compare_error {fault : EvalFault} (he : eval context row e = .error fault) (op : CompareOp) (r : Expr) :
    eval context row (.compare op e r) = .error fault := by
  rw [eval, he]
  rfl

theorem eval_compare_null (he : eval context row e = .ok .null) (op : CompareOp) (r : Expr) :
    eval context row (.compare op e r) = .ok .null := by
  rw [eval, he]
  rfl

/-- The order of a value with that of an expression. -/
def orderOf (context : Context) (row : List Value) (v : Value) (e : Expr) : Eval (Option Ordering) :=
  eval context row e >>= v.orderTo

theorem orderOf_eq_ok {o : Option Ordering} : orderOf context row v e = .ok o ↔
    ∃ w, eval context row e = .ok w ∧ v.orderHalts w = false ∧ v.order? w = o := by
  unfold orderOf
  rw [bind_eq_ok]
  refine exists_congr fun w => and_congr_right fun _ => Eval.guarded_eq_ok.trans (and_congr_right fun _ => ?_)
  exact ⟨Except.ok.inj, congrArg Except.ok⟩

theorem eval_compare_present (he : eval context row e = .ok v) (hv : v.isNull = false) (op : CompareOp) (r : Expr) :
    eval context row (.compare op e r) = (fun o => Value.ofBool? (o.map op.holds)) <$> orderOf context row v r := by
  rw [eval, he, orderOf]
  change v.ifPresent (eval context row r >>= fun w =>
    w.ifPresent (.guarded (v.orderHalts w) (.ok (v.compared op w)))) = _
  rw [Value.ifPresent, hv, if_neg Bool.false_ne_true]
  cases eval context row r with
  | error fault => rfl
  | ok w =>
    change w.ifPresent _ = _ <$> v.orderTo w
    cases w with
    | null =>
      have hnull : v.orderTo .null = .ok none := by
        rw [Value.orderTo, Value.order?_null]
        cases v <;> rfl
      rw [hnull]
      rfl
    | _ =>
      rw [Value.ifPresent, Value.orderTo]
      cases v.orderHalts _ <;> rfl

theorem truth_compare_present (he : eval context row e = .ok v) (hv : v.isNull = false) (op : CompareOp) (r : Expr) :
    truth context row (.compare op e r) = (fun o => o.map op.holds) <$> orderOf context row v r := by
  rw [truth, eval_compare_present he hv]
  cases orderOf context row v r with
  | error fault => rfl
  | ok o => exact congrArg Except.ok (Value.toBool?_ofBool? _)

/-- A comparison gives a truth value or nothing. -/
theorem eval_compare_eq_truth (op : CompareOp) (l r : Expr) :
    eval context row (.compare op l r) = Value.ofBool? <$> truth context row (.compare op l r) := by
  cases hl : eval context row l with
  | error fault =>
    rw [truth, eval_compare_error hl]
    rfl
  | ok v =>
    by_cases hv : v.isNull = true
    · obtain rfl := Value.eq_null_of_isNull hv
      rw [truth, eval_compare_null hl]
      rfl
    · have hpresent : v.isNull = false := by simpa using hv
      rw [truth_compare_present hl hpresent, eval_compare_present hl hpresent]
      cases orderOf context row v r <;> rfl

/-! ## The loop over the items -/

theorem evalMember_of_fault {fault : EvalFault} (hitem : orderOf context row v item = .error fault)
    (negated unknown : Bool) (rest : List Expr) :
    evalMember context row v negated unknown (item :: rest) = .error fault := by
  rw [evalMember]
  rcases bind_eq_error.1 hitem with he | ⟨w, hw, horder⟩
  · rw [he]
    rfl
  · rw [hw]
    change (v.orderTo w >>= _) = _
    rw [horder]
    rfl

theorem evalMember_of_order {o : Option Ordering} (hitem : orderOf context row v item = .ok o) (negated unknown : Bool)
    (rest : List Expr) : evalMember context row v negated unknown (item :: rest) =
      if o = some .eq then .ok (.bool (!negated)) else evalMember context row v negated (unknown || o.isNone) rest := by
  obtain ⟨w, hw, horder⟩ := bind_eq_ok.1 hitem
  rw [evalMember, hw]
  change (v.orderTo w >>= _) = _
  rw [horder]
  rcases o with _ | _ | _ | _
  · rw [Option.isNone_none, Bool.or_true]
    rfl
  · rw [Option.isNone_some, Bool.or_false]
    rfl
  · rfl
  · rw [Option.isNone_some, Bool.or_false]
    rfl

theorem evalMember_of_match (hitem : orderOf context row v item = .ok (some .eq)) (negated unknown : Bool)
    (rest : List Expr) : evalMember context row v negated unknown (item :: rest) = .ok (.bool (!negated)) := by
  rw [evalMember_of_order hitem, if_pos rfl]

theorem evalMember_of_miss {o : Option Ordering} (hitem : orderOf context row v item = .ok o) (ho : o ≠ some .eq)
    (negated unknown : Bool) (rest : List Expr) : evalMember context row v negated unknown (item :: rest) =
      evalMember context row v negated (unknown || o.isNone) rest := by
  rw [evalMember_of_order hitem, if_neg ho]

theorem evalMember_negated (v : Value) : ∀ (items : List Expr) (unknown : Bool),
    evalMember context row v true unknown items =
      (fun w => .ofBool? (w.toBool?.map (!·))) <$> evalMember context row v false unknown items
  | [], unknown => by cases unknown <;> rfl
  | item :: items, unknown => by
    cases hitem : orderOf context row v item with
    | error fault =>
      rw [evalMember_of_fault hitem, evalMember_of_fault hitem]
      rfl
    | ok o =>
      rw [evalMember_of_order hitem, evalMember_of_order hitem]
      split
      · rfl
      · exact evalMember_negated v items _

theorem eval_inList_negated (e : Expr) (items : List Expr) :
    eval context row (.inList e items true) = eval context row (.not (.inList e items false)) := by
  rw [eval, eval, eval]
  cases eval context row e with
  | error fault => rfl
  | ok v =>
    change v.ifPresent _ = (v.ifPresent _ >>= _)
    rw [Value.ifPresent, Value.ifPresent]
    by_cases hv : v.isNull = true
    · rw [if_pos hv, if_pos hv]
      rfl
    · rw [if_neg hv, if_neg hv, evalMember_negated]
      cases evalMember context row v false false items <;> rfl

/-! ## The chain of comparisons -/

/-- **The comparisons of an expression with each of a list, joined by `or`** from the left. -/
def anyEqual (e : Expr) : List Expr → Expr
  | [] => .literal (.bool false)
  | item :: items => items.foldl (fun chain item => .or chain (.compare .eq e item)) (.compare .eq e item)

/-- The truth values of the comparisons. -/
def equalities (context : Context) (row : List Value) (e : Expr) (items : List Expr) : List (Eval (Option Bool)) :=
  items.map fun item => truth context row (.compare .eq e item)

theorem chainTruth_equalities_cons (context : Context) (row : List Value) (e item : Expr) (items : List Expr) :
    chainTruth true (equalities context row e (item :: items)) =
      joinedThen true (truth context row (.compare .eq e item))
        (chainTruth true (equalities context row e items)) := rfl

theorem eval_foldl_or (e : Expr) : ∀ (items : List Expr) (chain : Expr),
    eval context row chain = Value.ofBool? <$> truth context row chain →
    eval context row (items.foldl (fun chain item => .or chain (.compare .eq e item)) chain) =
      Value.ofBool? <$> joinedThen true (truth context row chain) (chainTruth true (equalities context row e items))
  | [], chain, h => by
    have hnil : joinedThen true (truth context row chain) (chainTruth true (equalities context row e [])) =
        truth context row chain := chainTruth_singleton true _
    rw [List.foldl_nil, h, hnil]
  | item :: items, chain, h => by
    have hchain : eval context row (connective true chain (.compare .eq e item)) = _ := eval_connective true _ _
    rw [← truth_connective] at hchain
    have ih := eval_foldl_or e items (connective true chain (.compare .eq e item)) hchain
    rw [truth_connective, joinedThen_assoc] at ih
    exact ih

theorem eval_anyEqual (h : items ≠ []) :
    eval context row (anyEqual e items) = Value.ofBool? <$> chainTruth true (equalities context row e items) := by
  cases items with
  | nil => exact absurd rfl h
  | cons item items => exact eval_foldl_or e items _ (eval_compare_eq_truth .eq e item)

/-- **The loop over the items is the chain of comparisons**, after a `false` or an unknown truth value. -/
theorem evalMember_eq (he : eval context row e = .ok v) (hv : v.isNull = false) :
    ∀ (items : List Expr) (unknown : Bool), evalMember context row v false unknown items =
      Value.ofBool? <$> joinedThen true (.ok (if unknown then none else some false))
        (chainTruth true (equalities context row e items))
  | [], unknown => by cases unknown <;> rfl
  | item :: items, unknown => by
    rw [chainTruth_equalities_cons, truth_compare_present he hv, ← joinedThen_assoc]
    cases hitem : orderOf context row v item with
    | error fault =>
      rw [evalMember_of_fault hitem]
      cases unknown <;> rfl
    | ok o =>
      change _ = Value.ofBool? <$> joinedThen true (joinedThen true _ (.ok (o.map CompareOp.eq.holds))) _
      rw [joinedThen_ok]
      by_cases ho : o = some .eq
      · subst ho
        rw [evalMember_of_match hitem]
        cases unknown <;> rfl
      · have hjoined : Value.joined true (if unknown then none else some false) (o.map CompareOp.eq.holds) =
            if unknown || o.isNone then none else some false := by
          rcases o with _ | _ | _ | _
          case some.eq => exact absurd rfl ho
          all_goals cases unknown <;> rfl
        rw [evalMember_of_miss hitem ho, evalMember_eq he hv items, hjoined]

theorem chainTruth_unknown (decisive : Bool) : ∀ (x : Eval (Option Bool)) (xs : List (Eval (Option Bool))),
    (∀ y ∈ x :: xs, y = .ok none) → chainTruth decisive (x :: xs) = .ok none
  | x, [], h => by rw [chainTruth_singleton, h x (List.mem_singleton_self x)]
  | x, y :: ys, h => by
    have hrest := chainTruth_unknown decisive y ys fun z hz => h z (List.mem_cons_of_mem x hz)
    rw [h x List.mem_cons_self]
    change joinedThen decisive (.ok none) (chainTruth decisive (y :: ys)) = _
    rw [hrest, joinedThen_ok]
    cases decisive <;> rfl

theorem eval_inList_eq_anyEqual (h : items ≠ []) :
    eval context row (.inList e items false) = eval context row (anyEqual e items) := by
  obtain ⟨first, rest, rfl⟩ := List.exists_cons_of_ne_nil h
  rw [eval_anyEqual h, eval]
  cases he : eval context row e with
  | error fault =>
    have hfirst : truth context row (.compare .eq e first) = .error fault := by rw [truth, eval_compare_error he]; rfl
    rw [chainTruth_equalities_cons, hfirst]
    rfl
  | ok v =>
    change v.ifPresent _ = _
    rw [Value.ifPresent]
    by_cases hv : v.isNull = true
    · obtain rfl := Value.eq_null_of_isNull hv
      have hall : ∀ x ∈ equalities context row e (first :: rest), x = .ok none := by
        intro x hx
        obtain ⟨item, -, rfl⟩ := List.mem_map.1 hx
        rw [truth, eval_compare_null he]
        rfl
      have hchain : chainTruth true (equalities context row e (first :: rest)) = .ok none :=
        chainTruth_unknown true _ _ hall
      rw [if_pos hv, hchain]
      rfl
    · rw [if_neg hv, evalMember_eq he (by simpa using hv)]
      exact congrArg (Value.ofBool? <$> ·) (joinedThen_neutral true _)

theorem eval_inList_eq_not_anyEqual (h : items ≠ []) :
    eval context row (.inList e items true) = eval context row (.not (anyEqual e items)) :=
  (eval_inList_negated e items).trans (SameResult.not (eval_inList_eq_anyEqual h))

/-! ## Which items are evaluated -/

/-- **What stands at a place is evaluated**: its faults are those of the whole. -/
def Evaluates (context : Context) (row : List Value) (place : Expr → Expr) : Prop :=
  ∀ x fault, eval context row x = .error fault → eval context row (place x) = .error fault

theorem Evaluates.congr {place place' : Expr → Expr}
    (h : ∀ x, eval context row (place x) = eval context row (place' x)) :
    Evaluates context row place ↔ Evaluates context row place' := by
  unfold Evaluates
  simp only [h]

/-- What does not count for the result is not evaluated, since there is more than one fault. -/
theorem not_evaluates_of_const {place : Expr → Expr} {result : Eval Value}
    (h : ∀ x, eval context row (place x) = result) : ¬ Evaluates context row place := by
  intro hplace
  have hzero := hplace byZero .divisionByZero rfl
  have hpattern := hplace (.call (.pattern .occurs) [.literal (.text ""), .literal (.text "(")]) (.badPattern "(") rfl
  rw [h] at hzero hpattern
  rw [hzero] at hpattern
  cases hpattern

/-- The items have values that can be compared with `v`, and none of them is equal to it. -/
def Misses (context : Context) (row : List Value) (v : Value) (items : List Expr) : Prop :=
  ∀ item ∈ items, ∃ w, eval context row item = .ok w ∧ v.orderHalts w = false ∧ v.order? w ≠ some .eq

/-- **Items decide nothing**: the value that they are compared with is there, and none of them fails, halts the
program or is equal to it. -/
def Undecided (context : Context) (row : List Value) (e : Expr) (items : List Expr) : Prop :=
  ∃ v, eval context row e = .ok v ∧ v.isNull = false ∧ Misses context row v items

theorem evalMember_of_misses (v : Value) (negated : Bool) : ∀ (before : List Expr) (unknown : Bool),
    Misses context row v before → ∃ unknown', ∀ rest,
      evalMember context row v negated unknown (before ++ rest) = evalMember context row v negated unknown' rest
  | [], unknown, _ => ⟨unknown, fun _ => rfl⟩
  | item :: before, unknown, h => by
    obtain ⟨⟨w, hw, hhalts, ho⟩, hbefore⟩ := List.forall_mem_cons.1 h
    have hitem : orderOf context row v item = .ok (v.order? w) := orderOf_eq_ok.2 ⟨w, hw, hhalts, rfl⟩
    obtain ⟨unknown', ih⟩ := evalMember_of_misses v negated before (unknown || (v.order? w).isNone) hbefore
    refine ⟨unknown', fun rest => ?_⟩
    rw [List.cons_append, evalMember_of_miss hitem ho, ih]

theorem evalMember_of_not_misses (v : Value) (negated : Bool) : ∀ (before : List Expr) (unknown : Bool),
    ¬ Misses context row v before → ∃ result, ∀ rest,
      evalMember context row v negated unknown (before ++ rest) = result
  | [], _, h => absurd (fun _ hitem => absurd hitem List.not_mem_nil) h
  | item :: before, unknown, h => by
    cases hitem : orderOf context row v item with
    | error fault => exact ⟨_, fun rest => evalMember_of_fault hitem negated unknown (before ++ rest)⟩
    | ok o =>
      by_cases ho : o = some .eq
      · subst ho
        exact ⟨_, fun rest => evalMember_of_match hitem negated unknown (before ++ rest)⟩
      · obtain ⟨w, hw, hhalts, rfl⟩ := orderOf_eq_ok.1 hitem
        have hbefore : ¬ Misses context row v before :=
          fun hmiss => h (List.forall_mem_cons.2 ⟨⟨w, hw, hhalts, ho⟩, hmiss⟩)
        obtain ⟨result, ih⟩ := evalMember_of_not_misses v negated before (unknown || (v.order? w).isNone) hbefore
        refine ⟨result, fun rest => ?_⟩
        rw [List.cons_append, evalMember_of_miss hitem ho, ih]

theorem eval_inList_present (he : eval context row e = .ok v) (hv : v.isNull = false) (items : List Expr)
    (negated : Bool) :
    eval context row (.inList e items negated) = evalMember context row v negated false items := by
  rw [eval, he]
  change v.ifPresent _ = _
  rw [Value.ifPresent, hv, if_neg Bool.false_ne_true]

theorem evaluates_item (before after : List Expr) (negated : Bool) (h : Undecided context row e before) :
    Evaluates context row fun x => .inList e (before ++ x :: after) negated := by
  obtain ⟨v, he, hv, hmiss⟩ := h
  obtain ⟨unknown, hrest⟩ := evalMember_of_misses v negated before false hmiss
  intro x fault hx
  have horder : orderOf context row v x = .error fault := bind_eq_error.2 (.inl hx)
  rw [eval_inList_present he hv, hrest, evalMember_of_fault horder]

theorem const_of_decided (before after : List Expr) (negated : Bool) (h : ¬ Undecided context row e before) :
    ∃ result, ∀ x, eval context row (.inList e (before ++ x :: after) negated) = result := by
  cases he : eval context row e with
  | error fault =>
    refine ⟨.error fault, fun x => ?_⟩
    rw [eval, he]
    rfl
  | ok v =>
    by_cases hv : v.isNull = true
    · refine ⟨.ok .null, fun x => ?_⟩
      rw [eval, he]
      change v.ifPresent _ = _
      rw [Value.ifPresent, if_pos hv]
    · have hpresent : v.isNull = false := by simpa using hv
      obtain ⟨result, hrest⟩ := evalMember_of_not_misses v negated before false fun hmiss => h ⟨v, he, hpresent, hmiss⟩
      exact ⟨result, fun x => by rw [eval_inList_present he hpresent, hrest]⟩

/-- **An item is evaluated exactly if the items before it decide nothing.** -/
theorem evaluates_item_iff (before after : List Expr) (negated : Bool) :
    Evaluates context row (fun x => .inList e (before ++ x :: after) negated) ↔ Undecided context row e before := by
  refine ⟨fun h => ?_, evaluates_item before after negated⟩
  by_contra hdecided
  obtain ⟨result, hconst⟩ := const_of_decided before after negated hdecided
  exact not_evaluates_of_const hconst h

/-- **A comparison with a list is the chain of `or` over the comparisons with its items**, and a negated one is
the negation of the chain: they have one value or one fault, and the same items are evaluated.  These are the
items before which nothing is decided, and the result is the same whatever stands in the place of another
one. -/
theorem eval_inList_laws (context : Context) (row : List Value) (e : Expr) (items : List Expr) (h : items ≠ []) :
    eval context row (.inList e items false) = eval context row (anyEqual e items) ∧
    eval context row (.inList e items true) = eval context row (.not (anyEqual e items)) ∧
    ∀ before item after, items = before ++ item :: after →
      ∀ place ∈ [fun x => .inList e (before ++ x :: after) false, fun x => anyEqual e (before ++ x :: after),
        fun x => .inList e (before ++ x :: after) true, fun x => .not (anyEqual e (before ++ x :: after))],
      (Evaluates context row place ↔ Undecided context row e before) ∧
      (¬ Undecided context row e before → ∃ result, ∀ x, eval context row (place x) = result) := by
  refine ⟨eval_inList_eq_anyEqual h, eval_inList_eq_not_anyEqual h, fun before item after _ place hplace => ?_⟩
  have hne : ∀ x : Expr, before ++ x :: after ≠ [] := fun x => List.append_ne_nil_of_right_ne_nil before nofun
  -- each of the four forms is the comparison with the list, negated or not
  obtain ⟨negated, hform⟩ : ∃ negated, ∀ x, eval context row (place x) =
      eval context row (.inList e (before ++ x :: after) negated) := by
    simp only [List.mem_cons, List.not_mem_nil, or_false] at hplace
    rcases hplace with rfl | rfl | rfl | rfl
    · exact ⟨false, fun _ => rfl⟩
    · exact ⟨false, fun x => (eval_inList_eq_anyEqual (hne x)).symm⟩
    · exact ⟨true, fun _ => rfl⟩
    · exact ⟨true, fun x => (eval_inList_eq_not_anyEqual (hne x)).symm⟩
  refine ⟨(Evaluates.congr hform).trans (evaluates_item_iff before after negated), fun hdecided => ?_⟩
  obtain ⟨result, hconst⟩ := const_of_decided before after negated hdecided
  exact ⟨result, fun x => (hform x).trans (hconst x)⟩

/-- Nothing, a number, and an item that fails. -/
def nothingTwoByZero : List Expr := [.literal .null, .literal (.int 2), byZero]

/-- A text that is equal to the number is found before the item that fails, which is not evaluated; another one
is not. -/
theorem eval_inList_laws_nothingTwoByZero :
    nothingTwoByZero ≠ [] ∧
    nothingTwoByZero = [.literal .null, .literal (.int 2)] ++ byZero :: [] ∧
    eval default [.text "2.0"] (anyEqual (.column 0 .text) nothingTwoByZero) = .ok (.bool true) ∧
    eval default [.text "2.0"] (.not (anyEqual (.column 0 .text) nothingTwoByZero)) = .ok (.bool false) ∧
    ¬ Evaluates default [.text "2.0"] (fun x => anyEqual (.column 0 .text) [.literal .null, .literal (.int 2), x]) ∧
    Evaluates default [.text "3"] (fun x => anyEqual (.column 0 .text) [.literal .null, .literal (.int 2), x]) := by
  have hne : nothingTwoByZero ≠ [] := nofun
  have hsplit : nothingTwoByZero = [.literal .null, .literal (.int 2)] ++ byZero :: [] := rfl
  obtain ⟨hin, hnotIn, -⟩ := eval_inList_laws default [.text "2.0"] (.column 0 .text) nothingTwoByZero hne
  have hplace := fun row => ((eval_inList_laws default row (.column 0 .text) nothingTwoByZero hne).2.2 _ _ _ hsplit
    (fun x => anyEqual (.column 0 .text) [.literal .null, .literal (.int 2), x]) (by simp)).1
  have hfound : ¬ Undecided default [.text "2.0"] (.column 0 .text) [.literal .null, .literal (.int 2)] := by
    rintro ⟨v, hv, -, hmiss⟩
    obtain ⟨w, hw, -, ho⟩ := hmiss (.literal (.int 2)) (by simp)
    cases hv
    cases hw
    exact ho (by decide +kernel)
  have hmissed : Undecided default [.text "3"] (.column 0 .text) [.literal .null, .literal (.int 2)] := by
    refine ⟨.text "3", rfl, rfl, fun item hitem => ?_⟩
    simp only [List.mem_cons, List.not_mem_nil, or_false] at hitem
    rcases hitem with rfl | rfl
    · exact ⟨.null, rfl, rfl, by decide +kernel⟩
    · exact ⟨.int 2, rfl, by decide +kernel, by decide +kernel⟩
  exact ⟨hne, hsplit, hin.symm.trans (by rfl), hnotIn.symm.trans (by rfl), fun h => hfound ((hplace _).1 h),
    (hplace _).2 hmissed⟩

end Expr
end RowSql
