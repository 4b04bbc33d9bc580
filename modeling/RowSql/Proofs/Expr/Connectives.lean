import Mathlib.Data.Fintype.Option
import RowSql.Proofs.Expr.Alike
/-!
# Connectives — chains of `and` and of `or`

A truth value may be unknown.  One known truth value decides a connective, `false` decides `and` and `true`
decides `or`, and the two connectives are the same but for it.  A decided left side is the last one that is
evaluated, an unknown one is not, and still the steps of a chain are joined associatively, faults included
(`joinedThen_assoc`).  So a chain is what its operands are in their order, however it is bracketed
(`truth_tree`).  Without faults the order does not matter either (`chainTruth_perm`), and negation turns each
connective into the other (`eval_not_tree`).
-/
namespace RowSql

namespace Value

theorem toBool?_ofBool? (t : Option Bool) : (ofBool? t).toBool? = t := by
  cases t <;> rfl

/-- Two truth values under the connective that `decisive` decides. -/
def joined (decisive : Bool) (a b : Option Bool) : Option Bool :=
  if a = some decisive ∨ b = some decisive then some decisive
  else if a = some (!decisive) ∧ b = some (!decisive) then some (!decisive)
  else none

theorem joined_comm (decisive : Bool) : ∀ a b : Option Bool, joined decisive a b = joined decisive b a := by
  revert decisive; decide

theorem joined_assoc (decisive : Bool) :
    ∀ a b c : Option Bool, joined decisive (joined decisive a b) c = joined decisive a (joined decisive b c) := by
  revert decisive; decide

theorem joined_neutral (decisive : Bool) : ∀ a : Option Bool, joined decisive (some (!decisive)) a = a := by
  revert decisive; decide

theorem joined_decisive (decisive : Bool) : ∀ a : Option Bool, joined decisive a (some decisive) = some decisive := by
  revert decisive; decide

theorem joined_ne_decisive (decisive : Bool) : ∀ a b : Option Bool, a ≠ some decisive → b ≠ some decisive →
    joined decisive a b ≠ some decisive := by
  revert decisive; decide

theorem map_not_joined (decisive : Bool) : ∀ a b : Option Bool,
    (joined decisive a b).map (!·) = joined (!decisive) (a.map (!·)) (b.map (!·)) := by
  revert decisive; decide

theorem conj_eq (a b : Option Bool) : conj a b = ofBool? (joined false a b) := by
  rcases a with _ | _ | _ <;> rcases b with _ | _ | _ <;> rfl

theorem disj_eq (a b : Option Bool) : disj a b = ofBool? (joined true a b) := by
  rcases a with _ | _ | _ <;> rcases b with _ | _ | _ <;> rfl

end Value

namespace Expr

open Value (joined joined_comm joined_assoc joined_neutral joined_decisive joined_ne_decisive)

variable {context : Context} {row : List Value}

/-! ## Two steps -/

/-- The truth values of two computations, of which the second is not run when the first one decides. -/
def joinedThen (decisive : Bool) (x y : Eval (Option Bool)) : Eval (Option Bool) := do
  let a ← x
  if a = some decisive then return some decisive
  let b ← y
  return joined decisive a b

theorem joinedThen_decided (decisive : Bool) (y : Eval (Option Bool)) :
    joinedThen decisive (.ok (some decisive)) y = .ok (some decisive) := by
  change (if some decisive = some decisive then _ else _) = _
  rw [if_pos rfl]
  rfl

theorem joinedThen_open {decisive : Bool} {a : Option Bool} (ha : a ≠ some decisive) (y : Eval (Option Bool)) :
    joinedThen decisive (.ok a) y = joined decisive a <$> y := by
  change (if a = some decisive then _ else _) = _
  rw [if_neg ha]
  cases y <;> rfl

theorem joinedThen_ok (decisive : Bool) (a b : Option Bool) :
    joinedThen decisive (.ok a) (.ok b) = .ok (joined decisive a b) := by
  by_cases ha : a = some decisive
  · rw [ha, joinedThen_decided, joined_comm, joined_decisive]
  · rw [joinedThen_open ha]
    rfl

theorem joinedThen_neutral (decisive : Bool) (y : Eval (Option Bool)) :
    joinedThen decisive (.ok (some (!decisive))) y = y := by
  have hne : some (!decisive) ≠ some decisive := by cases decisive <;> decide
  rw [joinedThen_open hne]
  cases y with
  | error fault => rfl
  | ok b => exact congrArg Except.ok (joined_neutral decisive b)

/-- **Three steps are bracketed as one likes**, whichever of them fail. -/
theorem joinedThen_assoc (decisive : Bool) (x y z : Eval (Option Bool)) :
    joinedThen decisive (joinedThen decisive x y) z = joinedThen decisive x (joinedThen decisive y z) := by
  cases x with
  | error fault => rfl
  | ok a =>
    by_cases ha : a = some decisive
    · rw [ha, joinedThen_decided, joinedThen_decided, joinedThen_decided]
    rw [joinedThen_open ha, joinedThen_open ha]
    cases y with
    | error fault => rfl
    | ok b =>
      change joinedThen decisive (.ok (joined decisive a b)) z = _
      by_cases hb : b = some decisive
      · rw [hb, joined_decisive, joinedThen_decided]
        exact congrArg Except.ok (joined_decisive decisive a).symm
      · rw [joinedThen_open hb, joinedThen_open (joined_ne_decisive decisive a b ha hb)]
        cases z with
        | error fault => rfl
        | ok c => exact congrArg Except.ok (joined_assoc decisive a b c)

/-! ## Operands -/

/-- The truth value of an expression, which may be unknown. -/
def truth (context : Context) (row : List Value) (e : Expr) : Eval (Option Bool) := Value.toBool? <$> eval context row e

/-- The connective that a truth value decides. -/
def connective : Bool → Expr → Expr → Expr
  | false => .and
  | true => .or

theorem eval_connective (decisive : Bool) (l r : Expr) :
    eval context row (connective decisive l r) =
      Value.ofBool? <$> joinedThen decisive (truth context row l) (truth context row r) := by
  have hstep : eval context row (connective decisive l r) = (do
      let a := (← eval context row l).toBool?
      if a == some decisive then return .bool decisive
      let b := (← eval context row r).toBool?
      return .ofBool? (joined decisive a b)) := by
    cases decisive
    · simp only [connective, eval, Value.conj_eq]
    · simp only [connective, eval, Value.disj_eq]
  rw [hstep, truth, truth]
  cases eval context row l with
  | error fault => rfl
  | ok v =>
    change (if v.toBool? == some decisive then _ else _) = Value.ofBool? <$> joinedThen decisive (.ok v.toBool?) _
    by_cases hv : v.toBool? = some decisive
    · rw [hv, joinedThen_decided, if_pos (beq_self_eq_true _)]
      rfl
    · rw [joinedThen_open hv, if_neg (by simpa using hv)]
      cases eval context row r <;> rfl

theorem truth_connective (decisive : Bool) (l r : Expr) :
    truth context row (connective decisive l r) = joinedThen decisive (truth context row l) (truth context row r) := by
  rw [truth, eval_connective]
  cases joinedThen decisive (truth context row l) (truth context row r) with
  | error fault => rfl
  | ok t => exact congrArg Except.ok (Value.toBool?_ofBool? t)

theorem eval_not (e : Expr) : eval context row (.not e) = (fun t => .ofBool? (t.map (!·))) <$> truth context row e := by
  rw [eval, truth]
  cases eval context row e <;> rfl

theorem truth_not (e : Expr) : truth context row (.not e) = Option.map (!·) <$> truth context row e := by
  rw [truth, eval_not]
  cases truth context row e with
  | error fault => rfl
  | ok t => exact congrArg Except.ok (Value.toBool?_ofBool? _)

/-- **Negation turns a connective into the other one**, and an operand that is not evaluated is not evaluated
there either. -/
theorem eval_not_connective (decisive : Bool) (l r : Expr) :
    eval context row (.not (connective decisive l r)) =
      eval context row (connective (!decisive) (.not l) (.not r)) := by
  rw [eval_not, truth_connective, eval_connective, truth_not, truth_not]
  cases truth context row l with
  | error fault => rfl
  | ok a =>
    change _ = Value.ofBool? <$> joinedThen (!decisive) (.ok (a.map (!·))) _
    by_cases ha : a = some decisive
    · subst ha
      rw [joinedThen_decided, Option.map_some, joinedThen_decided]
      rfl
    · have hna : a.map (!·) ≠ some (!decisive) := by
        intro h
        obtain ⟨b, rfl, hb⟩ := Option.map_eq_some_iff.1 h
        exact ha (congrArg some (Bool.not_inj hb))
      rw [joinedThen_open ha, joinedThen_open hna]
      cases truth context row r with
      | error fault => rfl
      | ok b => exact congrArg (fun t => Except.ok (Value.ofBool? t)) (Value.map_not_joined decisive a b)

theorem eval_connective_congr (decisive : Bool) {l l' r r' : Expr} (hl : eval context row l = eval context row l')
    (hr : eval context row r = eval context row r') :
    eval context row (connective decisive l r) = eval context row (connective decisive l' r') := by
  cases decisive with
  | false => exact SameResult.and hl hr
  | true => exact SameResult.or hl hr

/-! ## Chains -/

/-- The truth value of a chain of computations, from left to right. -/
def chainTruth (decisive : Bool) (xs : List (Eval (Option Bool))) : Eval (Option Bool) :=
  xs.foldr (joinedThen decisive) (.ok (some (!decisive)))

theorem chainTruth_append (decisive : Bool) (ys : List (Eval (Option Bool))) : ∀ xs : List (Eval (Option Bool)),
    chainTruth decisive (xs ++ ys) = joinedThen decisive (chainTruth decisive xs) (chainTruth decisive ys)
  | [] => (joinedThen_neutral decisive _).symm
  | x :: xs => by
    have ih := chainTruth_append decisive ys xs
    unfold chainTruth at ih ⊢
    rw [List.cons_append, List.foldr_cons, List.foldr_cons, ih, joinedThen_assoc]

theorem chainTruth_singleton (decisive : Bool) (x : Eval (Option Bool)) : chainTruth decisive [x] = x := by
  change joinedThen decisive x (.ok (some (!decisive))) = x
  cases x with
  | error fault => rfl
  | ok a => rw [joinedThen_ok, joined_comm, joined_neutral]

/-- **Without a fault the order of a chain does not matter.** -/
theorem chainTruth_perm (decisive : Bool) {xs ys : List (Eval (Option Bool))} (h : xs.Perm ys)
    (hok : ∀ x ∈ xs, ∃ t, x = .ok t) : chainTruth decisive xs = chainTruth decisive ys := by
  unfold chainTruth
  induction h with
  | nil => rfl
  | cons x _ ih => rw [List.foldr_cons, List.foldr_cons, ih fun y hy => hok y (List.mem_cons_of_mem x hy)]
  | swap x y xs =>
    obtain ⟨a, rfl⟩ := hok x (by simp)
    obtain ⟨b, rfl⟩ := hok y (by simp)
    simp only [List.foldr_cons]
    rw [← joinedThen_assoc, ← joinedThen_assoc, joinedThen_ok, joinedThen_ok, joined_comm]
  | trans hxy _ ihx ihy =>
    rw [ihx hok, ihy fun y hy => hok y (hxy.mem_iff.2 hy)]

/-- A quotient that fails on every row. -/
def byZero : Expr := .arith .div (.literal (.int 1)) (.literal (.int 0))

/-- **A way of bracketing operands.** -/
inductive Bracketing where
  | operand (e : Expr)
  | pair (l r : Bracketing)

namespace Bracketing

/-- The operands from left to right. -/
def operands : Bracketing → List Expr
  | operand e => [e]
  | pair l r => l.operands ++ r.operands

/-- The tree of an operator on two operands. -/
def tree (join : Expr → Expr → Expr) : Bracketing → Expr
  | operand e => e
  | pair l r => join (l.tree join) (r.tree join)

/-- The same bracketing of other operands. -/
def map (f : Expr → Expr) : Bracketing → Bracketing
  | operand e => operand (f e)
  | pair l r => pair (l.map f) (r.map f)

/-- **The truth value of a tree is that of the chain of its operands.** -/
theorem truth_tree (decisive : Bool) : ∀ t : Bracketing,
    truth context row (t.tree (connective decisive)) = chainTruth decisive (t.operands.map (truth context row))
  | operand e => (chainTruth_singleton decisive _).symm
  | pair l r => by
    rw [tree, operands, truth_connective, truth_tree decisive l, truth_tree decisive r, List.map_append,
      chainTruth_append]

theorem eval_tree (decisive : Bool) {t : Bracketing} (h : 2 ≤ t.operands.length) :
    eval context row (t.tree (connective decisive)) =
      Value.ofBool? <$> chainTruth decisive (t.operands.map (truth context row)) := by
  cases t with
  | operand e => exact absurd h (Nat.not_succ_le_self 1)
  | pair l r =>
    rw [← truth_tree, tree, truth_connective]
    exact eval_connective decisive _ _

theorem eval_tree_congr (decisive : Bool) {s t : Bracketing} (hs : 2 ≤ s.operands.length)
    (h : s.operands = t.operands) :
    eval context row (s.tree (connective decisive)) = eval context row (t.tree (connective decisive)) := by
  rw [eval_tree decisive hs, eval_tree decisive (h ▸ hs), h]

theorem eval_tree_perm (decisive : Bool) {s t : Bracketing} (hs : 2 ≤ s.operands.length)
    (h : s.operands.Perm t.operands) (hok : ∀ e ∈ s.operands, ∃ v, eval context row e = .ok v) :
    eval context row (s.tree (connective decisive)) = eval context row (t.tree (connective decisive)) := by
  have htruth : ∀ x ∈ s.operands.map (truth context row), ∃ t, x = .ok t := by
    intro x hx
    obtain ⟨e, he, rfl⟩ := List.mem_map.1 hx
    obtain ⟨v, hv⟩ := hok e he
    exact ⟨v.toBool?, by rw [truth, hv]; rfl⟩
  rw [eval_tree decisive hs, eval_tree decisive (h.length_eq ▸ hs), chainTruth_perm decisive (h.map _) htruth]

/-- **The negation of a tree is the tree of the other connective over the negated operands.** -/
theorem eval_not_tree (decisive : Bool) : ∀ t : Bracketing,
    eval context row (.not (t.tree (connective decisive))) =
      eval context row ((t.map .not).tree (connective (!decisive)))
  | operand e => rfl
  | pair l r => by
    rw [tree, eval_not_connective, map, tree]
    exact eval_connective_congr _ (eval_not_tree decisive l) (eval_not_tree decisive r)

/-- **Brackets in a chain do not matter**, and without faults its order does not either: whatever the operands
are, two bracketings of at least two of them have one value or one fault, under `and` as under `or`, and so have
bracketings of operands in another order if all of these have values.  The negation of a tree of `and` is the
tree of `or` over the negated operands, and the other way round. -/
theorem eval_tree_laws (context : Context) (row : List Value) (s t : Bracketing) (hs : 2 ≤ s.operands.length) :
    (s.operands = t.operands →
      eval context row (s.tree .and) = eval context row (t.tree .and) ∧
      eval context row (s.tree .or) = eval context row (t.tree .or)) ∧
    eval context row (.not (s.tree .and)) = eval context row ((s.map .not).tree .or) ∧
    eval context row (.not (s.tree .or)) = eval context row ((s.map .not).tree .and) ∧
    (s.operands.Perm t.operands → (∀ e ∈ s.operands, ∃ v, eval context row e = .ok v) →
      eval context row (s.tree .and) = eval context row (t.tree .and) ∧
      eval context row (s.tree .or) = eval context row (t.tree .or)) := by
  refine ⟨fun h => ?_, eval_not_tree false s, eval_not_tree true s, fun h hok => ?_⟩
  · exact ⟨eval_tree_congr false hs h, eval_tree_congr true hs h⟩
  · exact ⟨eval_tree_perm false hs h hok, eval_tree_perm true hs h hok⟩

/-- Three operands, the first two of them in brackets. -/
def fromLeft (a b c : Expr) : Bracketing := .pair (.pair (.operand a) (.operand b)) (.operand c)

/-- Three operands, the last two of them in brackets. -/
def fromRight (a b c : Expr) : Bracketing := .pair (.operand a) (.pair (.operand b) (.operand c))

/-- A text that is no truth value and nothing, before a fault, and on either side of an operand that decides. -/
theorem eval_tree_laws_unknownFirst :
    2 ≤ (fromLeft (.column 0 .text) (.literal .null) byZero).operands.length ∧
    (fromLeft (.column 0 .text) (.literal .null) byZero).operands =
      (fromRight (.column 0 .text) (.literal .null) byZero).operands ∧
    eval default [.text "yes"] ((fromLeft (.column 0 .text) (.literal .null) byZero).tree .and) =
      .error .divisionByZero ∧
    (fromLeft (.literal (.bool false)) (.column 0 .text) (.literal .null)).operands.Perm
      (fromRight (.column 0 .text) (.literal .null) (.literal (.bool false))).operands ∧
    (∀ e ∈ (fromLeft (.literal (.bool false)) (.column 0 .text) (.literal .null)).operands,
      ∃ v, eval default [.text "yes"] e = .ok v) ∧
    eval default [.text "yes"] ((fromRight (.column 0 .text) (.literal .null) (.literal (.bool false))).tree .and) =
      .ok (.bool false) := by
  have hperm : (fromLeft (.literal (.bool false)) (.column 0 .text) (.literal .null)).operands.Perm
      (fromRight (.column 0 .text) (.literal .null) (.literal (.bool false))).operands :=
    (List.perm_append_comm : ([Expr.literal (.bool false)] ++ [Expr.column 0 .text, Expr.literal .null]).Perm _)
  have hok : ∀ e ∈ (fromLeft (.literal (.bool false)) (.column 0 .text) (.literal .null)).operands,
      ∃ v, eval default [.text "yes"] e = .ok v := by
    intro e he
    simp [fromLeft, Bracketing.operands] at he
    rcases he with rfl | rfl | rfl <;> exact ⟨_, rfl⟩
  have hfault := ((eval_tree_laws default [.text "yes"] (fromLeft (.column 0 .text) (.literal .null) byZero)
    (fromRight (.column 0 .text) (.literal .null) byZero) (by decide)).1 rfl).1
  have horder :=
    ((eval_tree_laws default [.text "yes"] (fromLeft (.literal (.bool false)) (.column 0 .text) (.literal .null))
    (fromRight (.column 0 .text) (.literal .null) (.literal (.bool false))) (by decide)).2.2.2 hperm hok).1
  exact ⟨by decide, rfl, hfault.trans rfl, hperm, hok, horder.symm.trans rfl⟩

end Bracketing

end Expr
end RowSql
