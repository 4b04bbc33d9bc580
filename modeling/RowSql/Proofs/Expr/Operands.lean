import Mathlib.Data.List.Forall2
import RowSql.Expr.Eval
import RowSql.Proofs.Outcome
/-!
# Operands — what an expression is made of

The operands of an expression are the expressions directly under it, and one expression is within another when it is the
other or is within one of its operands.  The lemmas say what the value of an expression says of those of its operands.
-/
namespace RowSql
namespace Expr

attribute [simp] eval evalAll evalMember evalWhen evalOf evalFirst evalChoice

/-- **The expressions directly under an expression**, in the order in which they are written. -/
def operands : Expr → List Expr
  | .literal _ => []
  | .column _ _ => []
  | .param _ => []
  | .arith _ l r => [l, r]
  | .neg e => [e]
  | .compare _ l r => [l, r]
  | .not e => [e]
  | .and l r => [l, r]
  | .or l r => [l, r]
  | .isNull e _ => [e]
  | .between e low high _ => [e, low, high]
  | .inList e items _ => e :: items
  | .like e pattern _ _ => [e, pattern]
  | .concat l r => [l, r]
  | .cast e _ => [e]
  | .caseWhen branches otherwise => branches.flatMap (fun b => [b.1, b.2]) ++ [otherwise]
  | .caseOf operand branches otherwise => operand :: (branches.flatMap (fun b => [b.1, b.2]) ++ [otherwise])
  | .call _ args => args

/-- **One expression is within another**: it is the other, or it is within one of its operands. -/
inductive Within : Expr → Expr → Prop
  | self (e : Expr) : Within e e
  | operand {x a e : Expr} (ha : a ∈ e.operands) (hx : Within x a) : Within x e

theorem Within.forall_of_operands {P : Expr → Prop} {e : Expr} (he : P e)
    (ha : ∀ a ∈ e.operands, ∀ x, Within x a → P x) :
    ∀ x, Within x e → P x := by
  intro x hx
  cases hx with
  | self => exact he
  | operand hmem hx => exact ha _ hmem x hx

theorem Within.trans {x y z : Expr} (hxy : Within x y) (hyz : Within y z) : Within x z := by
  induction hyz with
  | self => exact hxy
  | operand ha _ ih => exact .operand ha ih

theorem of_one_operand {P : Expr → Prop} (step : ∀ e : Expr, (∀ a ∈ e.operands, P a) → P e) {e a : Expr}
    (he : e.operands = [a]) (ha : P a) : P e := by
  refine step e ?_
  rw [he]
  exact List.forall_mem_singleton.2 ha

theorem of_two_operands {P : Expr → Prop} (step : ∀ e : Expr, (∀ a ∈ e.operands, P a) → P e) {e a b : Expr}
    (he : e.operands = [a, b]) (ha : P a) (hb : P b) : P e := by
  refine step e ?_
  rw [he]
  exact List.forall_mem_cons.2 ⟨ha, List.forall_mem_singleton.2 hb⟩

mutual

/-- **A property that passes from operands to the expression over them** is one of all expressions. -/
theorem of_operands {P : Expr → Prop} (step : ∀ e : Expr, (∀ a ∈ e.operands, P a) → P e) : ∀ e : Expr, P e
  | .literal _ | .column _ _ | .param _ => step _ nofun
  | .neg e | .not e | .isNull e _ | .cast e _ => of_one_operand step rfl (of_operands step e)
  | .arith _ l r | .compare _ l r | .and l r | .or l r | .concat l r | .like l r _ _ =>
    of_two_operands step rfl (of_operands step l) (of_operands step r)
  | .between e low high negated =>
    have hbounds : ∀ a ∈ [low, high], P a :=
      List.forall_mem_cons.2 ⟨of_operands step low, List.forall_mem_singleton.2 (of_operands step high)⟩
    step (.between e low high negated) (List.forall_mem_cons.2 ⟨of_operands step e, hbounds⟩)
  | .inList e items negated =>
    step (.inList e items negated) (List.forall_mem_cons.2 ⟨of_operands step e, of_operands_items step items⟩)
  | .caseWhen branches otherwise =>
    step (.caseWhen branches otherwise) (List.forall_mem_append.2
      ⟨of_operands_branches step branches, List.forall_mem_singleton.2 (of_operands step otherwise)⟩)
  | .caseOf operand branches otherwise =>
    have hcases : ∀ a ∈ branches.flatMap (fun b => [b.1, b.2]) ++ [otherwise], P a := List.forall_mem_append.2
      ⟨of_operands_branches step branches, List.forall_mem_singleton.2 (of_operands step otherwise)⟩
    step (.caseOf operand branches otherwise) (List.forall_mem_cons.2 ⟨of_operands step operand, hcases⟩)
  | .call f args => step (.call f args) (of_operands_items step args)

theorem of_operands_items {P : Expr → Prop} (step : ∀ e : Expr, (∀ a ∈ e.operands, P a) → P e) :
    ∀ es : List Expr, ∀ a ∈ es, P a
  | [] => nofun
  | e :: es => List.forall_mem_cons.2 ⟨of_operands step e, of_operands_items step es⟩

theorem of_operands_branches {P : Expr → Prop} (step : ∀ e : Expr, (∀ a ∈ e.operands, P a) → P e) :
    ∀ branches : List (Expr × Expr), ∀ a ∈ branches.flatMap (fun b => [b.1, b.2]), P a
  | [] => nofun
  | (c, r) :: branches => List.forall_mem_cons.2
    ⟨of_operands step c, List.forall_mem_cons.2 ⟨of_operands step r, of_operands_branches step branches⟩⟩

end

/-- **All expressions of a list have a value when each of them has one.** -/
theorem evalAll_eq_ok (context : Context) (row : List Value) :
    ∀ (es : List Expr) (vs : List Value),
      evalAll context row es = .ok vs ↔ List.Forall₂ (fun e v => eval context row e = .ok v) es vs
  | [], vs => by cases vs <;> simp
  | e :: es, vs => by
    rw [evalAll, bind_eq_ok]
    constructor
    · rintro ⟨v, hv, h⟩
      obtain ⟨ws, hws, h⟩ := bind_eq_ok.1 h
      cases h
      exact .cons hv ((evalAll_eq_ok context row es ws).1 hws)
    · rintro (_ | ⟨hv, hvs⟩)
      exact ⟨_, hv, bind_eq_ok.2 ⟨_, (evalAll_eq_ok context row es _).2 hvs, rfl⟩⟩

/-- **A call other than the two that choose applies the function to the values of all arguments.** -/
theorem eval_call {f : Function} (hc : f ≠ .choice) (hp : f ≠ .firstPresent) (context : Context) (row : List Value)
    (args : List Expr) : eval context row (.call f args) = (do f.apply context (← evalAll context row args)) := by
  cases f <;> first | rfl | contradiction

end Expr
end RowSql
