import RowSql.Expr
import RowSql.Pattern.Like
/-!
# Eval — the value of an expression on a row

Operands are evaluated from left to right, and the first fault is the result.  Most operators give nothing as soon as an
operand is nothing, and then do not evaluate the operands after it.  Truth has three values, and an operand that decides
the result is the last one that is evaluated.  The program halts over operands that are read as numbers if it halts over
reading them.
-/
namespace RowSql
namespace Value

/-- The result of the rest of an evaluation, unless the value is nothing. -/
def ifPresent (v : Value) (rest : Eval Value) : Eval Value := if v.isNull then .ok .null else rest

/-- **The order of two values**, unless the program halts over it. -/
def orderTo (a b : Value) : Eval (Option Ordering) := .guarded (a.orderHalts b) (.ok (a.order? b))

/-- The result of a comparison. -/
def compared (op : CompareOp) (a b : Value) : Value := ofBool? ((a.order? b).map op.holds)

/-- Whether a value lies between two bounds, the bounds included. -/
def isBetween (v low high : Value) (negated : Bool) : Value :=
  match v.order? low, v.order? high with
  | some l, some h => .bool ((l != .lt && h != .gt) != negated)
  | _, _ => .null

/-- The value of `and` for two truth values, which may be unknown. -/
def conj : Option Bool → Option Bool → Value
  | some false, _ => .bool false
  | _, some false => .bool false
  | some true, some true => .bool true
  | _, _ => .null

/-- The value of `or` for two truth values, which may be unknown. -/
def disj : Option Bool → Option Bool → Value
  | some true, _ => .bool true
  | _, some true => .bool true
  | some false, some false => .bool false
  | _, _ => .null

/-- Whether the text of a value matches a pattern that is ready. -/
def likeReady (v : Value) (p : Pattern.Compiled) (negated : Bool) : Value :=
  .bool (p.isMatch v.render.toList != negated)

/-- Whether the text of a value matches a pattern. -/
def like (v pattern : Value) (negated ignoreCase : Bool) : Eval Value :=
  match Like.compile? ignoreCase pattern.render.toList with
  | some p => .ok (v.likeReady p negated)
  | none => .error (.badPattern pattern.render)

end Value

/-- The raw cell as a value of the declared type.  A cell that is missing or the empty text is nothing. -/
def readColumn (row : List Value) (index : Nat) (type : FieldType) : Value :=
  match row[index]? with
  | none => .null
  | some .null => .null
  | some (.text "") => .null
  | some v => type.coerce v

/-- The program halts over reading the raw cell. -/
def columnHalts (row : List Value) (index : Nat) (type : FieldType) : Bool := row[index]?.any type.halts

namespace Expr

/-- The pattern of a comparison that is a literal text, which does not wait for a row. -/
def readyPattern? (ignoreCase : Bool) : Expr → Option Pattern.Compiled
  | .literal (.text s) => Like.compile? ignoreCase s.toList
  | _ => none

mutual

/-- **The value of an expression on a row.** -/
def eval (context : Context) (row : List Value) : Expr → Eval Value
  | .literal v => .ok v
  | .column index type => .guarded (columnHalts row index type) (.ok (readColumn row index type))
  | .param name => .ok ((context.param? name).getD .null)
  | .arith op l r => do
    let a ← eval context row l
    a.ifPresent do
      let b ← eval context row r
      b.ifPresent (Value.arith op a b)
  | .neg e => do
    let v ← eval context row e
    .guarded v.halts (.ok v.negate)
  | .compare op l r => do
    let a ← eval context row l
    a.ifPresent do
      let b ← eval context row r
      b.ifPresent (.guarded (a.orderHalts b) (.ok (a.compared op b)))
  | .not e => do return .ofBool? ((← eval context row e).toBool?.map (!·))
  | .and l r => do
    let a := (← eval context row l).toBool?
    if a == some false then return .bool false
    let b := (← eval context row r).toBool?
    return Value.conj a b
  | .or l r => do
    let a := (← eval context row l).toBool?
    if a == some true then return .bool true
    let b := (← eval context row r).toBool?
    return Value.disj a b
  | .isNull e negated => do return .bool ((← eval context row e).isNull != negated)
  | .between e low high negated => do
    let v ← eval context row e
    v.ifPresent do
      let a ← eval context row low
      a.ifPresent do
        let b ← eval context row high
        b.ifPresent (.guarded (v.orderHalts a || v.orderHalts b) (.ok (v.isBetween a b negated)))
  | .inList e items negated => do
    let v ← eval context row e
    v.ifPresent (evalMember context row v negated false items)
  | .like e pattern negated ignoreCase => do
    let v ← eval context row e
    v.ifPresent (match readyPattern? ignoreCase pattern with
      | some p => .ok (v.likeReady p negated)
      | none => do
        let p ← eval context row pattern
        p.ifPresent (v.like p negated ignoreCase))
  | .concat l r => do
    let a ← eval context row l
    a.ifPresent do
      let b ← eval context row r
      b.ifPresent (.ok (.text (a.render ++ b.render)))
  | .cast e type => do
    let v ← eval context row e
    v.ifPresent (.guarded (type.halts v) (.ok (type.coerce v)))
  | .caseWhen branches otherwise => do
    match ← evalWhen context row branches with
    | some v => return v
    | none => eval context row otherwise
  | .caseOf operand branches otherwise => do
    let v ← eval context row operand
    match ← evalOf context row v branches with
    | some w => return w
    | none => eval context row otherwise
  | .call .choice args => evalChoice context row args
  | .call .firstPresent args => evalFirst context row args
  | .call f args => do f.apply context (← evalAll context row args)

/-- The values of expressions. -/
def evalAll (context : Context) (row : List Value) : List Expr → Eval (List Value)
  | [] => .ok []
  | e :: es => do
    let v ← eval context row e
    let vs ← evalAll context row es
    return v :: vs

/-- Whether a value is among those of expressions, after one that has no order with it if `unknown`. -/
def evalMember (context : Context) (row : List Value) (v : Value) (negated unknown : Bool) : List Expr → Eval Value
  | [] => .ok (if unknown then .null else .bool negated)
  | e :: es => do
    match ← v.orderTo (← eval context row e) with
    | some .eq => return .bool (!negated)
    | some _ => evalMember context row v negated unknown es
    | none => evalMember context row v negated true es

/-- The result of the first branch whose condition is true. -/
def evalWhen (context : Context) (row : List Value) : List (Expr × Expr) → Eval (Option Value)
  | [] => .ok none
  | (condition, result) :: rest => do
    if (← eval context row condition).toBool? == some true then return some (← eval context row result)
    else evalWhen context row rest

/-- The result of the first branch whose value is equal to `v`. -/
def evalOf (context : Context) (row : List Value) (v : Value) : List (Expr × Expr) → Eval (Option Value)
  | [] => .ok none
  | (candidate, result) :: rest => do
    if (← v.orderTo (← eval context row candidate)) == some .eq then return some (← eval context row result)
    else evalOf context row v rest

/-- The second of three expressions if the first is true, else the third. -/
def evalChoice (context : Context) (row : List Value) : List Expr → Eval Value
  | [condition, yes, no] => do
    if (← eval context row condition).toBool? == some true then eval context row yes else eval context row no
  | _ => .ok .null

/-- The first value that is there. -/
def evalFirst (context : Context) (row : List Value) : List Expr → Eval Value
  | [] => .ok .null
  | e :: es => do
    let v ← eval context row e
    if v.isNull then evalFirst context row es else return v

end

/-- **A literal pattern counts as one that is read on the row**, so whether it is ready beforehand does not show. -/
theorem eval_like (context : Context) (row : List Value) (e pattern : Expr) (negated ignoreCase : Bool) :
    eval context row (.like e pattern negated ignoreCase) = (do
      let v ← eval context row e
      v.ifPresent do
        let p ← eval context row pattern
        p.ifPresent (v.like p negated ignoreCase)) := by
  rw [eval]
  cases hready : readyPattern? ignoreCase pattern with
  | none => rfl
  | some p =>
    unfold readyPattern? at hready
    split at hready
    · rename_i s
      have hlike : ∀ v : Value, (Value.text s).ifPresent (v.like (.text s) negated ignoreCase) =
          .ok (v.likeReady p negated) := by
        intro v
        rw [Value.like, Value.render, hready]
        rfl
      rw [eval]
      exact congrArg _ (funext fun v => congrArg v.ifPresent (hlike v).symm)
    · cases hready

end Expr
end RowSql
