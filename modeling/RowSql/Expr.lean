import RowSql.Field
import RowSql.Function
/-!
# Expr — expressions over the columns of a row

An expression is a finite tree.  Columns are held by their position and the type that they are declared with.
-/
namespace RowSql

/-- **An expression.** -/
inductive Expr where
  | literal (v : Value)
  | column (index : Nat) (type : FieldType)
  | param (name : String)
  | arith (op : ArithOp) (l r : Expr)
  | neg (e : Expr)
  | compare (op : CompareOp) (l r : Expr)
  | not (e : Expr)
  | and (l r : Expr)
  | or (l r : Expr)
  | isNull (e : Expr) (negated : Bool)
  | between (e low high : Expr) (negated : Bool)
  | inList (e : Expr) (items : List Expr) (negated : Bool)
  | like (e pattern : Expr) (negated ignoreCase : Bool)
  | concat (l r : Expr)
  | cast (e : Expr) (type : FieldType)
  /-- The result of the first branch whose condition is true. -/
  | caseWhen (branches : List (Expr × Expr)) (otherwise : Expr)
  /-- The result of the first branch whose value is equal to that of the operand. -/
  | caseOf (operand : Expr) (branches : List (Expr × Expr)) (otherwise : Expr)
  | call (f : Function) (args : List Expr)
deriving Inhabited

end RowSql
