/-!
# Operator — the binary operators of expressions
-/
namespace RowSql

/-- The operators of arithmetic. -/
inductive ArithOp where
  | add
  | sub
  | mul
  | div
  | rem
deriving DecidableEq, Repr, Inhabited

/-- The name of an operation in messages. -/
def ArithOp.name : ArithOp → String
  | .add => "addition"
  | .sub => "subtraction"
  | .mul => "multiplication"
  | .div => "division"
  | .rem => "modulo"

/-- The operators of comparison. -/
inductive CompareOp where
  | eq
  | ne
  | lt
  | le
  | gt
  | ge
deriving DecidableEq, Repr, Inhabited

/-- Whether an order satisfies the operator. -/
def CompareOp.holds : CompareOp → Ordering → Bool
  | .eq, o => o == .eq
  | .ne, o => o != .eq
  | .lt, o => o == .lt
  | .le, o => o != .gt
  | .gt, o => o == .gt
  | .ge, o => o != .lt

end RowSql
