import RowSql.Operator
/-!
# Fault — what goes wrong in statements

A statement can fail to compile, and an expression can fail on a row.  Data that does not read as what an
expression needs is no failure: it gives nothing.  One kind of text halts the program when it is read as a
number (`Decimal.halts`).  Nothing handles that: what was under way ends with `halt`, and so does all that it
was part of.
-/
namespace RowSql

/-- **A failure of an expression on a row.** -/
inductive EvalFault where
  | divisionByZero
  /-- A float result that is no finite number. -/
  | overflow (op : ArithOp)
  | badPattern (pattern : String)
  /-- The program halts. -/
  | halt
deriving DecidableEq, Repr, Inhabited

/-- What is said of the end of a program that halts. -/
def haltMessage : String := "the program halts"

def EvalFault.message : EvalFault → String
  | .divisionByZero => "division by zero"
  | .overflow op => s!"numeric overflow in {op.name}"
  | .badPattern pattern => s!"invalid pattern '{pattern}'"
  | .halt => haltMessage

/-- **A failure to compile a statement.** -/
inductive CompileFault where
  /-- The text is not a statement. -/
  | unreadable
  /-- A literal number that is out of range. -/
  | badNumber (text : String)
  /-- The statement has a part that a row transform cannot have, or lacks one that it needs. -/
  | badStatement (why : String)
  | unsupported (expression : String)
  | unknownFunction (name : String)
  | badArity (name : String) (given : Nat) (expected : String)
  | unknownColumn (name : String)
  /-- The program halts. -/
  | halt
deriving DecidableEq, Repr, Inhabited

def CompileFault.message : CompileFault → String
  | .unreadable => "parse error: "
  | .badNumber text => s!"parse error: invalid number literal '{text}'"
  | .badStatement why => s!"invalid statement: {why}"
  | .unsupported expression => s!"unsupported expression: {expression}"
  | .unknownFunction name => s!"unknown function: {name}"
  | .badArity name given expected =>
    s!"function '{name}' does not accept {given} argument(s), expected {expected}"
  | .unknownColumn name => s!"unknown column: {name}"
  | .halt => haltMessage

/-- The result of an expression. -/
abbrev Eval (α : Type) := Except EvalFault α

/-- **A result, unless the program halts over what is read for it.** -/
def Eval.guarded {α : Type} (halts : Bool) (result : Eval α) : Eval α := if halts then .error .halt else result

@[simp]
theorem Eval.guarded_false {α : Type} (result : Eval α) : Eval.guarded false result = result := rfl

theorem Eval.guarded_eq_ok {α : Type} {halts : Bool} {result : Eval α} {a : α} :
    Eval.guarded halts result = .ok a ↔ halts = false ∧ result = .ok a := by
  cases halts with
  | false => exact ⟨fun h => ⟨rfl, h⟩, fun h => h.2⟩
  | true => exact ⟨nofun, nofun⟩

end RowSql
