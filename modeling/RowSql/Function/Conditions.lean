import RowSql.Value
/-!
# Conditions — functions that ask for what is there
-/
namespace RowSql

inductive ConditionFunction where
  | nullIf
  | isNull
  | isNumeric
deriving DecidableEq, Repr, Inhabited

namespace ConditionFunction

/-- A number, or a text that reads as one. -/
def readsAsNumber : Value → Bool
  | .text s => (Value.text s).toDecimal?.isSome
  | v => v.isNumber

/-- **The result of a function on conditions.** -/
def apply (f : ConditionFunction) (args : List Value) : Value :=
  match f, args with
  | .nullIf, [a, b] => if a.equal b then .null else a
  | .isNull, [v] => .bool v.isNull
  | .isNumeric, [v] => .bool (readsAsNumber v)
  | _, _ => .null

/-- The program halts over the number that the function reads. -/
def halts (f : ConditionFunction) (args : List Value) : Bool :=
  match f, args with
  | .isNumeric, [v] => v.halts
  | _, _ => false

end ConditionFunction
end RowSql
