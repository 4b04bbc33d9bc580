import RowSql.Fault
import RowSql.Value
/-!
# Arithmetic — operators on values

Two words stay words as long as the exact result is one.  With a float on either side the operation is that of floats.
All other values are read as decimals, and one that does not read as a number gives nothing.  A divisor of zero is a
fault.  The program halts over an operand that it halts over.
-/
namespace RowSql
namespace Value

/-- The exact result on words, if it is a word; a quotient has to come out even, and the remainder of the least
word by minus one counts as none, because that quotient is no word.  The divisor is not zero. -/
def wholeArith? (op : ArithOp) (a b : Int) : Option Whole :=
  match op with
  | .add => Whole.ofInt? (a + b)
  | .sub => Whole.ofInt? (a - b)
  | .mul => Whole.ofInt? (a * b)
  | .div => if a.tmod b = 0 then Whole.ofInt? (a.tdiv b) else none
  | .rem => if a = Whole.least ∧ b = -1 then none else Whole.ofInt? (a.tmod b)

/-- The operation on decimals, for a divisor that is not zero. -/
def decimalArith (op : ArithOp) (a b : Decimal) : Decimal :=
  match op with
  | .add => a.add b
  | .sub => a.sub b
  | .mul => a.mul b
  | .div => a.div b
  | .rem => a.rem b

/-- The operation on floats, for a divisor that is not zero. -/
def floatArith (op : ArithOp) (a b : Float) : Float :=
  match op with
  | .add => a + b
  | .sub => a - b
  | .mul => a * b
  | .div => a / b
  | .rem => Binary.remainder a b

def ArithOp.isDivision : ArithOp → Bool
  | .div => true
  | .rem => true
  | _ => false

def isFloat : Value → Bool
  | .float _ => true
  | _ => false

/-- The operation where at least one operand is a float. -/
def arithFloat (op : ArithOp) (a b : Value) : Eval Value :=
  match a.toFloat?, b.toFloat? with
  | some x, some y =>
    if ArithOp.isDivision op && y == 0.0 then .error .divisionByZero
    else
      let z := floatArith op x y
      if z.isFinite then .ok (.float z) else .error (.overflow op)
  | _, _ => .ok .null

/-- The operation on values read as decimals. -/
def arithDecimal (op : ArithOp) (a b : Value) : Eval Value :=
  match a.toDecimal?, b.toDecimal? with
  | some x, some y =>
    if ArithOp.isDivision op && y.isZero then .error .divisionByZero else .ok (.decimal (decimalArith op x y))
  | _, _ => .ok .null

/-- **The result of an operator.** -/
def arith (op : ArithOp) (a b : Value) : Eval Value :=
  match a, b with
  | .int x, .int y =>
    if ArithOp.isDivision op && y.toInt == 0 then .error .divisionByZero
    else
      match wholeArith? op x.toInt y.toInt with
      | some n => .ok (.int n)
      | none => arithDecimal op a b
  | _, _ => Eval.guarded (a.halts || b.halts)
    (if a.isFloat || b.isFloat then arithFloat op a b else arithDecimal op a b)

/-- A decimal as a word where it is whole and in range. -/
def narrow (d : Decimal) : Value := (d.toWhole?).elim (.decimal d) .int

/-- **The value with its sign changed.** -/
def negate : Value → Value
  | .int n => (Whole.ofInt? (-n.toInt)).elim (.decimal (.ofInt (-n.toInt))) .int
  | .float x => .float (-x)
  | v => v.toDecimal?.elim .null fun d => narrow d.neg

end Value
end RowSql
