import RowSql.Function.Conditions
import RowSql.Function.Matches
import RowSql.Function.Numbers
import RowSql.Function.Texts
import RowSql.Function.Times
/-!
# Function — the functions of expressions

Most functions take the values of all their arguments.  With most of these, nothing as an argument makes the result
nothing.  Two functions choose which of their arguments are evaluated at all.  The program halts over an argument that a
function reads as a number if it halts over reading it.
-/
namespace RowSql

/-- **A function.** -/
inductive Function where
  | array (f : ArrayFunction)
  | float (f : FloatFunction)
  | number (f : NumberFunction)
  | text (f : TextFunction)
  | pattern (f : MatchFunction)
  | time (f : TimeFunction)
  | condition (f : ConditionFunction)
  /-- The second argument if the first is true, else the third. -/
  | choice
  /-- The first argument that is there. -/
  | firstPresent
deriving DecidableEq, Repr, Inhabited

namespace Function

/-- Nothing as an argument makes the result nothing. -/
def isStrict : Function → Bool
  | .array f => f.isStrict
  | .text f => f.isStrict
  | .condition _ => false
  | .choice => false
  | .firstPresent => false
  | _ => true

/-- The result for values that the function asks for. -/
def body (f : Function) (context : Context) (args : List Value) : Eval Value :=
  match f with
  | .array f => .ok (f.apply args)
  | .float f => .ok (args.head?.elim .null f.apply)
  | .number f => f.apply args
  | .text f => .ok (f.apply args)
  | .pattern f => f.apply args
  | .time f => .ok (f.apply context args)
  | .condition f => .ok (f.apply args)
  | .choice => .ok .null
  | .firstPresent => .ok .null

/-- The program halts over the numbers that the function reads, for values that it asks for. -/
def halts (f : Function) (args : List Value) : Bool :=
  match f with
  | .array f => f.halts args
  | .float _ => args.head?.any Value.halts
  | .number f => f.halts args
  | .text f => f.halts args
  | .pattern f => f.halts args
  | .time f => f.halts args
  | .condition f => f.halts args
  | .choice => false
  | .firstPresent => false

/-- **The result for the values of all arguments.** -/
def apply (f : Function) (context : Context) (args : List Value) : Eval Value :=
  if f.isStrict && args.any Value.isNull then .ok .null else .guarded (f.halts args) (f.body context args)

theorem apply_of_present (f : Function) (context : Context) {args : List Value} (h : ∀ v ∈ args, v.isNull = false)
    (hhalts : f.halts args = false) : f.apply context args = f.body context args := by
  have hany : args.any Value.isNull = false := List.any_eq_false.2 fun v hv => by rw [h v hv]; exact Bool.false_ne_true
  rw [apply, hany, Bool.and_false, if_neg Bool.false_ne_true, hhalts, Eval.guarded_false]

end Function
end RowSql
