import RowSql.Codec.Rows
import RowSql.Function.Builtin
import RowSql.Proofs.Expr.Operands
import RowSql.Proofs.Function.Halting
import RowSql.Proofs.Number.DecimalText
/-!
# Faults — what can go wrong in an expression

A fault of an expression was raised by an expression within it (`raised_within`): a fault of an operand is
passed on as it is, and what data an operand has does not make a fault of its own.  Operators of arithmetic, the
function for remainders, `like` and the functions on patterns are all that raise one.  But any expression that
reads a number may halt, over one kind of text.
-/
namespace RowSql

/-- The cells of a row; none if the record has no such row. -/
def Rows.cells (r : Rows) (index : Nat) : List Value := (r.rows[index]?).getD []

/-- The faults that an operator of arithmetic raises. -/
def ArithOp.Raises (op : ArithOp) : EvalFault → Prop
  | .divisionByZero => Value.ArithOp.isDivision op = true
  | .overflow o => o = op
  | .badPattern _ | .halt => False

namespace Value

variable {op : ArithOp} {a b : Value} {fault : EvalFault}

end Value

/-- The faults that a function raises for values. -/
def Function.Raises : Function → EvalFault → Prop
  | .number .rem, fault => ArithOp.rem.Raises fault
  | .pattern _, .badPattern _ => True
  | _, _ => False

namespace Expr

/-- **The faults that an expression raises by itself**, for values of its operands. -/
def Raises : Expr → EvalFault → Prop
  | .arith op _ _, fault => op.Raises fault
  | .like .., .badPattern _ => True
  | .call f _, fault => f.Raises fault
  | _, _ => False

variable {context : Context} {row : List Value} {fault : EvalFault}

/-- **The program can halt at an expression**: it is the column of a cell, or an operand of it has a value, over
which the program halts. -/
def CanHalt (context : Context) (row : List Value) (e : Expr) : Prop :=
  (∃ index type v, e = .column index type ∧ row[index]? = some v ∧ v.halts = true) ∨
    ∃ a ∈ e.operands, ∃ v, eval context row a = .ok v ∧ v.HoldsHalting

/-- The fault is one that an expression raises by itself, or the program halts at it. -/
def RaisesAt (context : Context) (row : List Value) (e : Expr) (fault : EvalFault) : Prop :=
  e.Raises fault ∨ (fault = .halt ∧ e.CanHalt context row)

/-- **One of the expressions fails** with the fault, or the program halts over the value of one. -/
def SomeFails (context : Context) (row : List Value) (es : List Expr) (fault : EvalFault) : Prop :=
  ∃ e ∈ es, eval context row e = .error fault ∨ (fault = .halt ∧ ∃ v, eval context row e = .ok v ∧ v.HoldsHalting)

theorem SomeFails.mono {es fs : List Expr} (h : SomeFails context row es fault) (hsub : es ⊆ fs) :
    SomeFails context row fs fault := by
  obtain ⟨e, hmem, he⟩ := h
  exact ⟨e, hsub hmem, he⟩

theorem SomeFails.tail {e : Expr} {es : List Expr} (h : SomeFails context row es fault) :
    SomeFails context row (e :: es) fault := h.mono (List.subset_cons_self e es)

theorem SomeFails.head {e : Expr} {es : List Expr} (h : eval context row e = .error fault) :
    SomeFails context row (e :: es) fault := ⟨e, List.mem_cons_self, .inl h⟩

end Expr

/-! ## Which expressions raise faults -/

/-- The function for remainders. -/
def Function.divides : Function → Bool
  | .number .rem => true
  | _ => false

/-- The functions on patterns. -/
def Function.searches : Function → Bool
  | .pattern _ => true
  | _ => false

theorem Builtin.divides_eq : ∀ form ∈ registry.forms, form.body.divides = (form.names == ["mod"]) := by decide +kernel

theorem Builtin.searches_eq : ∀ form ∈ registry.forms,
    form.body.searches = form.names.any fun name => "regexp".toList.isPrefixOf name.toList := by decide +kernel

theorem Function.raises_cases {f : Function} {fault : EvalFault} (h : f.Raises fault) :
    (f.divides = true ∧ ArithOp.rem.Raises fault) ∨ (f.searches = true ∧ ∃ text, fault = .badPattern text) := by
  unfold Function.Raises at h
  split at h
  · exact .inl ⟨rfl, h⟩
  · exact .inr ⟨rfl, _, rfl⟩
  · cases h

namespace Expr

/-- A quotient or a remainder, by an operator or by the function. -/
def divides : Expr → Bool
  | .arith op _ _ => Value.ArithOp.isDivision op
  | .call f _ => f.divides
  | _ => false

/-- A match with a pattern, by an operator or by a function. -/
def searches : Expr → Bool
  | .like .. => true
  | .call f _ => f.searches
  | _ => false

theorem RaisesAt.cases {context : Context} {row : List Value} {e : Expr} {fault : EvalFault}
    (h : e.RaisesAt context row fault) :
    (∃ op l r, e = .arith op l r ∧ op.Raises fault) ∨ (e.divides = true ∧ ArithOp.rem.Raises fault) ∨
      (e.searches = true ∧ ∃ text, fault = .badPattern text) ∨ (fault = .halt ∧ e.CanHalt context row) := by
  rcases h with hraises | hhalts
  · unfold Raises at hraises
    split at hraises
    · exact .inl ⟨_, _, _, rfl, hraises⟩
    · exact .inr (.inr (.inl ⟨rfl, _, rfl⟩))
    · rcases Function.raises_cases hraises with hdivides | hsearches
      · exact .inr (.inl hdivides)
      · exact .inr (.inr (.inl hsearches))
    · cases hraises
  · exact .inr (.inr (.inr hhalts))

end Expr
end RowSql
