import RowSql.Proofs.Expr.Operands
/-!
# Alike — expressions with the same result on related rows

Two expressions have one result when the value, or the fault, of the one in its context and on its row is that
of the other.  Every operator keeps this: what it makes of operands with one result has one result.  Two
expressions are alike under a relation of rows when they have one result in every context on any two related
rows, and so the operators keep this as well.
-/
namespace RowSql
namespace Expr

/-- **Two expressions have one result**, each in a context and on a row of its own. -/
def SameResult (context context' : Context) (row row' : List Value) (e e' : Expr) : Prop :=
  eval context row e = eval context' row' e'

/-- Two branches whose conditions have one result and whose results have one. -/
def SameBranch (context context' : Context) (row row' : List Value) (b b' : Expr × Expr) : Prop :=
  SameResult context context' row row' b.1 b'.1 ∧ SameResult context context' row row' b.2 b'.2

/-! ## Lists -/

section

variable {context context' : Context} {row row' : List Value} {es es' : List Expr} {bs bs' : List (Expr × Expr)}

theorem evalAll_congr (h : List.Forall₂ (SameResult context context' row row') es es') :
    evalAll context row es = evalAll context' row' es' := by
  induction h with
  | nil => rfl
  | cons he _ ih => rw [evalAll, evalAll, he, ih]

theorem evalMember_congr (v : Value) (negated : Bool) (h : List.Forall₂ (SameResult context context' row row') es es')
    (unknown : Bool) :
    evalMember context row v negated unknown es = evalMember context' row' v negated unknown es' := by
  induction h generalizing unknown with
  | nil => rfl
  | cons he _ ih =>
    rw [evalMember, evalMember, he]
    simp only [ih]

theorem evalWhen_congr (h : List.Forall₂ (SameBranch context context' row row') bs bs') :
    evalWhen context row bs = evalWhen context' row' bs' := by
  induction h with
  | nil => rfl
  | cons hb _ ih => rw [evalWhen, evalWhen, hb.1, hb.2, ih]

theorem evalOf_congr (v : Value) (h : List.Forall₂ (SameBranch context context' row row') bs bs') :
    evalOf context row v bs = evalOf context' row' v bs' := by
  induction h with
  | nil => rfl
  | cons hb _ ih => rw [evalOf, evalOf, hb.1, hb.2, ih]

theorem evalFirst_congr (h : List.Forall₂ (SameResult context context' row row') es es') :
    evalFirst context row es = evalFirst context' row' es' := by
  induction h with
  | nil => rfl
  | cons he _ ih => rw [evalFirst, evalFirst, he, ih]

theorem evalChoice_congr (h : List.Forall₂ (SameResult context context' row row') es es') :
    evalChoice context row es = evalChoice context' row' es' := by
  rcases h with _ | ⟨hc, _ | ⟨hy, _ | ⟨hn, _ | _⟩⟩⟩
  · rfl
  · rfl
  · rfl
  · rw [evalChoice, evalChoice, hc, hy, hn]
  · rfl

/-! ## Operators -/

namespace SameResult

variable {e e' l l' r r' low low' high high' : Expr}

theorem arith (op : ArithOp) (hl : SameResult context context' row row' l l')
    (hr : SameResult context context' row row' r r') :
    SameResult context context' row row' (.arith op l r) (.arith op l' r') := by
  rw [SameResult, eval, eval, hl, hr]

theorem neg (he : SameResult context context' row row' e e') :
    SameResult context context' row row' (.neg e) (.neg e') := by
  rw [SameResult, eval, eval, he]

theorem compare (op : CompareOp) (hl : SameResult context context' row row' l l')
    (hr : SameResult context context' row row' r r') :
    SameResult context context' row row' (.compare op l r) (.compare op l' r') := by
  rw [SameResult, eval, eval, hl, hr]

theorem not (he : SameResult context context' row row' e e') :
    SameResult context context' row row' (.not e) (.not e') := by
  rw [SameResult, eval, eval, he]

theorem and (hl : SameResult context context' row row' l l') (hr : SameResult context context' row row' r r') :
    SameResult context context' row row' (.and l r) (.and l' r') := by
  rw [SameResult, eval, eval, hl, hr]

theorem or (hl : SameResult context context' row row' l l') (hr : SameResult context context' row row' r r') :
    SameResult context context' row row' (.or l r) (.or l' r') := by
  rw [SameResult, eval, eval, hl, hr]

theorem isNull (he : SameResult context context' row row' e e') (negated : Bool) :
    SameResult context context' row row' (.isNull e negated) (.isNull e' negated) := by
  rw [SameResult, eval, eval, he]

theorem between (he : SameResult context context' row row' e e') (hl : SameResult context context' row row' low low')
    (hh : SameResult context context' row row' high high') (negated : Bool) :
    SameResult context context' row row' (.between e low high negated) (.between e' low' high' negated) := by
  rw [SameResult, eval, eval, he, hl, hh]

theorem inList (he : SameResult context context' row row' e e')
    (hi : List.Forall₂ (SameResult context context' row row') es es') (negated : Bool) :
    SameResult context context' row row' (.inList e es negated) (.inList e' es' negated) := by
  rw [SameResult, eval, eval, he]
  simp only [evalMember_congr _ negated hi]

theorem like (he : SameResult context context' row row' e e') (hp : SameResult context context' row row' l l')
    (negated ignoreCase : Bool) :
    SameResult context context' row row' (.like e l negated ignoreCase) (.like e' l' negated ignoreCase) := by
  rw [SameResult, eval_like, eval_like, he, hp]

theorem concat (hl : SameResult context context' row row' l l') (hr : SameResult context context' row row' r r') :
    SameResult context context' row row' (.concat l r) (.concat l' r') := by
  rw [SameResult, eval, eval, hl, hr]

theorem cast (he : SameResult context context' row row' e e') (type : FieldType) :
    SameResult context context' row row' (.cast e type) (.cast e' type) := by
  rw [SameResult, eval, eval, he]

theorem caseWhen (hb : List.Forall₂ (SameBranch context context' row row') bs bs')
    (he : SameResult context context' row row' e e') :
    SameResult context context' row row' (.caseWhen bs e) (.caseWhen bs' e') := by
  rw [SameResult, eval, eval, evalWhen_congr hb, he]

theorem caseOf (ho : SameResult context context' row row' l l')
    (hb : List.Forall₂ (SameBranch context context' row row') bs bs')
    (he : SameResult context context' row row' e e') :
    SameResult context context' row row' (.caseOf l bs e) (.caseOf l' bs' e') := by
  rw [SameResult, eval, eval, ho]
  simp only [evalOf_congr _ hb, show eval context row e = eval context' row' e' from he]

/-- The functions that choose evaluate their arguments themselves; the others are applied to the values of all
of them. -/
theorem call {f : Function} (ha : List.Forall₂ (SameResult context context' row row') es es')
    (hf : ∀ vs : List Value, vs.length = es'.length → f.apply context vs = f.apply context' vs) :
    SameResult context context' row row' (.call f es) (.call f es') := by
  by_cases hc : f = .choice
  · subst hc
    rw [SameResult, eval, eval, evalChoice_congr ha]
  by_cases hp : f = .firstPresent
  · subst hp
    rw [SameResult, eval, eval, evalFirst_congr ha]
  rw [SameResult, eval_call hc hp, eval_call hc hp, evalAll_congr ha]
  cases hvs : evalAll context' row' es' with
  | error fault => rfl
  | ok vs => exact hf vs ((evalAll_eq_ok context' row' es' vs).1 hvs).length_eq.symm

end SameResult

end

/-! ## Related rows -/

/-- **Two expressions have the same result on any two related rows**, in every context. -/
def Alike (R : List Value → List Value → Prop) (e e' : Expr) : Prop :=
  ∀ context row row', R row row' → eval context row e = eval context row' e'

/-- Two branches whose conditions are alike and whose results are alike. -/
def AlikeBranch (R : List Value → List Value → Prop) (b b' : Expr × Expr) : Prop := Alike R b.1 b'.1 ∧ Alike R b.2 b'.2

variable {R : List Value → List Value → Prop} {e e' l l' r r' : Expr} {es es' : List Expr} {bs bs' : List (Expr × Expr)}

theorem sameResults_of_alike {context : Context} {row row' : List Value} (h : R row row')
    (ha : List.Forall₂ (Alike R) es es') :
    List.Forall₂ (SameResult context context row row') es es' := ha.imp fun _ _ he => he context row row' h

theorem sameBranches_of_alike {context : Context} {row row' : List Value} (h : R row row')
    (hb : List.Forall₂ (AlikeBranch R) bs bs') : List.Forall₂ (SameBranch context context row row') bs bs' :=
  hb.imp fun _ _ ⟨hc, hv⟩ => ⟨hc context row row' h, hv context row row' h⟩

namespace Alike

theorem literal (v : Value) : Alike R (.literal v) (.literal v) := fun _ _ _ _ => rfl

theorem param (name : String) : Alike R (.param name) (.param name) := fun _ _ _ _ => rfl

theorem arith (op : ArithOp) (hl : Alike R l l') (hr : Alike R r r') : Alike R (.arith op l r) (.arith op l' r') :=
  fun context row row' h => SameResult.arith op (hl context row row' h) (hr context row row' h)

theorem neg (he : Alike R e e') : Alike R (.neg e) (.neg e') :=
  fun context row row' h => SameResult.neg (he context row row' h)

theorem compare (op : CompareOp) (hl : Alike R l l') (hr : Alike R r r') :
    Alike R (.compare op l r) (.compare op l' r') :=
  fun context row row' h => SameResult.compare op (hl context row row' h) (hr context row row' h)

theorem not (he : Alike R e e') : Alike R (.not e) (.not e') :=
  fun context row row' h => SameResult.not (he context row row' h)

theorem and (hl : Alike R l l') (hr : Alike R r r') : Alike R (.and l r) (.and l' r') :=
  fun context row row' h => SameResult.and (hl context row row' h) (hr context row row' h)

theorem or (hl : Alike R l l') (hr : Alike R r r') : Alike R (.or l r) (.or l' r') :=
  fun context row row' h => SameResult.or (hl context row row' h) (hr context row row' h)

theorem isNull (he : Alike R e e') (negated : Bool) : Alike R (.isNull e negated) (.isNull e' negated) :=
  fun context row row' h => SameResult.isNull (he context row row' h) negated

theorem between (he : Alike R e e') (hl : Alike R l l') (hh : Alike R r r') (negated : Bool) :
    Alike R (.between e l r negated) (.between e' l' r' negated) :=
  fun context row row' h =>
    SameResult.between (he context row row' h) (hl context row row' h) (hh context row row' h) negated

theorem inList (he : Alike R e e') (hi : List.Forall₂ (Alike R) es es') (negated : Bool) :
    Alike R (.inList e es negated) (.inList e' es' negated) :=
  fun context row row' h => SameResult.inList (he context row row' h) (sameResults_of_alike h hi) negated

theorem like (he : Alike R e e') (hp : Alike R l l') (negated ignoreCase : Bool) :
    Alike R (.like e l negated ignoreCase) (.like e' l' negated ignoreCase) :=
  fun context row row' h => SameResult.like (he context row row' h) (hp context row row' h) negated ignoreCase

theorem concat (hl : Alike R l l') (hr : Alike R r r') : Alike R (.concat l r) (.concat l' r') :=
  fun context row row' h => SameResult.concat (hl context row row' h) (hr context row row' h)

theorem cast (he : Alike R e e') (type : FieldType) : Alike R (.cast e type) (.cast e' type) :=
  fun context row row' h => SameResult.cast (he context row row' h) type

theorem caseWhen (hb : List.Forall₂ (AlikeBranch R) bs bs') (he : Alike R e e') :
    Alike R (.caseWhen bs e) (.caseWhen bs' e') :=
  fun context row row' h => SameResult.caseWhen (sameBranches_of_alike h hb) (he context row row' h)

theorem caseOf (ho : Alike R l l') (hb : List.Forall₂ (AlikeBranch R) bs bs') (he : Alike R e e') :
    Alike R (.caseOf l bs e) (.caseOf l' bs' e') :=
  fun context row row' h =>
    SameResult.caseOf (ho context row row' h) (sameBranches_of_alike h hb) (he context row row' h)

theorem call (f : Function) (ha : List.Forall₂ (Alike R) es es') : Alike R (.call f es) (.call f es') :=
  fun _ _ _ h => SameResult.call (sameResults_of_alike h ha) fun _ _ => rfl

end Alike

end Expr
end RowSql
