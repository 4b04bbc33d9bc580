import RowSql.Proofs.Sql.Columns
/-!
# Binding — expressions over alike scopes

An expression that is bound in two scopes which bind every name alike is bound to alike expressions, or fails in
both with the same fault (`bind_alike`).
-/
namespace RowSql
namespace Sql

variable {R : List Value → List Value → Prop} {scope scope' : Scope}

/-! ## Parts that are bound without the scope, or by one call -/

theorem Scope.Alike.call (h : Scope.Alike R scope scope') (name : String) {args args' : List Expr}
    (ha : List.Forall₂ (Expr.Alike R) args args') :
    Agree (Expr.Alike R) (scope.call name args) (scope'.call name args') := by
  unfold Scope.call
  rw [h.registry, ha.length_eq]
  cases scope'.registry.resolve name args'.length with
  | error e => exact Agree.error e
  | ok f => exact Expr.Alike.call f ha

theorem literal_alike (x : Except CompileFault Value) :
    Agree (Expr.Alike R) (x.map Expr.literal) (x.map Expr.literal) := by
  cases x with
  | error e => exact Agree.error e
  | ok v => exact Expr.Alike.literal v

theorem Literal.bind_alike (v : Literal) : Agree (Expr.Alike R) v.bind v.bind := by
  cases v with
  | number digits _ => exact literal_alike (numberValue false digits)
  | placeholder name => exact Expr.Alike.param _
  | text s | quotedText s => exact Expr.Alike.literal _
  | bool b => exact Expr.Alike.literal _
  | null => exact Expr.Alike.literal _
  | national s | hex s => exact Agree.error _
  | dollar tag s => exact Agree.error _

theorem BinaryOp.apply_alike (op : BinaryOp) {l l' r r' : Expr} (hl : Expr.Alike R l l') (hr : Expr.Alike R r r') :
    Agree (Expr.Alike R) (op.apply l r) (op.apply l' r') := by
  cases op with
  | arith op => exact Expr.Alike.arith op hl hr
  | compare op => exact Expr.Alike.compare op hl hr
  | and => exact Expr.Alike.and hl hr
  | or => exact Expr.Alike.or hl hr
  | concat => exact Expr.Alike.concat hl hr
  | other symbol => exact Agree.error _

theorem bind_call_none (scope : Scope) (name : List Name) (parts : CallParts) :
    Term.bind scope (.call name none parts) =
      if parts.window.isSome || parts.within.isSome then
        .error (.unsupported s!"{pathText name}: window or aggregate clause")
      else scope.call (pathText name) [] := by
  rw [Term.bind]
  split <;> rfl

theorem bind_call_some (scope : Scope) (name : List Name) (args : List Arg) (parts : CallParts) :
    Term.bind scope (.call name (some args) parts) =
      if parts.window.isSome || parts.within.isSome then
        .error (.unsupported s!"{pathText name}: window or aggregate clause")
      else if parts.quantifier.isSome || !parts.clauses.isEmpty then
        .error (.unsupported (Term.call name (some args) parts).render)
      else bindArgs scope (pathText name) args >>= scope.call (pathText name) := by
  rw [Term.bind]
  split
  · rfl
  · dsimp only
    split <;> rfl

theorem forall₂_toList {o o' : Option Expr} (h : Option.Rel (Expr.Alike R) o o') :
    List.Forall₂ (Expr.Alike R) o.toList o'.toList := by
  cases h with
  | none => exact .nil
  | some h => exact .cons h .nil

theorem getD_alike {o o' : Option Expr} (h : Option.Rel (Expr.Alike R) o o') (v : Value) :
    Expr.Alike R (o.getD (.literal v)) (o'.getD (.literal v)) := by
  cases h with
  | none => exact Expr.Alike.literal v
  | some h => exact h

/-! ## Expressions -/

mutual

/-- **An expression that is bound in alike scopes is bound to alike expressions**, or to none with the same fault. -/
theorem bind_alike (h : Scope.Alike R scope scope') :
    ∀ e : Term, Agree (Expr.Alike R) (e.bind scope) (e.bind scope')
  | .literal v => by
    rw [Term.bind, Term.bind]
    exact v.bind_alike
  | .name n => by
    rw [Term.bind, Term.bind]
    exact h.column n.text
  | .path parts => by
    rw [Term.bind, Term.bind]
    exact h.column _
  | .nested e => by
    rw [Term.bind, Term.bind]
    exact bind_alike h e
  | .binary l op r => by
    by_cases ho : ∃ symbol, op = .other symbol
    · obtain ⟨symbol, rfl⟩ := ho
      rw [Term.bind, Term.bind]
      exact Agree.error _
    · have ho' : ∀ symbol, op = .other symbol → False := fun symbol hs => ho ⟨symbol, hs⟩
      rw [Term.bind.eq_6 scope _ _ _ ho', Term.bind.eq_6 scope' _ _ _ ho']
      exact (bind_alike h l).bind fun _ _ hl => (bind_alike h r).bind fun _ _ hr => op.apply_alike hl hr
  | .unary .plus e => by
    rw [Term.bind, Term.bind]
    exact bind_alike h e
  | .unary .minus e => by
    rw [Term.bind, Term.bind]
    cases e.digits? with
    | some digits => exact literal_alike (numberValue true digits)
    | none => exact (bind_alike h e).bind fun _ _ he => Expr.Alike.neg he
  | .unary .not e => by
    rw [Term.bind, Term.bind]
    exact (bind_alike h e).bind fun _ _ he => Expr.Alike.not he
  | .unary (.other symbol) e => by
    rw [Term.bind, Term.bind]
    exact Agree.error _
  | .isNull e negated => by
    rw [Term.bind, Term.bind]
    exact (bind_alike h e).bind fun _ _ he => Expr.Alike.isNull he negated
  | .between e negated low high => by
    rw [Term.bind, Term.bind]
    exact (bind_alike h e).bind fun _ _ he => (bind_alike h low).bind fun _ _ hl =>
      (bind_alike h high).bind fun _ _ hh => Expr.Alike.between he hl hh negated
  | .inList e negated items => by
    rw [Term.bind, Term.bind]
    exact (bind_alike h e).bind fun _ _ he => (bindTerms_alike h items).bind fun _ _ hi =>
      Expr.Alike.inList he hi negated
  | .like ignoreCase e negated false pattern escape => by
    rw [Term.bind, Term.bind]
    exact (bind_alike h e).bind fun _ _ he => (bind_alike h pattern).bind fun _ _ hp =>
      Expr.Alike.like he hp negated ignoreCase
  | .like ignoreCase e negated true pattern escape => by
    rw [Term.bind, Term.bind]
    exact Agree.error _
  | .caseOf operand branches otherwise => by
    rw [Term.bind, Term.bind]
    refine (bindOption_alike h operand).bind fun o o' ho => (bindBranches_alike h branches).bind fun _ _ hb =>
      (bindOption_alike h otherwise).bind fun _ _ hw => ?_
    cases ho with
    | none => exact Expr.Alike.caseWhen hb (getD_alike hw .null)
    | some ho => exact Expr.Alike.caseOf ho hb (getD_alike hw .null)
  | .array _ items => by
    rw [Term.bind, Term.bind]
    exact (bindTerms_alike h items).bind fun _ _ hi => h.call "array" hi
  | .call name none parts => by
    rw [bind_call_none, bind_call_none]
    split
    · exact Agree.error _
    · exact h.call _ .nil
  | .call name (some args) parts => by
    rw [bind_call_some, bind_call_some]
    split
    · exact Agree.error _
    · split
      · exact Agree.error _
      · exact (bindArgs_alike h (pathText name) args).bind fun _ _ ha => h.call _ ha
  | .cast _ e type _ => by
    rw [Term.bind, Term.bind]
    cases castType? type with
    | none => exact Agree.error _
    | some t => exact (bind_alike h e).bind fun _ _ he => Expr.Alike.cast he t
  | .substring e start length _ _ => by
    rw [Term.bind, Term.bind]
    exact (bind_alike h e).bind fun _ _ he => (bindOption_alike h start).bind fun _ _ hs =>
      (bindOption_alike h length).bind fun _ _ hl =>
        h.call "substring" (.cons he (.cons (getD_alike hs _) (forall₂_toList hl)))
  | .trim side what e => by
    rw [Term.bind, Term.bind]
    exact (bind_alike h e).bind fun _ _ he => (bindOption_alike h what).bind fun _ _ hw =>
      h.call (trimFunction side) (.cons he (forall₂_toList hw))
  | .position part e => by
    rw [Term.bind, Term.bind]
    exact (bind_alike h part).bind fun _ _ hp => (bind_alike h e).bind fun _ _ he =>
      h.call "locate" (.cons hp (.cons he .nil))
  | .ceiling e _ => by
    rw [Term.bind, Term.bind]
    exact (bind_alike h e).bind fun _ _ he => h.call "ceil" (.cons he .nil)
  | .floor e _ => by
    rw [Term.bind, Term.bind]
    exact (bind_alike h e).bind fun _ _ he => h.call "floor" (.cons he .nil)
  | .other text => by
    rw [Term.bind, Term.bind]
    exact Agree.error _

theorem bindOption_alike (h : Scope.Alike R scope scope') :
    ∀ o : Option Term, Agree (Option.Rel (Expr.Alike R)) (bindOption scope o) (bindOption scope' o)
  | none => by
    rw [bindOption, bindOption]
    exact Option.Rel.none
  | some e => by
    rw [bindOption, bindOption]
    exact (bind_alike h e).bind fun _ _ he => Option.Rel.some he

theorem bindTerms_alike (h : Scope.Alike R scope scope') :
    ∀ es : List Term, Agree (List.Forall₂ (Expr.Alike R)) (bindTerms scope es) (bindTerms scope' es)
  | [] => by
    rw [bindTerms, bindTerms]
    exact List.Forall₂.nil
  | e :: es => by
    rw [bindTerms, bindTerms]
    exact (bind_alike h e).bind fun _ _ he => (bindTerms_alike h es).bind fun _ _ hes => List.Forall₂.cons he hes

theorem bindBranches_alike (h : Scope.Alike R scope scope') :
    ∀ bs : List (Term × Term), Agree (List.Forall₂ (Expr.AlikeBranch R)) (bindBranches scope bs)
      (bindBranches scope' bs)
  | [] => by
    rw [bindBranches, bindBranches]
    exact List.Forall₂.nil
  | (condition, result) :: rest => by
    rw [bindBranches, bindBranches]
    exact (bind_alike h condition).bind fun _ _ hc => (bind_alike h result).bind fun _ _ hv =>
      (bindBranches_alike h rest).bind fun _ _ hr => List.Forall₂.cons ⟨hc, hv⟩ hr

theorem bindArgs_alike (h : Scope.Alike R scope scope') (name : String) :
    ∀ as : List Arg, Agree (List.Forall₂ (Expr.Alike R)) (bindArgs scope name as) (bindArgs scope' name as)
  | [] => by
    rw [bindArgs, bindArgs]
    exact List.Forall₂.nil
  | .term e :: as => by
    rw [bindArgs, bindArgs]
    exact (bind_alike h e).bind fun _ _ he => (bindArgs_alike h name as).bind fun _ _ ha => List.Forall₂.cons he ha
  | .other text :: _ => by
    rw [bindArgs, bindArgs]
    exact Agree.error _

end

/-! ## Columns by name -/

/-- **Columns are bound by name and not by position**: over fields in another order an expression is bound just
when it was, else with the same fault, and what it is bound to has the same value or the same fault on a row in
that order. -/
theorem bind_of_perm (registry : Registry Function) {fields fields' : List Field} (hd : DistinctNames fields)
    (hp : fields.Perm fields') (e : Term) :
    Agree (fun a b => ∀ context row row', (cellsOf fields row).Perm (cellsOf fields' row') →
        a.eval context row = b.eval context row')
      (e.bind ⟨registry, fields⟩) (e.bind ⟨registry, fields'⟩) :=
  bind_alike (Scope.alike_of_perm registry hd hp) e

def amountAndRate : List Field := [⟨"Amount", .whole, none⟩, ⟨"rate", .decimal, none⟩]

def charge : Term := .binary (.name ⟨"AMOUNT", none⟩) (.arith .mul) (.name ⟨"rate", none⟩)

example : charge.bind ⟨.empty, amountAndRate⟩ = .ok (.arith .mul (.column 0 .whole) (.column 1 .decimal)) := by rfl

example : charge.bind ⟨.empty, amountAndRate.reverse⟩ = .ok (.arith .mul (.column 1 .whole) (.column 0 .decimal)) := by
  rfl

theorem bind_of_perm_charge :
    DistinctNames amountAndRate ∧ amountAndRate.Perm amountAndRate.reverse ∧
    Agree (fun a b => ∀ context row row', (cellsOf amountAndRate row).Perm (cellsOf amountAndRate.reverse row') →
        a.eval context row = b.eval context row')
      (charge.bind ⟨.empty, amountAndRate⟩) (charge.bind ⟨.empty, amountAndRate.reverse⟩) := by
  have hd : DistinctNames amountAndRate := by
    unfold DistinctNames
    decide
  have hp : amountAndRate.Perm amountAndRate.reverse := (List.reverse_perm _).symm
  exact ⟨hd, hp, bind_of_perm .empty hd hp charge⟩

end Sql
end RowSql
