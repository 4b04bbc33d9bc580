import RowSql.Proofs.Number.DecimalText
import RowSql.Proofs.Sql.Binding
import RowSql.Proofs.Value.Narrowing
/-!
# Parentheses — where parentheses matter

A term is bound as it is without its parentheses, with one exception.  A minus sign and the number right behind
it are one literal, in the scale of its text; the value of a number in parentheses has its sign changed when it
is evaluated, and that gives a word where there is one.  So `-1.0` is a decimal and `-(1.0)` a word of the same
number (`numberValue_negated`), and parentheses matter nowhere else (`bind_bare`).
-/
namespace RowSql

/-- **The kind of a fault**: the fault without the text that it quotes. -/
def CompileFault.unquoted : CompileFault → CompileFault
  | .badNumber _ => .badNumber ""
  | .unsupported _ => .unsupported ""
  | fault => fault

/-! ## Numbers behind a minus sign -/

namespace Value

/-- The value, but the word of its number if it is a decimal that has one. -/
def narrowed : Value → Value
  | .decimal d => narrow d
  | v => v

theorem number?_narrowed (v : Value) : v.narrowed.number? = v.number? := by
  cases v with
  | decimal d => exact number?_narrow d
  | _ => rfl

theorem narrowed_narrow (d : Decimal) : (narrow d).narrowed = narrow d := by
  cases hw : d.toWhole? with
  | none =>
    have hd : narrow d = .decimal d := by rw [narrow, hw, Option.elim_none]
    rw [hd, narrowed, hd]
  | some w =>
    rw [narrow, hw, Option.elim_some]
    rfl

theorem negate_narrow_ofInt (n : Int) : (narrow (.ofInt n)).negate = narrow (.ofInt (-n)) := by
  rw [narrow_ofInt n]
  cases hw : Whole.ofInt? n with
  | none => rfl
  | some w => rw [Option.elim_some, negate, Whole.toInt_ofInt? hw, narrow_ofInt]

end Value

namespace Sql

theorem numberValue_of_readPlain {digits : String} {n : Nat} (h : Decimal.readPlain digits.toList = some n)
    (negative : Bool) :
    numberValue negative digits = .ok (Value.narrow (.ofInt (if negative then -(n : Int) else n))) := by
  have hplain := Decimal.ofText?_of_readPlain h
  have hsigned : Decimal.ofText? (wordIf negative "-" ++ digits) =
      some (.ofInt (if negative then -(n : Int) else n)) := by
    cases negative with
    | false =>
      rw [wordIf, if_neg Bool.false_ne_true, String.empty_append, hplain]
      rfl
    | true =>
      rw [wordIf, if_pos rfl, Decimal.ofText?_neg (Decimal.isUnsigned_of_readPlain h), hplain]
      rfl
  rw [numberValue, h, Value.narrow_ofInt]
  dsimp only [Option.bind_eq_bind, Option.bind_some]
  cases Whole.ofInt? (if negative then -(n : Int) else n) with
  | some w => rfl
  | none =>
    rw [hsigned, Decimal.not_halts_of_ofText? hsigned]
    rfl

/-- A value is negated to another, and that does not halt. -/
def Negates (v w : Value) : Prop := v.negate = w ∧ v.halts = false

theorem Negates.eval_neg {v w : Value} (h : Negates v w) (context : Context) (row : List Value) :
    Expr.eval context row (.neg (.literal v)) = .ok w := by
  rw [Expr.eval, Expr.eval]
  change Eval.guarded v.halts (.ok v.negate) = _
  rw [h.1, h.2, Eval.guarded_false]

/-- **A number that is negated when it is evaluated is the number that is read with the sign, narrowed.** -/
theorem numberValue_negated {digits : String} (h : Decimal.isUnsigned digits.toList = true) :
    AgreeBy CompileFault.unquoted (fun v w => Negates v w.narrowed) (numberValue false digits)
      (numberValue true digits) := by
  cases hplain : Decimal.readPlain digits.toList with
  | some n =>
    rw [numberValue_of_readPlain hplain, numberValue_of_readPlain hplain]
    exact ⟨(Value.negate_narrow_ofInt n).trans (Value.narrowed_narrow _).symm,
      Value.not_halts_of_number? (Value.number?_narrow _)⟩
  | none =>
    have hsign : Decimal.ofText? (wordIf true "-" ++ digits) = (Decimal.ofText? digits).map Decimal.neg :=
      Decimal.ofText?_neg h
    have hhalts : Decimal.halts (wordIf true "-" ++ digits) = Decimal.halts digits := Decimal.halts_neg h
    have hnone : wordIf false "-" ++ digits = digits := String.empty_append
    rw [numberValue, numberValue, hplain, hsign, hhalts, hnone]
    cases Decimal.halts digits with
    | true => rfl
    | false => cases Decimal.ofText? digits with
      | none => rfl
      | some d => exact ⟨rfl, rfl⟩

/-- The number is no word but has one, when a minus sign is read with it, or it does not begin as numbers do. -/
def parenthesesMatter (digits : String) : Bool :=
  !Decimal.isUnsigned digits.toList ||
    match numberValue true digits with
    | .ok (.decimal d) => d.toWhole?.isSome
    | _ => false

theorem numberValue_negate {digits : String} (h : parenthesesMatter digits = false) :
    AgreeBy CompileFault.unquoted Negates (numberValue false digits) (numberValue true digits) := by
  obtain ⟨hunsigned, hscale⟩ := Bool.or_eq_false_iff.1 h
  refine (numberValue_negated (by simpa using hunsigned)).imp fun v w hw hv => ⟨hv.1.trans ?_, hv.2⟩
  cases w with
  | decimal d =>
    rw [hw] at hscale
    rw [Value.narrowed, Value.narrow, Option.not_isSome_iff_eq_none.1 (Bool.eq_false_iff.1 hscale), Option.elim_none]
  | _ => rfl

/-! ## Terms without parentheses -/

/-- What a call has besides, without the texts of expressions. -/
def CallParts.bare (p : CallParts) : CallParts :=
  { p with
    params := p.params.map fun _ => ""
    clauses := p.clauses.map fun _ => ""
    within := p.within.map fun _ => ""
    window := p.window.map fun _ => "" }

mutual

/-- **The term without the parentheses that do not matter**, and without the texts of what is no expression of a row
transform.  Of the parentheses that matter one pair is kept. -/
def Term.bare : Term → Term
  | .literal v => .literal v
  | .name n => .name n
  | .path parts => .path parts
  | .nested e => e.bare
  | .binary l op r => .binary l.bare op r.bare
  | .unary .minus e =>
    .unary .minus (if e.digits?.isNone && e.bare.digits?.any parenthesesMatter then .nested e.bare else e.bare)
  | .unary op e => .unary op e.bare
  | .isNull e negated => .isNull e.bare negated
  | .between e negated low high => .between e.bare negated low.bare high.bare
  | .inList e negated items => .inList e.bare negated (bareTerms items)
  | .like ignoreCase e negated any pattern escape => .like ignoreCase e.bare negated any pattern.bare escape
  | .caseOf operand branches otherwise => .caseOf (bareOption operand) (bareBranches branches) (bareOption otherwise)
  | .array named items => .array named (bareTerms items)
  | .call name none parts => .call name none parts.bare
  | .call name (some args) parts => .call name (some (bareArgs args)) parts.bare
  | .cast kind e type format => .cast kind e.bare type format
  | .substring e start length commas short => .substring e.bare (bareOption start) (bareOption length) commas short
  | .trim side what e => .trim side (bareOption what) e.bare
  | .position part e => .position part.bare e.bare
  | .ceiling e unit => .ceiling e.bare unit
  | .floor e unit => .floor e.bare unit
  | .other _ => .other ""

def bareOption : Option Term → Option Term
  | none => none
  | some e => some e.bare

def bareTerms : List Term → List Term
  | [] => []
  | e :: es => e.bare :: bareTerms es

def bareBranches : List (Term × Term) → List (Term × Term)
  | [] => []
  | (condition, result) :: rest => (condition.bare, result.bare) :: bareBranches rest

def bareArgs : List Arg → List Arg
  | [] => []
  | .term e :: as => .term e.bare :: bareArgs as
  | .other _ :: as => .other "" :: bareArgs as

end

/-! ## Binding -/

theorem Scope.alike_self (scope : Scope) : Scope.Alike Eq scope scope :=
  ⟨rfl, fun name => Agree.refl (fun e _ _ _ h => congrArg (Expr.eval _ · e) h) (scope.column name)⟩

theorem CallParts.bare_window (p : CallParts) : p.bare.window.isSome = p.window.isSome := Option.isSome_map

theorem CallParts.bare_within (p : CallParts) : p.bare.within.isSome = p.within.isSome := Option.isSome_map

theorem CallParts.bare_quantifier (p : CallParts) : p.bare.quantifier = p.quantifier := rfl

theorem CallParts.bare_clauses (p : CallParts) : p.bare.clauses.isEmpty = p.clauses.isEmpty := List.isEmpty_map

theorem eq_literal_of_digits? {e : Term} {digits : String} (h : e.digits? = some digits) :
    ∃ long, e = .literal (.number digits long) := by
  unfold Term.digits? at h
  split at h
  · cases h
    exact ⟨_, rfl⟩
  · cases h

theorem bind_minus (scope : Scope) {e : Term} (h : e.digits? = none) :
    (Term.unary .minus e).bind scope = (e.bind scope).map .neg := by
  rw [Term.bind, h]
  rfl

theorem map_literal_neg (x : Except CompileFault Value) :
    (x.map .literal).map .neg = x.map fun v => Expr.neg (.literal v) := by
  cases x <;> rfl

/-- A number behind a minus sign. -/
def minusNumber (digits : String) (long : Bool) : Term := .unary .minus (.literal (.number digits long))

/-- A number in parentheses behind a minus sign. -/
def minusNested (digits : String) (long : Bool) : Term := .unary .minus (.nested (.literal (.number digits long)))

theorem bind_minusNumber (scope : Scope) (digits : String) (long : Bool) :
    (minusNumber digits long).bind scope = (numberValue true digits).map .literal := by
  rw [minusNumber, Term.bind]
  rfl

theorem bind_minusNested (scope : Scope) (digits : String) (long : Bool) :
    (minusNested digits long).bind scope = (numberValue false digits).map fun v => .neg (.literal v) := by
  rw [minusNested, bind_minus scope rfl, Term.bind, Term.bind, Literal.bind, map_literal_neg]

theorem negated_number_alike {digits : String} (h : parenthesesMatter digits = false) :
    AgreeBy CompileFault.unquoted (Expr.Alike Eq) (((numberValue false digits).map .literal).map .neg)
      ((numberValue true digits).map .literal) := by
  rw [map_literal_neg]
  refine (numberValue_negate h).map fun v w hw context row _ _ => ?_
  rw [hw.eval_neg, Expr.eval]

/-- The sign of a number is read with it if there are no parentheses, and changed in its value if there are. -/
theorem bind_bare_minus (scope : Scope) (e : Term)
    (he : AgreeBy CompileFault.unquoted (Expr.Alike Eq) (e.bind scope) (e.bare.bind scope)) :
    AgreeBy CompileFault.unquoted (Expr.Alike Eq) ((Term.unary .minus e).bind scope)
      ((Term.unary .minus e).bare.bind scope) := by
  cases hdigits : e.digits? with
  | some digits =>
    obtain ⟨long, rfl⟩ := eq_literal_of_digits? hdigits
    exact (Agree.refl (fun _ _ _ _ h => congrArg (Expr.eval _ · _) h) _).by_kind _
  | none =>
    rw [Term.bare, bind_minus scope hdigits, hdigits]
    cases hbare : e.bare.digits? with
    | none =>
      rw [Option.any_none, Bool.and_false, if_neg Bool.false_ne_true, bind_minus scope hbare]
      exact he.map fun _ _ h => Expr.Alike.neg h
    | some digits =>
      -- there are parentheses, and nothing in them but the number
      obtain ⟨long, hliteral⟩ := eq_literal_of_digits? hbare
      rw [Option.isNone_none, Option.any_some, Bool.true_and, hliteral]
      rw [hliteral] at he
      split
      · rw [bind_minus scope rfl, Term.bind]
        exact he.map fun _ _ h => Expr.Alike.neg h
      · rename_i hmatter
        rw [Term.bind, Literal.bind] at he
        change AgreeBy _ _ _ ((minusNumber digits long).bind scope)
        rw [bind_minusNumber]
        have hneg := negated_number_alike (Bool.eq_false_iff.2 hmatter)
        refine (he.map fun _ _ h => Expr.Alike.neg h).trans hneg fun a b c hab hbc context row row' hr => ?_
        exact (hab context row row' hr).trans (hbc context row' row' rfl)

mutual

/-- **A term is bound as it is without the parentheses that do not matter.** -/
theorem bind_bare (scope : Scope) :
    ∀ e : Term, AgreeBy CompileFault.unquoted (Expr.Alike Eq) (e.bind scope) (e.bare.bind scope)
  | .literal v => by
    rw [Term.bare, Term.bind]
    exact v.bind_alike.by_kind _
  | .name n => by
    rw [Term.bare, Term.bind]
    exact (scope.alike_self.column n.text).by_kind _
  | .path parts => by
    rw [Term.bare, Term.bind]
    exact (scope.alike_self.column _).by_kind _
  | .nested e => by
    rw [Term.bare, Term.bind]
    exact bind_bare scope e
  | .binary l op r => by
    rw [Term.bare]
    by_cases ho : ∃ symbol, op = .other symbol
    · obtain ⟨symbol, rfl⟩ := ho
      rw [Term.bind, Term.bind]
      exact (Agree.error _).by_kind _
    · have ho' : ∀ symbol, op = .other symbol → False := fun symbol hs => ho ⟨symbol, hs⟩
      rw [Term.bind.eq_6 scope _ _ _ ho', Term.bind.eq_6 scope _ _ _ ho']
      exact (bind_bare scope l).bind fun _ _ hl => (bind_bare scope r).bind fun _ _ hr =>
        (op.apply_alike hl hr).by_kind _
  | .unary .minus e => bind_bare_minus scope e (bind_bare scope e)
  | .unary .plus e => by
    rw [Term.bare, Term.bind, Term.bind]
    · exact bind_bare scope e
    · nofun
  | .unary .not e => by
    rw [Term.bare, Term.bind, Term.bind]
    · exact (bind_bare scope e).bind fun _ _ he => Expr.Alike.not he
    · nofun
  | .unary (.other symbol) e => by
    rw [Term.bare, Term.bind, Term.bind]
    · rfl
    · nofun
  | .isNull e negated => by
    rw [Term.bare, Term.bind, Term.bind]
    exact (bind_bare scope e).bind fun _ _ he => Expr.Alike.isNull he negated
  | .between e negated low high => by
    rw [Term.bare, Term.bind, Term.bind]
    exact (bind_bare scope e).bind fun _ _ he => (bind_bare scope low).bind fun _ _ hl =>
      (bind_bare scope high).bind fun _ _ hh => Expr.Alike.between he hl hh negated
  | .inList e negated items => by
    rw [Term.bare, Term.bind, Term.bind]
    exact (bind_bare scope e).bind fun _ _ he => (bindTerms_bare scope items).bind fun _ _ hi =>
      Expr.Alike.inList he hi negated
  | .like ignoreCase e negated false pattern escape => by
    rw [Term.bare, Term.bind, Term.bind]
    exact (bind_bare scope e).bind fun _ _ he => (bind_bare scope pattern).bind fun _ _ hp =>
      Expr.Alike.like he hp negated ignoreCase
  | .like ignoreCase e negated true pattern escape => by
    rw [Term.bare, Term.bind, Term.bind]
    rfl
  | .caseOf operand branches otherwise => by
    rw [Term.bare, Term.bind, Term.bind]
    refine (bindOption_bare scope operand).bind fun o o' ho => (bindBranches_bare scope branches).bind fun _ _ hb =>
      (bindOption_bare scope otherwise).bind fun _ _ hw => ?_
    cases ho with
    | none => exact Expr.Alike.caseWhen hb (getD_alike hw .null)
    | some ho => exact Expr.Alike.caseOf ho hb (getD_alike hw .null)
  | .array _ items => by
    rw [Term.bare, Term.bind, Term.bind]
    exact (bindTerms_bare scope items).bind fun _ _ hi => (scope.alike_self.call "array" hi).by_kind _
  | .call name none parts => by
    rw [Term.bare, bind_call_none, bind_call_none, parts.bare_window, parts.bare_within]
    split
    · rfl
    · exact (scope.alike_self.call _ .nil).by_kind _
  | .call name (some args) parts => by
    rw [Term.bare, bind_call_some, bind_call_some, parts.bare_window, parts.bare_within, parts.bare_quantifier,
      parts.bare_clauses]
    split
    · rfl
    · split
      · rfl
      · exact (bindArgs_bare scope (pathText name) args).bind fun _ _ ha => (scope.alike_self.call _ ha).by_kind _
  | .cast _ e type _ => by
    rw [Term.bare, Term.bind, Term.bind]
    cases castType? type with
    | none => rfl
    | some t => exact (bind_bare scope e).bind fun _ _ he => Expr.Alike.cast he t
  | .substring e start length _ _ => by
    rw [Term.bare, Term.bind, Term.bind]
    exact (bind_bare scope e).bind fun _ _ he => (bindOption_bare scope start).bind fun _ _ hs =>
      (bindOption_bare scope length).bind fun _ _ hl =>
        (scope.alike_self.call "substring" (.cons he (.cons (getD_alike hs _) (forall₂_toList hl)))).by_kind _
  | .trim side what e => by
    rw [Term.bare, Term.bind, Term.bind]
    exact (bind_bare scope e).bind fun _ _ he => (bindOption_bare scope what).bind fun _ _ hw =>
      (scope.alike_self.call (trimFunction side) (.cons he (forall₂_toList hw))).by_kind _
  | .position part e => by
    rw [Term.bare, Term.bind, Term.bind]
    exact (bind_bare scope part).bind fun _ _ hp => (bind_bare scope e).bind fun _ _ he =>
      (scope.alike_self.call "locate" (.cons hp (.cons he .nil))).by_kind _
  | .ceiling e _ => by
    rw [Term.bare, Term.bind, Term.bind]
    exact (bind_bare scope e).bind fun _ _ he => (scope.alike_self.call "ceil" (.cons he .nil)).by_kind _
  | .floor e _ => by
    rw [Term.bare, Term.bind, Term.bind]
    exact (bind_bare scope e).bind fun _ _ he => (scope.alike_self.call "floor" (.cons he .nil)).by_kind _
  | .other text => by
    rw [Term.bare, Term.bind, Term.bind]
    rfl

theorem bindOption_bare (scope : Scope) :
    ∀ o : Option Term,
      AgreeBy CompileFault.unquoted (Option.Rel (Expr.Alike Eq)) (bindOption scope o) (bindOption scope (bareOption o))
  | none => by
    rw [bareOption, bindOption]
    exact Option.Rel.none
  | some e => by
    rw [bareOption, bindOption, bindOption]
    exact (bind_bare scope e).bind fun _ _ he => Option.Rel.some he

theorem bindTerms_bare (scope : Scope) :
    ∀ es : List Term,
      AgreeBy CompileFault.unquoted (List.Forall₂ (Expr.Alike Eq)) (bindTerms scope es) (bindTerms scope (bareTerms es))
  | [] => by
    rw [bareTerms, bindTerms]
    exact List.Forall₂.nil
  | e :: es => by
    rw [bareTerms, bindTerms, bindTerms]
    exact (bind_bare scope e).bind fun _ _ he => (bindTerms_bare scope es).bind fun _ _ hes => List.Forall₂.cons he hes

theorem bindBranches_bare (scope : Scope) :
    ∀ bs : List (Term × Term), AgreeBy CompileFault.unquoted (List.Forall₂ (Expr.AlikeBranch Eq))
      (bindBranches scope bs) (bindBranches scope (bareBranches bs))
  | [] => by
    rw [bareBranches, bindBranches]
    exact List.Forall₂.nil
  | (condition, result) :: rest => by
    rw [bareBranches, bindBranches, bindBranches]
    exact (bind_bare scope condition).bind fun _ _ hc => (bind_bare scope result).bind fun _ _ hv =>
      (bindBranches_bare scope rest).bind fun _ _ hr => List.Forall₂.cons ⟨hc, hv⟩ hr

theorem bindArgs_bare (scope : Scope) (name : String) :
    ∀ as : List Arg, AgreeBy CompileFault.unquoted (List.Forall₂ (Expr.Alike Eq)) (bindArgs scope name as)
      (bindArgs scope name (bareArgs as))
  | [] => by
    rw [bareArgs, bindArgs]
    exact List.Forall₂.nil
  | .term e :: as => by
    rw [bareArgs, bindArgs, bindArgs]
    exact (bind_bare scope e).bind fun _ _ he => (bindArgs_bare scope name as).bind fun _ _ ha =>
      List.Forall₂.cons he ha
  | .other text :: _ => by
    rw [bareArgs, bindArgs, bindArgs]
    rfl

end

/-- **Parentheses that do not matter are transparent**: terms that are the same without them are bound to
expressions with the same results, or both to none with faults of one kind.  The parentheses that matter are
those of a number behind a minus sign: the number in them is the one that is read with the sign, narrowed. -/
theorem bind_of_bare_eq (scope : Scope) :
    (∀ e e' : Term, e.bare = e'.bare →
      AgreeBy CompileFault.unquoted (fun a b => ∀ context row, a.eval context row = b.eval context row) (e.bind scope)
        (e'.bind scope)) ∧
    ∀ (digits : String) (long : Bool), Decimal.isUnsigned digits.toList = true →
      AgreeBy CompileFault.unquoted
        (fun a b => ∃ v, b = .literal v ∧ (∀ context row, a.eval context row = .ok v.narrowed) ∧
          v.narrowed.number? = v.number?)
        ((minusNested digits long).bind scope) ((minusNumber digits long).bind scope) := by
  refine ⟨fun e e' h => ?_, fun digits long h => ?_⟩
  · have he' := (bind_bare scope e').symm
    rw [← h] at he'
    refine (bind_bare scope e).trans he' fun a b c hab hcb context row => ?_
    exact (hab context row row rfl).trans (hcb context row row rfl).symm
  · rw [bind_minusNested, bind_minusNumber]
    exact (numberValue_negated h).map fun v w hw => ⟨w, rfl, hw.eval_neg, w.number?_narrowed⟩

def nestedSum : Term :=
  .binary (.nested (minusNested "9223372036854775808" false)) (.arith .add) (.nested (.name ⟨"rate", none⟩))

def plainSum : Term := .binary (minusNumber "9223372036854775808" false) (.arith .add) (.name ⟨"rate", none⟩)

example : plainSum.bind ⟨.empty, amountAndRate⟩ =
    .ok (.arith .add (.literal (.int (-9223372036854775808))) (.column 1 .decimal)) := by rfl

theorem bind_of_bare_eq_sum :
    nestedSum.bare = plainSum.bare ∧
    AgreeBy CompileFault.unquoted (fun a b => ∀ context row, a.eval context row = b.eval context row)
      (nestedSum.bind ⟨.empty, amountAndRate⟩) (plainSum.bind ⟨.empty, amountAndRate⟩) ∧
    Decimal.isUnsigned "1.50".toList = true ∧
    AgreeBy CompileFault.unquoted
      (fun a b => ∃ v, b = .literal v ∧ (∀ context row, a.eval context row = .ok v.narrowed) ∧
        v.narrowed.number? = v.number?)
      ((minusNested "1.50" false).bind ⟨.empty, amountAndRate⟩)
      ((minusNumber "1.50" false).bind ⟨.empty, amountAndRate⟩) := by
  have hbare : nestedSum.bare = plainSum.bare := by rfl
  have hsign : Decimal.isUnsigned "1.50".toList = true := by decide
  obtain ⟨hterms, hnumbers⟩ := bind_of_bare_eq ⟨.empty, amountAndRate⟩
  exact ⟨hbare, hterms _ _ hbare, hsign, hnumbers _ _ hsign⟩

/-- **The parentheses of `-(1.0)` matter**: it is the word -1, and `-1.0` is a decimal. -/
theorem not_agree_minusNested :
    (minusNested "1.0" false).bind ⟨.empty, []⟩ = .ok (.neg (.literal (.decimal ⟨10, 1⟩))) ∧
    Expr.eval default [] (.neg (.literal (.decimal ⟨10, 1⟩))) = .ok (.int (-1)) ∧
    (minusNumber "1.0" false).bind ⟨.empty, []⟩ = .ok (.literal (.decimal ⟨-10, 1⟩)) ∧
    ¬ AgreeBy CompileFault.unquoted (fun a b => ∀ context row, a.eval context row = b.eval context row)
      ((minusNested "1.0" false).bind ⟨.empty, []⟩) ((minusNumber "1.0" false).bind ⟨.empty, []⟩) := by
  refine ⟨by rfl, by rfl, by rfl, fun h => ?_⟩
  have hsame : Expr.eval default [] (.neg (.literal (.decimal ⟨10, 1⟩))) =
      Expr.eval default [] (.literal (.decimal ⟨-10, 1⟩)) := h default []
  cases hsame

end Sql
end RowSql
