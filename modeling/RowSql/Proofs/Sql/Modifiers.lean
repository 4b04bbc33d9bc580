import RowSql.Function.Builtin
import RowSql.Proofs.Function.Registry
import RowSql.Proofs.Sql.Operands
/-!
# Modifiers — what of a term its binding reads besides the operands

Of what is written of a term besides its operands some is not read, and the term is bound as it is without
(`binds_heard`).  Two terms that differ in anything else are not bound to the same expression
(`heard_of_sameForm`).
-/
namespace RowSql
namespace Sql

variable {scope : Scope}

/-- The name of a type in a cast that stands for all its names. -/
def castName : FieldType → String
  | .bool => "BOOL"
  | .whole => "INT"
  | .decimal => "DECIMAL"
  | .float => "FLOAT"
  | .text => "VARCHAR"

theorem castType?_castName (type : FieldType) : castType? (castName type) = some type := by
  cases type <;> rfl

/-- **The term without what its binding does not read.**  Most of that is spelling; but the escape of a pattern,
what a rounding rounds to, the format of a cast, and of a call the first list of arguments and how it treats
nothing are not. -/
def Term.heard : Term → Term
  | .literal (.number digits _) => .literal (.number digits false)
  | .name n => .name ⟨n.text, none⟩
  | .path parts => .path (parts.map fun n => ⟨n.text, none⟩)
  | .like ignoreCase e negated any pattern _ => .like ignoreCase e negated any pattern none
  | .array _ items => .array false items
  | .call callee none parts => .call callee none { within := parts.within, window := parts.window }
  | .call callee (some args) parts =>
    .call callee (some args) { parts with params := none, nulls := none, braced := false }
  | .cast _ e type _ => .cast .cast e ((castType? type).elim type castName) none
  | .substring e start length _ _ => .substring e start length false false
  | .trim side what e => .trim (if side = some .both then none else side) what e
  | .ceiling e _ => .ceiling e none
  | .floor e _ => .floor e none
  | e => e

theorem trimFunction_heard (side : Option TrimSide) :
    trimFunction (if side = some .both then none else side) = trimFunction side := by
  rcases side with _ | _ | _ | _ <;> rfl

theorem castType?_heard (type : String) : castType? ((castType? type).elim type castName) = castType? type := by
  cases h : castType? type with
  | none => exact h
  | some t => exact castType?_castName t

/-- **A term is bound as it is without what is not read.** -/
theorem binds_heard (e : Term) (x : Expr) : scope.Binds e.heard x ↔ scope.Binds e x := by
  cases e with
  | literal v => cases v <;> exact Iff.rfl
  | name n =>
    rw [Term.heard, Scope.Binds, Scope.Binds, Term.bind, Term.bind]
  | path parts =>
    rw [Term.heard, Scope.Binds, Scope.Binds, Term.bind, Term.bind, List.map_map]
    rfl
  | like ignoreCase e negated any pattern escape => rw [Term.heard, binds_like, binds_like]
  | array named items => rw [Term.heard, binds_array, binds_array]
  | call name args parts =>
    cases args with
    | none => rw [Term.heard, binds_call_none, binds_call_none]
    | some args => rw [Term.heard, binds_call_some, binds_call_some]
  | cast kind e type format => rw [Term.heard, binds_cast, binds_cast, castType?_heard]
  | substring e start length commas short => rw [Term.heard, binds_substring, binds_substring]
  | trim side what e => rw [Term.heard, binds_trim, binds_trim, trimFunction_heard]
  | ceiling e unit => rw [Term.heard, binds_ceiling, binds_ceiling]
  | floor e unit => rw [Term.heard, binds_floor, binds_floor]
  | nested e | binary l op r | unary op e | isNull e negated | between e negated low high | inList e negated items
  | caseOf operand branches otherwise | position part e | other text => exact Iff.rfl

/-- **Two terms are one operator on the same operands**, up to all else that is written of them. -/
inductive Term.SameForm : Term → Term → Prop
  | refl (e : Term) : SameForm e e
  | number (digits : String) (long long' : Bool) :
    SameForm (.literal (.number digits long)) (.literal (.number digits long'))
  | name (text : String) (quote quote' : Option Char) : SameForm (.name ⟨text, quote⟩) (.name ⟨text, quote'⟩)
  | path {parts parts' : List Name} (h : parts.map Name.text = parts'.map Name.text) :
    SameForm (.path parts) (.path parts')
  | binary (l : Term) (op op' : BinaryOp) (r : Term) : SameForm (.binary l op r) (.binary l op' r)
  | isNull (e : Term) (negated negated' : Bool) : SameForm (.isNull e negated) (.isNull e negated')
  | between (e low high : Term) (negated negated' : Bool) :
      SameForm (.between e negated low high) (.between e negated' low high)
  | inList (e : Term) (items : List Term) (negated negated' : Bool) :
      SameForm (.inList e negated items) (.inList e negated' items)
  | like (e pattern : Term) (ignoreCase ignoreCase' negated negated' any any' : Bool)
    (escape escape' : Option Literal) :
      SameForm (.like ignoreCase e negated any pattern escape) (.like ignoreCase' e negated' any' pattern escape')
  | array (items : List Term) (named named' : Bool) : SameForm (.array named items) (.array named' items)
  | call (name : List Name) (args : Option (List Arg)) (parts parts' : CallParts) :
      SameForm (.call name args parts) (.call name args parts')
  | cast (e : Term) (kind kind' : CastKind) (type type' : String) (format format' : Option String) :
      SameForm (.cast kind e type format) (.cast kind' e type' format')
  | substring (e : Term) (start length : Option Term) (commas commas' short short' : Bool) :
      SameForm (.substring e start length commas short) (.substring e start length commas' short')
  | trim (what : Option Term) (e : Term) (side side' : Option TrimSide) :
    SameForm (.trim side what e) (.trim side' what e)
  | ceiling (e : Term) (unit unit' : Option RoundingUnit) : SameForm (.ceiling e unit) (.ceiling e unit')
  | floor (e : Term) (unit unit' : Option RoundingUnit) : SameForm (.floor e unit) (.floor e unit')

theorem BinaryOp.eq_of_apply {op op' : BinaryOp} {a b x : Expr} (h : op.apply a b = .ok x)
    (h' : op'.apply a b = .ok x) :
    op = op' := by
  cases op <;> cases h <;> cases op' <;> cases h' <;> rfl

/-- The form of trimming that a side asks for. -/
def trimForm : Option TrimSide → TextFunction
  | some .leading => .trimLeft
  | some .trailing => .trimRight
  | _ => .trim

theorem resolve_trim (side : Option TrimSide) (v : Expr) (w : Option Expr) :
    Builtin.registry.resolve (trimFunction side) (v :: w.toList).length = .ok (.text (trimForm side)) := by
  rw [Builtin.registry, Registry.ofForms_eq]
  rcases side with _ | _ | _ | _ <;> cases w <;> rfl

theorem eq_of_trimForm {side side' : Option TrimSide} (h : trimForm side = trimForm side') :
    (if side = some .both then none else side) = if side' = some .both then none else side' := by
  rcases side with _ | _ | _ | _ <;> rcases side' with _ | _ | _ | _ <;> first | rfl | cases h

theorem CallParts.heard_unique {parts parts' : CallParts} (h : parts.window = none ∧ parts.within = none)
    (h' : parts'.window = none ∧ parts'.within = none) (hl : parts.quantifier = none ∧ parts.clauses = [])
    (hl' : parts'.quantifier = none ∧ parts'.clauses = []) :
    { parts with params := none, nulls := none, braced := false } =
      { parts' with params := none, nulls := none, braced := false } := by
  rw [h.1, h.2, h'.1, h'.2, hl.1, hl.2, hl'.1, hl'.2]

/-- **Terms of one form that are bound to one expression are heard alike.** -/
theorem heard_of_sameForm {fields : List Field} {e e' : Term} {x : Expr} (hform : e.SameForm e')
    (h : Scope.Binds ⟨Builtin.registry, fields⟩ e x) (h' : Scope.Binds ⟨Builtin.registry, fields⟩ e' x) :
    e.heard = e'.heard := by
  cases hform with
  | refl | number | name | array | substring | ceiling | floor => rfl
  | path hparts =>
    have hheard : ∀ parts : List Name, parts.map (fun n : Name => (⟨n.text, none⟩ : Name)) =
        (parts.map Name.text).map (⟨·, none⟩) :=
      fun parts => by rw [List.map_map]; rfl
    rw [Term.heard, Term.heard, hheard, hheard, hparts]
  | binary l op op' r =>
    obtain ⟨a, b, ha, hb, hx⟩ := binds_binary.1 h
    obtain ⟨a', b', ha', hb', hx'⟩ := binds_binary.1 h'
    obtain rfl := ha.unique ha'
    obtain rfl := hb.unique hb'
    rw [BinaryOp.eq_of_apply hx hx']
  | isNull e negated negated' =>
    obtain ⟨v, -, rfl⟩ := binds_isNull.1 h
    obtain ⟨v', -, hx⟩ := binds_isNull.1 h'
    rw [(Expr.isNull.inj hx).2]
  | between e low high negated negated' =>
    obtain ⟨v, a, b, -, -, -, rfl⟩ := binds_between.1 h
    obtain ⟨v', a', b', -, -, -, hx⟩ := binds_between.1 h'
    rw [(Expr.between.inj hx).2.2.2]
  | inList e items negated negated' =>
    obtain ⟨v, vs, -, -, rfl⟩ := binds_inList.1 h
    obtain ⟨v', vs', -, -, hx⟩ := binds_inList.1 h'
    rw [(Expr.inList.inj hx).2.2]
  | like e pattern ignoreCase ignoreCase' negated negated' any any' escape escape' =>
    obtain ⟨rfl, v, p, -, -, rfl⟩ := binds_like.1 h
    obtain ⟨rfl, v', p', -, -, hx⟩ := binds_like.1 h'
    obtain ⟨-, -, rfl, rfl⟩ := Expr.like.inj hx
    rfl
  | call callee args parts parts' =>
    cases args with
    | none =>
      obtain ⟨⟨hwindow, hwithin⟩, -⟩ := binds_call_none.1 h
      obtain ⟨⟨hwindow', hwithin'⟩, -⟩ := binds_call_none.1 h'
      rw [Term.heard, Term.heard, hwindow, hwithin, hwindow', hwithin']
    | some args =>
      obtain ⟨hend, hlist, -⟩ := binds_call_some.1 h
      obtain ⟨hend', hlist', -⟩ := binds_call_some.1 h'
      rw [Term.heard, Term.heard, CallParts.heard_unique hend hend' hlist hlist']
  | cast e kind kind' type type' format format' =>
    obtain ⟨t, v, ht, -, rfl⟩ := binds_cast.1 h
    obtain ⟨t', v', ht', -, hx⟩ := binds_cast.1 h'
    obtain ⟨-, rfl⟩ := Expr.cast.inj hx
    rw [Term.heard, Term.heard, ht, ht']
    rfl
  | trim what e side side' =>
    obtain ⟨v, w, -, -, hx⟩ := binds_trim.1 h
    obtain ⟨v', w', -, -, hx'⟩ := binds_trim.1 h'
    obtain ⟨f, hf, rfl⟩ := Scope.call_eq_ok.1 hx
    obtain ⟨f', hf', hcall⟩ := Scope.call_eq_ok.1 hx'
    obtain rfl := (Expr.call.inj hcall).1
    rw [resolve_trim] at hf hf'
    have hside := Function.text.inj ((Except.ok.inj hf).trans (Except.ok.inj hf').symm)
    rw [Term.heard, Term.heard, eq_of_trimForm hside]

/-- **What of a term takes part in what it is bound to**: every term within it, and of what else is written just
what is heard.  A term is bound when it is without the rest, to the same expression; and terms of one form that
are bound are bound to the same expression only when the same is heard of them. -/
theorem bind_heard (fields : List Field) :
    (∀ e x, Scope.Binds ⟨Builtin.registry, fields⟩ e x → ∀ a : Term, a.Within e →
      (∃ y, Scope.Binds ⟨Builtin.registry, fields⟩ a y ∧ y.Within x) ∨
        ∃ digits long y, a = .literal (.number digits long) ∧ (minusNumber digits long).Within e ∧
          Scope.Binds ⟨Builtin.registry, fields⟩ (minusNumber digits long) y ∧ y.Within x) ∧
    (∀ e x, Scope.Binds ⟨Builtin.registry, fields⟩ e.heard x ↔ Scope.Binds ⟨Builtin.registry, fields⟩ e x) ∧
    ∀ e e' x x', e.SameForm e' → Scope.Binds ⟨Builtin.registry, fields⟩ e x →
      Scope.Binds ⟨Builtin.registry, fields⟩ e' x' →
      (x = x' ↔ e.heard = e'.heard) := by
  refine ⟨fun e x h a ha => binds_within h ha, fun e x => binds_heard e x, fun e e' x x' hform h h' =>
    ⟨?_, fun hheard => ?_⟩⟩
  · rintro rfl
    exact heard_of_sameForm hform h h'
  · rw [← binds_heard, hheard, binds_heard] at h
    exact h.unique h'

def textAndRate : List Field := [⟨"a", .text, none⟩, ⟨"b", .decimal, none⟩]

/-- A pattern with a mark before its last character, and what is said of the mark. -/
def markedPattern (negated : Bool) (escape : Option Literal) : Term :=
  .like false (.name ⟨"a", none⟩) negated false (.literal (.text "a!%")) escape

def markedExpr (negated : Bool) : Expr := .like (.column 0 .text) (.literal (.text "a!%")) negated false

/-- A rounding up. -/
def roundedUp (unit : Option RoundingUnit) : Term := .ceiling (.name ⟨"b", none⟩) unit

theorem bind_heard_markedPattern :
    Scope.Binds ⟨Builtin.registry, textAndRate⟩ (markedPattern false (some (.text "!"))) (markedExpr false) ∧
    Scope.Binds ⟨Builtin.registry, textAndRate⟩ (markedPattern true none) (markedExpr true) ∧
    (Term.name ⟨"a", none⟩).Within (markedPattern true none) ∧
    ((∃ y, Scope.Binds ⟨Builtin.registry, textAndRate⟩ (.name ⟨"a", none⟩) y ∧ y.Within (markedExpr true)) ∨
      ∃ digits long y, Term.name ⟨"a", none⟩ = .literal (.number digits long) ∧
        (minusNumber digits long).Within (markedPattern true none) ∧
        Scope.Binds ⟨Builtin.registry, textAndRate⟩ (minusNumber digits long) y ∧ y.Within (markedExpr true)) ∧
    (markedPattern false (some (.text "!"))).SameForm (markedPattern true none) ∧
    (markedExpr false = markedExpr true ↔
      (markedPattern false (some (.text "!"))).heard = (markedPattern true none).heard) := by
  have hmarked : Scope.Binds ⟨Builtin.registry, textAndRate⟩ (markedPattern false (some (.text "!")))
      (markedExpr false) := by
    rfl
  have hnegated : Scope.Binds ⟨Builtin.registry, textAndRate⟩ (markedPattern true none) (markedExpr true) := by rfl
  have hname : (Term.name ⟨"a", none⟩).Within (markedPattern true none) := .operand List.mem_cons_self .self
  have hform : (markedPattern false (some (.text "!"))).SameForm (markedPattern true none) := .like ..
  obtain ⟨hwithin, -, hsame⟩ := bind_heard textAndRate
  exact ⟨hmarked, hnegated, hname, hwithin _ _ hnegated _ hname, hform, hsame _ _ _ _ hform hmarked hnegated⟩

/-- **An escape and a scale are not heard**: the mark of the pattern stands for itself, and 1.25 is rounded up to 2. -/
theorem unheard_escape_and_scale :
    Term.bind ⟨Builtin.registry, textAndRate⟩ (markedPattern false (some (.text "!"))) = .ok (markedExpr false) ∧
    Term.bind ⟨Builtin.registry, textAndRate⟩ (markedPattern false none) = .ok (markedExpr false) ∧
    Expr.eval default [.text "a%", .null] (markedExpr false) = .ok (.bool false) ∧
    Term.bind ⟨Builtin.registry, textAndRate⟩ (roundedUp (some (.scale (.number "1" false)))) =
      .ok (.call (.number .ceil) [.column 1 .decimal]) ∧
    Term.bind ⟨Builtin.registry, textAndRate⟩ (roundedUp none) = .ok (.call (.number .ceil) [.column 1 .decimal]) ∧
    Expr.eval default [.null, .text "1.25"] (.call (.number .ceil) [.column 1 .decimal]) = .ok (.int 2) := by
  rw [Builtin.registry, Registry.ofForms_eq]
  exact ⟨by rfl, by rfl, by rfl, by rfl, by rfl, by rfl⟩

end Sql
end RowSql
