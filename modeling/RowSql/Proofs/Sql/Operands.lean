import RowSql.Proofs.Sql.Parentheses
/-!
# Operands — what a term is bound to

A term is bound when its operands are, and to what they are bound to under one operator; there is a lemma for
each kind of term (`binds_like`, `binds_cast` and the others).  So every term within it takes part in the
expression (`binds_within`), but for a number behind a minus sign, which is there as its negative.
-/
namespace RowSql
namespace Sql

def Arg.term? : Arg → Option Term
  | .term e => some e
  | .other _ => none

/-- **The terms directly under a term**, in the order in which they are bound. -/
def Term.operands : Term → List Term
  | .literal _ => []
  | .name _ => []
  | .path _ => []
  | .nested e => [e]
  | .binary l _ r => [l, r]
  | .unary _ e => [e]
  | .isNull e _ => [e]
  | .between e _ low high => [e, low, high]
  | .inList e _ items => e :: items
  | .like _ e _ _ pattern _ => [e, pattern]
  | .caseOf operand branches otherwise =>
    operand.toList ++ (branches.flatMap (fun b => [b.1, b.2]) ++ otherwise.toList)
  | .array _ items => items
  | .call _ args _ => (args.getD []).filterMap Arg.term?
  | .cast _ e _ _ => [e]
  | .substring e start length _ _ => e :: (start.toList ++ length.toList)
  | .trim _ what e => e :: what.toList
  | .position part e => [part, e]
  | .ceiling e _ => [e]
  | .floor e _ => [e]
  | .other _ => []

/-- **One term is within another**: it is the other, or it is within one of its operands. -/
inductive Term.Within (a : Term) : Term → Prop
  | self : Within a a
  | operand {b e : Term} (hb : b ∈ e.operands) (ha : Within a b) : Within a e

/-- The term is bound to the expression. -/
def Scope.Binds (scope : Scope) (e : Term) (x : Expr) : Prop := e.bind scope = .ok x

variable {scope : Scope}

theorem Scope.call_eq_ok {name : String} {args : List Expr} {x : Expr} :
    scope.call name args = .ok x ↔ ∃ f, scope.registry.resolve name args.length = .ok f ∧ .call f args = x := by
  unfold Scope.call
  cases scope.registry.resolve name args.length <;> simp [Except.map]

theorem binds_of_bindOption {o : Option Term} {y : Option Expr} (h : bindOption scope o = .ok y) :
    List.Forall₂ scope.Binds o.toList y.toList := by
  cases o with
  | none =>
    rw [bindOption] at h
    cases h
    exact .nil
  | some e =>
    rw [bindOption] at h
    obtain ⟨v, hv, h⟩ := bind_eq_ok.1 h
    cases h
    exact .cons hv .nil

theorem binds_of_bindTerms {es : List Term} {ys : List Expr} (h : bindTerms scope es = .ok ys) :
    List.Forall₂ scope.Binds es ys := by
  induction es generalizing ys with
  | nil =>
    rw [bindTerms] at h
    cases h
    exact .nil
  | cons e es ih =>
    rw [bindTerms] at h
    obtain ⟨v, hv, h⟩ := bind_eq_ok.1 h
    obtain ⟨vs, hvs, h⟩ := bind_eq_ok.1 h
    cases h
    exact .cons hv (ih hvs)

theorem binds_of_bindBranches {bs : List (Term × Term)} {ys : List (Expr × Expr)} (h : bindBranches scope bs = .ok ys) :
    List.Forall₂ scope.Binds (bs.flatMap fun b => [b.1, b.2]) (ys.flatMap fun b => [b.1, b.2]) := by
  induction bs generalizing ys with
  | nil =>
    rw [bindBranches] at h
    cases h
    exact .nil
  | cons b bs ih =>
    rw [bindBranches] at h
    obtain ⟨c, hc, h⟩ := bind_eq_ok.1 h
    obtain ⟨v, hv, h⟩ := bind_eq_ok.1 h
    obtain ⟨vs, hvs, h⟩ := bind_eq_ok.1 h
    cases h
    exact .cons hc (.cons hv (ih hvs))

theorem binds_of_bindArgs {name : String} {as : List Arg} {ys : List Expr} (h : bindArgs scope name as = .ok ys) :
    List.Forall₂ scope.Binds (as.filterMap Arg.term?) ys := by
  induction as generalizing ys with
  | nil =>
    rw [bindArgs] at h
    cases h
    exact .nil
  | cons a as ih =>
    cases a with
    | term e =>
      rw [bindArgs] at h
      obtain ⟨v, hv, h⟩ := bind_eq_ok.1 h
      obtain ⟨vs, hvs, h⟩ := bind_eq_ok.1 h
      cases h
      exact .cons hv (ih hvs)
    | other text =>
      rw [bindArgs] at h
      cases h

theorem Scope.Binds.unique {e : Term} {x y : Expr} (hx : scope.Binds e x) (hy : scope.Binds e y) : x = y :=
  Except.ok.inj (hx.symm.trans hy)

/-! ## What each term is bound to -/

theorem binds_nested {e : Term} {x : Expr} : scope.Binds (.nested e) x ↔ scope.Binds e x := by
  rw [Scope.Binds, Term.bind]
  rfl

theorem binds_binary {l r : Term} {op : BinaryOp} {x : Expr} :
    scope.Binds (.binary l op r) x ↔ ∃ a b, scope.Binds l a ∧ scope.Binds r b ∧ op.apply a b = .ok x := by
  by_cases ho : ∃ symbol, op = .other symbol
  · obtain ⟨symbol, rfl⟩ := ho
    rw [Scope.Binds, Term.bind]
    simp [BinaryOp.apply]
  · rw [Scope.Binds, Term.bind.eq_6 scope _ _ _ fun symbol hs => ho ⟨symbol, hs⟩]
    simp [bind_eq_ok, Scope.Binds]

theorem binds_plus {e : Term} {x : Expr} : scope.Binds (.unary .plus e) x ↔ scope.Binds e x := by
  rw [Scope.Binds, Term.bind]
  rfl

theorem binds_minus {e : Term} {x : Expr} (h : e.digits? = none) :
    scope.Binds (.unary .minus e) x ↔ ∃ v, scope.Binds e v ∧ .neg v = x := by
  rw [Scope.Binds, Term.bind, h]
  simp [map_eq_ok, Scope.Binds]

theorem binds_not {e : Term} {x : Expr} : scope.Binds (.unary .not e) x ↔ ∃ v, scope.Binds e v ∧ .not v = x := by
  rw [Scope.Binds, Term.bind]
  simp [map_eq_ok, Scope.Binds]

theorem binds_isNull {e : Term} {negated : Bool} {x : Expr} :
    scope.Binds (.isNull e negated) x ↔ ∃ v, scope.Binds e v ∧ .isNull v negated = x := by
  rw [Scope.Binds, Term.bind]
  simp [map_eq_ok, Scope.Binds]

theorem binds_between {e low high : Term} {negated : Bool} {x : Expr} :
    scope.Binds (.between e negated low high) x ↔
      ∃ v a b, scope.Binds e v ∧ scope.Binds low a ∧ scope.Binds high b ∧ .between v a b negated = x := by
  rw [Scope.Binds, Term.bind]
  simp [bind_eq_ok, map_eq_ok, Scope.Binds]

theorem binds_inList {e : Term} {items : List Term} {negated : Bool} {x : Expr} :
    scope.Binds (.inList e negated items) x ↔
      ∃ v vs, scope.Binds e v ∧ bindTerms scope items = .ok vs ∧ .inList v vs negated = x := by
  rw [Scope.Binds, Term.bind]
  simp [bind_eq_ok, map_eq_ok, Scope.Binds]

theorem binds_like {ignoreCase negated any : Bool} {e pattern : Term} {escape : Option Literal} {x : Expr} :
    scope.Binds (.like ignoreCase e negated any pattern escape) x ↔
      any = false ∧ ∃ v p, scope.Binds e v ∧ scope.Binds pattern p ∧ .like v p negated ignoreCase = x := by
  cases any with
  | true =>
    rw [Scope.Binds, Term.bind]
    simp
  | false =>
    rw [Scope.Binds, Term.bind]
    simp [bind_eq_ok, map_eq_ok, Scope.Binds]

theorem binds_caseOf {operand otherwise : Option Term} {branches : List (Term × Term)} {x : Expr} :
    scope.Binds (.caseOf operand branches otherwise) x ↔
      ∃ v bs w, bindOption scope operand = .ok v ∧ bindBranches scope branches = .ok bs ∧
        bindOption scope otherwise = .ok w ∧
        v.elim (.caseWhen bs (w.getD (.literal .null))) (.caseOf · bs (w.getD (.literal .null))) = x := by
  rw [Scope.Binds, Term.bind]
  simp [bind_eq_ok, map_eq_ok]

theorem binds_array {named : Bool} {items : List Term} {x : Expr} :
    scope.Binds (.array named items) x ↔ ∃ vs, bindTerms scope items = .ok vs ∧ scope.call "array" vs = .ok x := by
  rw [Scope.Binds, Term.bind, bind_eq_ok]

theorem binds_call_none {name : List Name} {parts : CallParts} {x : Expr} :
    scope.Binds (.call name none parts) x ↔
      (parts.window = none ∧ parts.within = none) ∧ scope.call (pathText name) [] = .ok x := by
  rw [Scope.Binds, bind_call_none]
  cases parts.window <;> cases parts.within <;> simp

theorem binds_call_some {name : List Name} {args : List Arg} {parts : CallParts} {x : Expr} :
    scope.Binds (.call name (some args) parts) x ↔
      (parts.window = none ∧ parts.within = none) ∧ (parts.quantifier = none ∧ parts.clauses = []) ∧
        ∃ vs, bindArgs scope (pathText name) args = .ok vs ∧ scope.call (pathText name) vs = .ok x := by
  rw [Scope.Binds, bind_call_some, ← bind_eq_ok]
  cases parts.window <;> cases parts.within <;> cases parts.quantifier <;> cases parts.clauses <;> simp

theorem binds_cast {kind : CastKind} {e : Term} {type : String} {format : Option String} {x : Expr} :
    scope.Binds (.cast kind e type format) x ↔
      ∃ t v, castType? type = some t ∧ scope.Binds e v ∧ .cast v t = x := by
  rw [Scope.Binds, Term.bind]
  cases castType? type <;> simp [map_eq_ok, Scope.Binds]

theorem binds_substring {e : Term} {start length : Option Term} {commas short : Bool} {x : Expr} :
    scope.Binds (.substring e start length commas short) x ↔
      ∃ v a n, scope.Binds e v ∧ bindOption scope start = .ok a ∧ bindOption scope length = .ok n ∧
        scope.call "substring" (v :: a.getD (.literal (.ofNat 1)) :: n.toList) = .ok x := by
  rw [Scope.Binds, Term.bind]
  simp [bind_eq_ok, Scope.Binds]

theorem binds_trim {side : Option TrimSide} {what : Option Term} {e : Term} {x : Expr} :
    scope.Binds (.trim side what e) x ↔
      ∃ v w, scope.Binds e v ∧ bindOption scope what = .ok w ∧
        scope.call (trimFunction side) (v :: w.toList) = .ok x := by
  rw [Scope.Binds, Term.bind]
  simp [bind_eq_ok, Scope.Binds]

theorem binds_position {part e : Term} {x : Expr} :
    scope.Binds (.position part e) x ↔
      ∃ p v, scope.Binds part p ∧ scope.Binds e v ∧ scope.call "locate" [p, v] = .ok x := by
  rw [Scope.Binds, Term.bind]
  simp [bind_eq_ok, Scope.Binds]

theorem binds_ceiling {e : Term} {unit : Option RoundingUnit} {x : Expr} :
    scope.Binds (.ceiling e unit) x ↔ ∃ v, scope.Binds e v ∧ scope.call "ceil" [v] = .ok x := by
  rw [Scope.Binds, Term.bind, bind_eq_ok]
  rfl

theorem binds_floor {e : Term} {unit : Option RoundingUnit} {x : Expr} :
    scope.Binds (.floor e unit) x ↔ ∃ v, scope.Binds e v ∧ scope.call "floor" [v] = .ok x := by
  rw [Scope.Binds, Term.bind, bind_eq_ok]
  rfl

/-! ## Operands take part -/

/-- The expression has the bound operands: as its own operands, in their order, or the one of them as itself. -/
def Scope.Keeps (scope : Scope) (es : List Term) (x : Expr) : Prop :=
  ∃ ys, List.Forall₂ scope.Binds es ys ∧ (ys = [x] ∨ ys.Sublist x.operands)

theorem Scope.Keeps.of_call {name : String} {es : List Term} {ys zs : List Expr} {x : Expr}
    (hes : List.Forall₂ scope.Binds es ys) (hys : ys.Sublist zs) (h : scope.call name zs = .ok x) :
    scope.Keeps es x := by
  obtain ⟨f, -, rfl⟩ := Scope.call_eq_ok.1 h
  exact ⟨ys, hes, .inr hys⟩

theorem BinaryOp.operands_of_apply {op : BinaryOp} {a b x : Expr} (h : op.apply a b = .ok x) : x.operands = [a, b] := by
  cases op <;> cases h <;> rfl

theorem getD_sublist (o : Option Expr) (e : Expr) : o.toList.Sublist [o.getD e] := by
  cases o with
  | none => exact List.nil_sublist _
  | some v => exact List.Sublist.refl _

/-- **A term that is bound keeps its operands**, unless it is a number with a minus sign, which is one literal. -/
theorem bind_operands {e : Term} {x : Expr} (h : scope.Binds e x) :
    (∃ digits long, e = minusNumber digits long) ∨ scope.Keeps e.operands x := by
  cases e with
  | literal v => exact .inr ⟨[], .nil, .inr (List.nil_sublist _)⟩
  | name n => exact .inr ⟨[], .nil, .inr (List.nil_sublist _)⟩
  | path parts => exact .inr ⟨[], .nil, .inr (List.nil_sublist _)⟩
  | nested e => exact .inr ⟨[x], .cons (binds_nested.1 h) .nil, .inl rfl⟩
  | binary l op r =>
    obtain ⟨a, b, ha, hb, hx⟩ := binds_binary.1 h
    refine .inr ⟨[a, b], .cons ha (.cons hb .nil), .inr ?_⟩
    rw [BinaryOp.operands_of_apply hx]
  | unary op e =>
    cases op with
    | plus => exact .inr ⟨[x], .cons (binds_plus.1 h) .nil, .inl rfl⟩
    | minus =>
      cases hdigits : e.digits? with
      | some digits =>
        obtain ⟨long, rfl⟩ := eq_literal_of_digits? hdigits
        exact .inl ⟨digits, long, rfl⟩
      | none =>
        obtain ⟨v, hv, rfl⟩ := (binds_minus hdigits).1 h
        exact .inr ⟨[v], .cons hv .nil, .inr (List.Sublist.refl _)⟩
    | not =>
      obtain ⟨v, hv, rfl⟩ := binds_not.1 h
      exact .inr ⟨[v], .cons hv .nil, .inr (List.Sublist.refl _)⟩
    | other symbol =>
      rw [Scope.Binds, Term.bind] at h
      cases h
  | isNull e negated =>
    obtain ⟨v, hv, rfl⟩ := binds_isNull.1 h
    exact .inr ⟨[v], .cons hv .nil, .inr (List.Sublist.refl _)⟩
  | between e negated low high =>
    obtain ⟨v, a, b, hv, ha, hb, rfl⟩ := binds_between.1 h
    exact .inr ⟨[v, a, b], .cons hv (.cons ha (.cons hb .nil)), .inr (List.Sublist.refl _)⟩
  | inList e negated items =>
    obtain ⟨v, vs, hv, hvs, rfl⟩ := binds_inList.1 h
    exact .inr ⟨v :: vs, .cons hv (binds_of_bindTerms hvs), .inr (List.Sublist.refl _)⟩
  | like ignoreCase e negated any pattern escape =>
    obtain ⟨-, v, p, hv, hp, rfl⟩ := binds_like.1 h
    exact .inr ⟨[v, p], .cons hv (.cons hp .nil), .inr (List.Sublist.refl _)⟩
  | caseOf operand branches otherwise =>
    obtain ⟨v, bs, w, hv, hbs, hw, rfl⟩ := binds_caseOf.1 h
    -- without a rest the expression has one operand more, which gives nothing
    refine .inr ⟨_, List.rel_append (binds_of_bindOption hv)
      (List.rel_append (binds_of_bindBranches hbs) (binds_of_bindOption hw)), .inr ?_⟩
    have hrest := (List.Sublist.refl (bs.flatMap fun b => [b.1, b.2])).append (getD_sublist w (.literal .null))
    cases v with
    | none => exact hrest
    | some v => exact hrest.cons_cons v
  | array named items =>
    obtain ⟨vs, hvs, hx⟩ := binds_array.1 h
    exact .inr (.of_call (binds_of_bindTerms hvs) (List.Sublist.refl _) hx)
  | call name args parts =>
    cases args with
    | none => exact .inr ⟨[], .nil, .inr (List.nil_sublist _)⟩
    | some args =>
      obtain ⟨-, -, vs, hvs, hx⟩ := binds_call_some.1 h
      exact .inr (.of_call (binds_of_bindArgs hvs) (List.Sublist.refl _) hx)
  | cast kind e type format =>
    obtain ⟨t, v, -, hv, rfl⟩ := binds_cast.1 h
    exact .inr ⟨[v], .cons hv .nil, .inr (List.Sublist.refl _)⟩
  | substring e start length commas short =>
    obtain ⟨v, a, n, hv, ha, hn, hx⟩ := binds_substring.1 h
    -- without a start the call has one argument more, the first position
    have hargs := (getD_sublist a (.literal (.ofNat 1))).append (List.Sublist.refl n.toList)
    exact .inr (.of_call (.cons hv (List.rel_append (binds_of_bindOption ha) (binds_of_bindOption hn)))
      (hargs.cons_cons v) hx)
  | trim side what e =>
    obtain ⟨v, w, hv, hw, hx⟩ := binds_trim.1 h
    exact .inr (.of_call (.cons hv (binds_of_bindOption hw)) (List.Sublist.refl _) hx)
  | position part e =>
    obtain ⟨p, v, hp, hv, hx⟩ := binds_position.1 h
    exact .inr (.of_call (.cons hp (.cons hv .nil)) (List.Sublist.refl _) hx)
  | ceiling e unit =>
    obtain ⟨v, hv, hx⟩ := binds_ceiling.1 h
    exact .inr (.of_call (.cons hv .nil) (List.Sublist.refl _) hx)
  | floor e unit =>
    obtain ⟨v, hv, hx⟩ := binds_floor.1 h
    exact .inr (.of_call (.cons hv .nil) (List.Sublist.refl _) hx)
  | other text =>
    rw [Scope.Binds, Term.bind] at h
    cases h

theorem exists_bound_of_mem {es : List Term} {ys : List Expr} (h : List.Forall₂ scope.Binds es ys) {e : Term}
    (he : e ∈ es) :
    ∃ y ∈ ys, scope.Binds e y := by
  induction h with
  | nil => cases he
  | cons hb _ ih =>
    rcases List.mem_cons.1 he with rfl | he
    · exact ⟨_, List.mem_cons_self, hb⟩
    · obtain ⟨y, hy, hey⟩ := ih he
      exact ⟨y, List.mem_cons_of_mem _ hy, hey⟩

theorem Term.within_literal {a : Term} {v : Literal} (h : a.Within (.literal v)) : a = .literal v := by
  cases h with
  | self => rfl
  | operand hb => cases hb

/-- **Every term within a term that is bound is bound to an expression within that of the term**, and a number
right behind a minus sign is there as its negative. -/
theorem binds_within {e : Term} {x : Expr} (h : scope.Binds e x) {a : Term} (ha : a.Within e) :
    (∃ y, scope.Binds a y ∧ y.Within x) ∨
      ∃ digits long y, a = .literal (.number digits long) ∧ (minusNumber digits long).Within e ∧
        scope.Binds (minusNumber digits long) y ∧ y.Within x := by
  induction ha generalizing x with
  | self => exact .inl ⟨x, h, .self x⟩
  | @operand b e hb ha ih =>
    rcases bind_operands h with ⟨digits, long, rfl⟩ | ⟨ys, hys, hkept⟩
    · obtain rfl := List.mem_singleton.1 hb
      exact .inr ⟨digits, long, x, Term.within_literal ha, .self, h, .self x⟩
    obtain ⟨y, hy, hby⟩ := exists_bound_of_mem hys hb
    have hyx : y.Within x := by
      rcases hkept with rfl | hsublist
      · obtain rfl := List.mem_singleton.1 hy
        exact .self y
      · exact .operand (hsublist.subset hy) (.self y)
    rcases ih hby with ⟨z, hz, hzy⟩ | ⟨digits, long, z, rfl, hminus, hz, hzy⟩
    · exact .inl ⟨z, hz, hzy.trans hyx⟩
    · exact .inr ⟨digits, long, z, rfl, .operand hb hminus, hz, hzy.trans hyx⟩

end Sql
end RowSql
