import RowSql.Function.Builtin
import RowSql.Plan
import RowSql.Proofs.Outcome
import RowSql.Proofs.Sql.Binding
/-!
# Clauses — which statements have a plan

A statement is blamed as such just when it is not one plain selection (`compile_plain`), for what its
expressions may lack is blamed on them (`bind_blameless`).  A plain selection is told by the clauses that it
does not have.  Clauses that it is not asked for are dropped: the plan is that of the items and the condition
alone, also where `PREWHERE`, `QUALIFY`, `FETCH` or `TOP` would leave rows out (`compile_drops_clauses`).
-/
namespace RowSql
namespace Sql

/-! ## Faults of expressions -/

/-- **A step of compilation that does not blame the statement as such.** -/
def Blameless {α : Type} (x : Except CompileFault α) : Prop := ∀ why, x ≠ .error (.badStatement why)

namespace Blameless

variable {α β : Type}

theorem ok (a : α) : Blameless (.ok a : Except CompileFault α) := nofun

theorem bind {x : Except CompileFault α} {f : α → Except CompileFault β} (hx : Blameless x)
    (hf : ∀ a, Blameless (f a)) :
    Blameless (x >>= f) := by
  cases x with
  | error fault => exact fun why h => hx why (by simpa [Bind.bind, Except.bind] using h)
  | ok a => exact hf a

theorem map {x : Except CompileFault α} (hx : Blameless x) (f : α → β) : Blameless (x.map f) := by
  cases x with
  | error fault => exact fun why h => hx why (by simpa [Except.map] using h)
  | ok a => exact ok _

end Blameless

theorem numberValue_blameless (negative : Bool) (digits : String) : Blameless (numberValue negative digits) := by
  unfold numberValue
  dsimp only
  split
  · exact .ok _
  · split
    · rintro why ⟨⟩
    · split
      · exact .ok _
      · rintro why ⟨⟩

theorem Literal.bind_blameless (v : Literal) : Blameless v.bind := by
  cases v with
  | number digits _ => exact (numberValue_blameless false digits).map _
  | text s | quotedText s | placeholder s => exact .ok _
  | bool b => exact .ok _
  | null => exact .ok _
  | national s | hex s => nofun
  | dollar tag s => nofun

theorem BinaryOp.apply_blameless (op : BinaryOp) (l r : Expr) : Blameless (op.apply l r) := by
  cases op with
  | other symbol => nofun
  | arith op | compare op => exact .ok _
  | and | or | concat => exact .ok _

variable (scope : Scope)

theorem Scope.column_blameless (name : String) : Blameless (scope.column name) := by
  unfold Scope.column
  split
  · exact .ok _
  · split
    · nofun
    · exact .ok _

theorem Scope.call_blameless (name : String) (args : List Expr) : Blameless (scope.call name args) := by
  refine Blameless.map ?_ _
  unfold Registry.resolve
  split
  · nofun
  · split
    · exact .ok _
    · nofun

mutual

/-- **No expression makes the statement as such a bad one.** -/
theorem bind_blameless : ∀ e : Term, Blameless (e.bind scope)
  | .literal v => by
    rw [Term.bind]
    exact v.bind_blameless
  | .name n => by
    rw [Term.bind]
    exact scope.column_blameless _
  | .path parts => by
    rw [Term.bind]
    exact scope.column_blameless _
  | .nested e => by
    rw [Term.bind]
    exact bind_blameless e
  | .binary l op r => by
    by_cases ho : ∃ symbol, op = .other symbol
    · obtain ⟨symbol, rfl⟩ := ho
      rw [Term.bind]
      nofun
    · rw [Term.bind.eq_6 scope _ _ _ fun symbol hs => ho ⟨symbol, hs⟩]
      exact (bind_blameless l).bind fun _ => (bind_blameless r).bind fun _ => op.apply_blameless _ _
  | .unary .plus e => by
    rw [Term.bind]
    exact bind_blameless e
  | .unary .minus e => by
    rw [Term.bind]
    cases e.digits? with
    | some digits => exact (numberValue_blameless true digits).bind fun _ => .ok _
    | none => exact (bind_blameless e).bind fun _ => .ok _
  | .unary .not e => by
    rw [Term.bind]
    exact (bind_blameless e).bind fun _ => .ok _
  | .unary (.other symbol) e => by
    rw [Term.bind]
    nofun
  | .isNull e negated => by
    rw [Term.bind]
    exact (bind_blameless e).bind fun _ => .ok _
  | .between e negated low high => by
    rw [Term.bind]
    exact (bind_blameless e).bind fun _ => (bind_blameless low).bind fun _ => (bind_blameless high).bind fun _ => .ok _
  | .inList e negated items => by
    rw [Term.bind]
    exact (bind_blameless e).bind fun _ => (bindTerms_blameless items).bind fun _ => .ok _
  | .like ignoreCase e negated false pattern escape => by
    rw [Term.bind]
    exact (bind_blameless e).bind fun _ => (bind_blameless pattern).bind fun _ => .ok _
  | .like ignoreCase e negated true pattern escape => by
    rw [Term.bind]
    nofun
  | .caseOf operand branches otherwise => by
    rw [Term.bind]
    exact (bindOption_blameless operand).bind fun _ => (bindBranches_blameless branches).bind fun _ =>
      (bindOption_blameless otherwise).bind fun _ => .ok _
  | .array _ items => by
    rw [Term.bind]
    exact (bindTerms_blameless items).bind fun _ => scope.call_blameless _ _
  | .call name none parts => by
    rw [bind_call_none]
    split
    · nofun
    · exact scope.call_blameless _ _
  | .call name (some args) parts => by
    rw [bind_call_some]
    split
    · nofun
    · split
      · nofun
      · exact (bindArgs_blameless (pathText name) args).bind fun _ => scope.call_blameless _ _
  | .cast _ e type _ => by
    rw [Term.bind]
    cases castType? type with
    | none => nofun
    | some t => exact (bind_blameless e).bind fun _ => .ok _
  | .substring e start length _ _ => by
    rw [Term.bind]
    exact (bind_blameless e).bind fun _ => (bindOption_blameless start).bind fun _ =>
      (bindOption_blameless length).bind fun _ => scope.call_blameless _ _
  | .trim side what e => by
    rw [Term.bind]
    exact (bind_blameless e).bind fun _ => (bindOption_blameless what).bind fun _ => scope.call_blameless _ _
  | .position part e => by
    rw [Term.bind]
    exact (bind_blameless part).bind fun _ => (bind_blameless e).bind fun _ => scope.call_blameless _ _
  | .ceiling e _ => by
    rw [Term.bind]
    exact (bind_blameless e).bind fun _ => scope.call_blameless _ _
  | .floor e _ => by
    rw [Term.bind]
    exact (bind_blameless e).bind fun _ => scope.call_blameless _ _
  | .other text => by
    rw [Term.bind]
    nofun

theorem bindOption_blameless : ∀ o : Option Term, Blameless (bindOption scope o)
  | none => by
    rw [bindOption]
    exact .ok _
  | some e => by
    rw [bindOption]
    exact (bind_blameless e).bind fun _ => .ok _

theorem bindTerms_blameless : ∀ es : List Term, Blameless (bindTerms scope es)
  | [] => by
    rw [bindTerms]
    exact .ok _
  | e :: es => by
    rw [bindTerms]
    exact (bind_blameless e).bind fun _ => (bindTerms_blameless es).bind fun _ => .ok _

theorem bindBranches_blameless : ∀ bs : List (Term × Term), Blameless (bindBranches scope bs)
  | [] => by
    rw [bindBranches]
    exact .ok _
  | (condition, result) :: rest => by
    rw [bindBranches]
    exact (bind_blameless condition).bind fun _ => (bind_blameless result).bind fun _ =>
      (bindBranches_blameless rest).bind fun _ => .ok _

theorem bindArgs_blameless (name : String) : ∀ as : List Arg, Blameless (bindArgs scope name as)
  | [] => by
    rw [bindArgs]
    exact .ok _
  | .term e :: as => by
    rw [bindArgs]
    exact (bind_blameless e).bind fun _ => (bindArgs_blameless name as).bind fun _ => .ok _
  | .other text :: _ => by
    rw [bindArgs]
    nofun

end

/-! ## Plain selections -/

/-- **A query that is a plain selection**: rows of at most one source without joins, and none of the clauses
that are asked for. -/
structure Query.Plain (q : Query) (s : Select) : Prop where
  body : q.body = .select s
  named : q.named = none
  order : q.order = none
  limit : q.limit = none
  source : s.source.length ≤ 1
  joined : ∀ r ∈ s.source, r.joined = false
  having : s.having = none
  distinct : s.distinct = none
  group : s.group = none

end Sql

namespace Plan

open Sql

theorem plainSelect_eq_ok {statement : Statement} {s : Select} :
    plainSelect statement = .ok s ↔ ∃ q, statement = .query q ∧ q.Plain s := by
  constructor
  · intro h
    cases statement with
    | other => cases h
    | query q =>
      unfold plainSelect at h
      dsimp only at h
      split at h
      · cases h
      rename_i hclauses
      split at h
      · cases h
      rename_i s' hbody
      split at h
      · cases h
      rename_i hsource
      split at h
      · cases h
      rename_i hgroups
      obtain rfl : s' = s := by simpa using h
      simp only [Bool.or_eq_true, Option.isSome_iff_ne_none, not_or, not_not] at hclauses hgroups
      simp only [Bool.or_eq_true, decide_eq_true_eq, List.any_eq_true, not_or, not_exists, not_and,
        Bool.not_eq_true, Nat.not_lt] at hsource
      obtain ⟨⟨hnamed, horder⟩, hlimit⟩ := hclauses
      obtain ⟨⟨hhaving, hdistinct⟩, hgroup⟩ := hgroups
      exact ⟨q, rfl, hbody, hnamed, horder, hlimit, hsource.1, hsource.2, hhaving, hdistinct, hgroup⟩
  · rintro ⟨q, rfl, hq⟩
    have hany : s.source.any Source.joined = false := List.any_eq_false.2 fun r hr => by simp [hq.joined r hr]
    have hlen : ¬ s.source.length > 1 := Nat.not_lt.2 hq.source
    simp [plainSelect, hq.named, hq.order, hq.limit, hq.body, hany, hlen, hq.having, hq.distinct, hq.group]

/-- **What is no plain selection is a bad statement.** -/
theorem plainSelect_eq_error {statement : Statement} {fault : CompileFault} (h : plainSelect statement = .error fault) :
    ∃ why, fault = .badStatement why := by
  have hbad : ∀ {why : String}, Except.error (.badStatement why) = (.error fault : Except CompileFault Select) →
      ∃ why, fault = .badStatement why := by
    rintro why ⟨⟩
    exact ⟨why, rfl⟩
  unfold plainSelect at h
  split at h
  · exact hbad h
  split at h
  · exact hbad h
  split at h
  · exact hbad h
  split at h
  · exact hbad h
  split at h
  · exact hbad h
  · cases h

theorem single_eq_ok {ss : List Statement} {s : Statement} : single ss = .ok s ↔ ss = [s] := by
  unfold single
  split <;> simp_all

theorem single_eq_error {ss : List Statement} {fault : CompileFault} (h : single ss = .error fault) :
    ∃ why, fault = .badStatement why := by
  unfold single at h
  split at h <;> cases h
  exact ⟨_, rfl⟩

/-! ## Plans -/

theorem bindItems_blameless (scope : Scope) (sink : List Field) :
    ∀ (items : List SelectItem) (position : Nat), Blameless (bindItems scope sink position items)
  | [], _ => .ok _
  | .star _ :: _, _ => nofun
  | .term e given :: items, position => by
    rw [bindItems]
    exact (bind_blameless scope e).bind fun _ => (bindItems_blameless scope sink items (position + 1)).bind fun _ =>
      .ok _

theorem ofSelect_blameless (scope : Scope) (sink : List Field) (s : Select) : Blameless (ofSelect scope sink s) :=
  (bindItems_blameless scope sink s.items 0).bind fun _ => (bindOption_blameless scope s.condition).bind fun _ => .ok _

theorem ofSelect_eq_ok {scope : Scope} {sink : List Field} {s : Select} {plan : Plan} :
    ofSelect scope sink s = .ok plan ↔
      bindItems scope sink 0 s.items = .ok plan.columns ∧ bindOption scope s.condition = .ok plan.condition := by
  unfold ofSelect
  simp only [bind_eq_ok]
  constructor
  · rintro ⟨columns, hc, condition, hw, ⟨⟩⟩
    exact ⟨hc, hw⟩
  · rintro ⟨hc, hw⟩
    exact ⟨_, hc, _, hw, rfl⟩

variable (registry : Registry Function) (source sink : List Field)

theorem compile_of_plain {text : String} {q : Query} {s : Select} (hread : statements? text = some [.query q])
    (hq : q.Plain s) : compile registry source sink text = ofSelect ⟨registry, source⟩ sink s := by
  have hplain : plainSelect (.query q) = .ok s := plainSelect_eq_ok.2 ⟨q, rfl, hq⟩
  simp only [compile, hread]
  rw [show single [.query q] = .ok (.query q) from rfl]
  dsimp only [Bind.bind, Except.bind]
  rw [hplain]

theorem compile_of_not_plain {text : String} {ss : List Statement} (hread : statements? text = some ss)
    (hss : ∀ q s, ss = [.query q] → ¬ q.Plain s) :
    ∃ why, compile registry source sink text = .error (.badStatement why) := by
  simp only [compile, hread]
  cases hsingle : single ss with
  | error fault =>
    obtain ⟨why, rfl⟩ := single_eq_error hsingle
    exact ⟨why, rfl⟩
  | ok statement =>
    obtain rfl := single_eq_ok.1 hsingle
    dsimp only [Bind.bind, Except.bind]
    cases hplain : plainSelect statement with
    | error fault =>
      obtain ⟨why, rfl⟩ := plainSelect_eq_error hplain
      exact ⟨why, rfl⟩
    | ok s =>
      obtain ⟨q, rfl, hq⟩ := plainSelect_eq_ok.1 hplain
      exact absurd hq (hss q s rfl)

theorem compile_eq_ok {registry : Registry Function} {source sink : List Field} {text : String} {plan : Plan}
    (h : compile registry source sink text = .ok plan) :
    ∃ q s, statements? text = some [.query q] ∧ q.Plain s ∧
      bindItems ⟨registry, source⟩ sink 0 s.items = .ok plan.columns ∧
      bindOption ⟨registry, source⟩ s.condition = .ok plan.condition := by
  cases hread : statements? text with
  | none => simp [compile, hread] at h
  | some ss =>
    by_cases hss : ∀ q s, ss = [.query q] → ¬ q.Plain s
    · obtain ⟨why, hbad⟩ := compile_of_not_plain registry source sink hread hss
      rw [hbad] at h
      cases h
    · simp only [not_forall, not_not] at hss
      obtain ⟨q, s, rfl, hq⟩ := hss
      rw [compile_of_plain registry source sink hread hq] at h
      exact ⟨q, s, rfl, hq, ofSelect_eq_ok.1 h⟩

/-- **A statement is a bad one just when it can be read and is not one plain selection.**  A plan is of a plain
selection, and there are its items and its condition in it and nothing else. -/
theorem compile_plain (text : String) :
    ((∃ why, compile registry source sink text = .error (.badStatement why)) ↔
      ∃ ss, statements? text = some ss ∧ ∀ q s, ss = [.query q] → ¬ q.Plain s) ∧
    ∀ plan, compile registry source sink text = .ok plan ↔
      ∃ q s, statements? text = some [.query q] ∧ q.Plain s ∧
        bindItems ⟨registry, source⟩ sink 0 s.items = .ok plan.columns ∧
        bindOption ⟨registry, source⟩ s.condition = .ok plan.condition := by
  have hnone : statements? text = none → compile registry source sink text = .error .unreadable := by
    intro hread
    simp only [compile, hread]
  constructor
  · constructor
    · rintro ⟨why, hbad⟩
      cases hread : statements? text with
      | none => simp [hnone hread] at hbad
      | some ss =>
        refine ⟨ss, rfl, ?_⟩
        rintro q s rfl hq
        rw [compile_of_plain registry source sink hread hq] at hbad
        exact ofSelect_blameless _ _ _ _ hbad
    · rintro ⟨ss, hread, hss⟩
      exact compile_of_not_plain registry source sink hread hss
  · intro plan
    constructor
    · intro hplan
      cases hread : statements? text with
      | none => simp [hnone hread] at hplan
      | some ss =>
        by_cases hss : ∀ q s, ss = [.query q] → ¬ q.Plain s
        · obtain ⟨why, hbad⟩ := compile_of_not_plain registry source sink hread hss
          rw [hbad] at hplan
          cases hplan
        · simp only [not_forall, not_not] at hss
          obtain ⟨q, s, rfl, hq⟩ := hss
          rw [compile_of_plain registry source sink hread hq] at hplan
          exact ⟨q, s, rfl, hq, ofSelect_eq_ok.1 hplan⟩
    · rintro ⟨q, s, hread, hq, hplan⟩
      rw [compile_of_plain registry source sink hread hq]
      exact ofSelect_eq_ok.2 hplan

/-! ## Clauses that are dropped -/

/-- A clause that leaves rows out and that a statement is not asked for. -/
def hides (q : Query) (s : Select) : Bool := s.top.isSome || s.prewhere.isSome || s.qualify.isSome || q.fetch.isSome

/-- A text of one selection with such a clause. -/
def hidesText (text : String) : Bool :=
  match statements? text with
  | some [.query q] =>
    match q.body with
    | .select s => hides q s
    | .other _ => false
  | _ => false

/-- A text with a plan that admits every row. -/
def admitsAll (source : List Field) (text : String) : Bool :=
  match compile Builtin.registry source [] text with
  | .ok plan => plan.condition.isNone
  | .error _ => false

/-- **A selection that leaves rows out has a plan that admits every row.** -/
def Drops (source : List Field) (text : String) : Prop :=
  (∃ q s, statements? text = some [.query q] ∧ q.body = .select s ∧ hides q s = true) ∧
  ∃ plan, compile Builtin.registry source [] text = .ok plan ∧ plan.condition = none

theorem drops_of_hidesText {source : List Field} {text : String} (hhides : hidesText text = true)
    (hadmits : admitsAll source text = true) : Drops source text := by
  constructor
  · unfold hidesText at hhides
    split at hhides
    · rename_i q hread
      split at hhides
      · rename_i s hbody
        exact ⟨q, s, hread, hbody, hhides⟩
      · cases hhides
    · cases hhides
  · unfold admitsAll at hadmits
    split at hadmits
    · rename_i plan hplan
      exact ⟨plan, hplan, by simpa using hadmits⟩
    · cases hadmits

def twoTexts : List Field := [⟨"a", .text, none⟩, ⟨"b", .text, none⟩]

theorem compile_drops_clauses :
    Drops twoTexts "select a from source prewhere b > 1" ∧ Drops twoTexts "select a from source qualify b > 1" ∧
    Drops twoTexts "select a from source fetch first 1 rows only" ∧ Drops twoTexts "select top 1 a from source" := by
  refine ⟨?_, ?_, ?_, ?_⟩
  all_goals exact drops_of_hidesText (by decide +kernel) (by decide +kernel)

end Plan
end RowSql
