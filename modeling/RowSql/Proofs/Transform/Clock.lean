import RowSql.Proofs.Expr.Reads
import RowSql.Transform
/-!
# Clock — transforms that do not read the processing time

The processing time reaches an expression through one parameter and three calls.  A plan without them gives the
texts of a record at any time (`run_of_timeless`).
-/
namespace RowSql

/-- The function gives the processing time when it is called with so many arguments. -/
def Function.tellsTime : Function → Nat → Bool
  | .time .now, _ => true
  | .time .today, _ => true
  | .time .toSeconds, count => count == 0
  | _, _ => false

theorem Function.apply_of_not_tellsTime {f : Function} {vs : List Value} (h : f.tellsTime vs.length = false)
    (context context' : Context) : f.apply context vs = f.apply context' vs := by
  cases f with
  | time f =>
    cases f with
    | now | today => cases h
    | toSeconds =>
      cases vs with
      | nil => cases h
      | cons v vs => rfl
    -- the clauses of the other functions have two arguments at most
    | _ => rcases vs with _ | ⟨v, _ | ⟨w, _ | ⟨x, vs⟩⟩⟩ <;> rfl
  | _ => rfl

namespace Expr

/-- The expression itself reads the processing time. -/
def readsClock : Expr → Bool
  | .param name => name == Context.timeParam
  | .call f args => f.tellsTime args.length
  | _ => false

/-- **Nothing within an expression reads the processing time.** -/
def Timeless (e : Expr) : Prop := ∀ x, Within x e → x.readsClock = false

theorem Timeless.eval_eq {e : Expr} (h : e.Timeless) {context context' : Context}
    (hparams : ∀ name, name ≠ Context.timeParam → context.param? name = context'.param? name) (row : List Value) :
    e.eval context row = e.eval context' row :=
  eval_of_readsAlike
    { column := fun _ _ _ => rfl
      param := fun name hx => hparams name (by simpa [readsClock] using h _ hx)
      call := fun f args hx vs hvs => f.apply_of_not_tellsTime (hvs ▸ h _ hx) context context' }

end Expr

/-- **A plan does not read the processing time**, in no column and not in its condition. -/
structure Plan.Timeless (plan : Plan) : Prop where
  columns : ∀ column ∈ plan.columns, column.expr.Timeless
  condition : ∀ e ∈ plan.condition, e.Timeless

/-! ## Parameters -/

namespace Context

theorem lookup_cons_eq (name n : String) (v : Value) (ps : List (String × Value)) :
    ((n, v) :: ps).lookup name = if name = n then some v else ps.lookup name := by
  by_cases h : name = n
  · subst h
    simp
  · have h' : (name == n) = false := beq_false_of_ne h
    simp [List.lookup_cons, h', h]

theorem lookup_set (name n : String) (v : Value) :
    ∀ ps : List (String × Value), (set n v ps).lookup name = if name = n then some v else ps.lookup name
  | [] => lookup_cons_eq name n v []
  | (m, w) :: ps => by
    rw [set]
    by_cases hm : m = n
    · subst hm
      by_cases h : name = m <;> simp [lookup_cons_eq, h]
    · by_cases h : name = m
      · simp [h, hm]
      · simp [lookup_cons_eq, h, hm, lookup_set name n v ps]

theorem param?_withParams {c c' : Context} {name : String} (h : c.param? name = c'.param? name)
    (layer : List (String × Value)) : (c.withParams layer).param? name = (c'.withParams layer).param? name := by
  unfold withParams param? at *
  dsimp only
  generalize c.params = ps at h ⊢
  generalize c'.params = ps' at h ⊢
  induction layer generalizing ps ps' with
  | nil => exact h
  | cons p layer ih =>
    rw [List.foldl_cons, List.foldl_cons]
    refine ih _ _ ?_
    split
    · exact h
    · rw [lookup_set, lookup_set, h]

theorem param?_start {name : String} (h : name ≠ timeParam) (time : Calendar.Moment) :
    (start time).param? name = none := by
  rw [start, param?, lookup_cons_eq, if_neg h]
  rfl

end Context

/-! ## Rows and records -/

namespace Transform

variable {t : Transform} {context context' : Context}

theorem columnValues_congr (policy : FaultPolicy) (index : Nat) (cells : List Value) {columns : List OutputColumn}
    (h : ∀ column ∈ columns, column.expr.eval context cells = column.expr.eval context' cells) :
    columnValues policy context index cells columns = columnValues policy context' index cells columns := by
  induction columns with
  | nil => rfl
  | cons column columns ih =>
    obtain ⟨hcolumn, hcolumns⟩ := List.forall_mem_cons.1 h
    rw [columnValues, columnValues, columnValue, columnValue, hcolumn, ih hcolumns]

theorem rowText_congr {index : Nat} {cells : List Value}
    (hcolumns : ∀ column ∈ t.plan.columns, column.expr.eval context cells = column.expr.eval context' cells)
    (hcondition : ∀ e ∈ t.plan.condition, e.eval context cells = e.eval context' cells) :
    rowText t context index cells = rowText t context' index cells := by
  have hadmits : admits t.policy context index cells t.plan.condition =
      admits t.policy context' index cells t.plan.condition := by
    cases hc : t.plan.condition with
    | none => rfl
    | some e => rw [admits, admits, hcondition e hc]
  rw [rowText, rowText, rowValues, rowValues, hadmits, columnValues_congr t.policy index cells hcolumns]

theorem rowTexts_congr (hrow : ∀ index cells, rowText t context index cells = rowText t context' index cells) :
    ∀ (index : Nat) (rows : List (List Value)), rowTexts t context index rows = rowTexts t context' index rows
  | _, [] => rfl
  | index, cells :: rows => by rw [rowTexts, rowTexts, hrow, rowTexts_congr hrow (index + 1) rows]

theorem recordTexts_congr
    (hcolumns : ∀ column ∈ t.plan.columns, ∀ cells, column.expr.eval context cells = column.expr.eval context' cells)
    (hcondition : ∀ e ∈ t.plan.condition, ∀ cells, e.eval context cells = e.eval context' cells) (bytes : List UInt8) :
    recordTexts t context bytes = recordTexts t context' bytes := by
  unfold recordTexts
  cases t.decoder.decode bytes with
  | error cause => rfl
  | ok decoded =>
    exact rowTexts_congr (fun _ cells => rowText_congr (fun column hc => hcolumns column hc cells)
      fun e he => hcondition e he cells) 0 decoded.rows

/-- **A transform that does not read the processing time gives the texts of a record at any time.** -/
theorem run_of_timeless (h : t.plan.Timeless) (time time' : Calendar.Moment) (params : List (String × Value))
    (bytes : List UInt8) : t.run time params bytes = t.run time' params bytes := by
  have hparams : ∀ name, name ≠ Context.timeParam →
      (((Context.start time).withParams t.params).withParams params).param? name =
        (((Context.start time').withParams t.params).withParams params).param? name := by
    intro name hname
    refine Context.param?_withParams (Context.param?_withParams ?_ _) _
    rw [Context.param?_start hname, Context.param?_start hname]
  exact recordTexts_congr (fun column hc cells => (h.columns column hc).eval_eq hparams cells)
    (fun e he cells => (h.condition e he).eval_eq hparams cells) bytes

end Transform
end RowSql
