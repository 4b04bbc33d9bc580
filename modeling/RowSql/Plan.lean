import RowSql.Expr.Eval
import RowSql.Sql.Binding
import RowSql.Sql.Grammar.Statement
/-!
# Plan — compiled statements

A plan has named output columns and may have a condition on the rows.  It comes from one selection without anything that
mixes, orders or counts rows.
-/
namespace RowSql

/-- A named expression. -/
structure OutputColumn where
  name : String
  expr : Expr
deriving Inhabited

/-- **A compiled statement.** -/
structure Plan where
  columns : List OutputColumn
  condition : Option Expr
deriving Inhabited

namespace Plan

open Sql

/-- The one statement of a text. -/
def single : List Statement → Except CompileFault Statement
  | [s] => .ok s
  | ss => .error (.badStatement s!"expected exactly one statement, found {ss.length}")

/-- The selection of a statement that is nothing else. -/
def plainSelect : Statement → Except CompileFault Select
  | .other => .error (.badStatement "only SELECT is supported")
  | .query q =>
    if q.named.isSome || q.order.isSome || q.limit.isSome then
      .error (.badStatement "WITH, ORDER BY and LIMIT are not supported")
    else
      match q.body with
      | .other _ => .error (.badStatement "expected a plain SELECT")
      | .select s =>
        if s.source.length > 1 || s.source.any Source.joined then .error (.badStatement "joins are not supported")
        else if s.having.isSome || s.distinct.isSome || s.group.isSome then
          .error (.badStatement "GROUP BY, HAVING and DISTINCT are not supported")
        else .ok s

/-- The name of an output column: the given one, else that of the sink field at the position, else the text of the
expression. -/
def columnName (sink : List Field) (position : Nat) (e : Term) (given : Option Name) : String :=
  (given.map Name.text).getD ((sink[position]?.map Field.name).getD e.render)

/-- The output columns of the items from a position on. -/
def bindItems (scope : Scope) (sink : List Field) : (position : Nat) → List SelectItem →
    Except CompileFault (List OutputColumn)
  | _, [] => .ok []
  | _, .star _ :: _ => .error (.unsupported "wildcard projection")
  | position, .term e given :: items => do
    let expr ← e.bind scope
    let rest ← bindItems scope sink (position + 1) items
    return ⟨columnName sink position e given, expr⟩ :: rest

/-- The plan of a selection. -/
def ofSelect (scope : Scope) (sink : List Field) (s : Select) : Except CompileFault Plan := do
  let columns ← bindItems scope sink 0 s.items
  let condition ← bindOption scope s.condition
  return ⟨columns, condition⟩

/-- **The plan of a statement** over the fields of a source, for the fields of a sink. -/
def compile (registry : Registry Function) (source sink : List Field) (text : String) : Except CompileFault Plan := do
  match statements? text with
  | none => .error .unreadable
  | some ss =>
    let s ← single ss
    ofSelect ⟨registry, source⟩ sink (← plainSelect s)

end Plan
end RowSql
