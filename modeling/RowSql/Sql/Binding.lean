import RowSql.Expr
import RowSql.Function.Registry
import RowSql.Sql.Text
/-!
# Binding — expressions over the columns of a source

A name is bound to a column of the source: one of exactly this name, else the first one of this name up to the
case of ASCII letters.  A call is bound to the registered form that accepts its number of arguments.  Operands
are bound from left to right before what they are operands of, and the first fault is the result.
-/
namespace RowSql
namespace Sql

/-- **What names are bound to.** -/
structure Scope where
  registry : Registry Function
  fields : List Field

/-- What a name begins with that reads a parameter. -/
def paramMark : List Char := "$ctx.".toList

/-- The position of the column of a name. -/
def columnIndex? (fields : List Field) (name : String) : Option Nat :=
  (fields.findIdx? fun f => f.name == name).or
    (fields.findIdx? fun f => Text.sameIgnoringCase f.name.toList name.toList)

namespace Scope

/-- The expression that a name stands for. -/
def column (scope : Scope) (name : String) : Except CompileFault Expr :=
  if paramMark.isPrefixOf name.toList then .ok (.param (String.ofList (name.toList.drop paramMark.length)))
  else
    match columnIndex? scope.fields name with
    | none => .error (.unknownColumn name)
    | some index => .ok (.column index ((scope.fields[index]?.map Field.type).getD .text))

def call (scope : Scope) (name : String) (args : List Expr) : Except CompileFault Expr :=
  (scope.registry.resolve name args.length).map (.call · args)

end Scope

/-- The value of a number as it is written: a whole number if it is one and fits, else a decimal. -/
def numberValue (negative : Bool) (digits : String) : Except CompileFault Value :=
  let text := wordIf negative "-" ++ digits
  let whole? : Option Whole := do
    let n ← Decimal.readPlain digits.toList
    Whole.ofInt? (if negative then -(n : Int) else n)
  match whole? with
  | some n => .ok (.int n)
  | none =>
    if Decimal.halts text then .error .halt
    else
      match Decimal.ofText? text with
      | some d => .ok (.decimal d)
      | none => .error (.badNumber text)

/-- The name of the parameter of a placeholder. -/
def placeholderParam (name : String) : String :=
  match name.toList with
  | '$' :: rest => String.ofList rest
  | _ => name

def Literal.bind : Literal → Except CompileFault Expr
  | .number digits _ => (numberValue false digits).map .literal
  | .text s => .ok (.literal (.text s))
  | .quotedText s => .ok (.literal (.text s))
  | .bool b => .ok (.literal (.bool b))
  | .null => .ok (.literal .null)
  | .placeholder name => .ok (.param (placeholderParam name))
  | v => .error (.unsupported v.render)

/-- What the names of the types of a cast begin with. -/
def castPrefixes : List (FieldType × List String) :=
  [(.bool, ["BOOL"]), (.whole, ["INT", "BIGINT", "SMALLINT", "TINYINT", "UINT", "LONG"]),
   (.decimal, ["DECIMAL", "NUMERIC", "DEC"]), (.float, ["FLOAT", "DOUBLE", "REAL"]),
   (.text, ["VARCHAR", "CHAR", "TEXT", "STRING", "NVARCHAR"])]

/-- The type that a cast casts to; there is none for spans of time. -/
def castType? (type : String) : Option FieldType :=
  let name := type.toList.map Char.toUpper
  if "INTERVAL".toList.isPrefixOf name then none
  else (castPrefixes.find? fun p => p.2.any fun s => s.toList.isPrefixOf name).map Prod.fst

/-- The digits of a number that is not negated otherwise. -/
def Term.digits? : Term → Option String
  | .literal (.number digits _) => some digits
  | _ => none

/-- The function that removes characters at some ends of a text. -/
def trimFunction : Option TrimSide → String
  | some .leading => "ltrim"
  | some .trailing => "rtrim"
  | _ => "trim"

/-- The expression of a binary operator. -/
def BinaryOp.apply (op : BinaryOp) (l r : Expr) : Except CompileFault Expr :=
  match op with
  | .arith op => .ok (.arith op l r)
  | .compare op => .ok (.compare op l r)
  | .and => .ok (.and l r)
  | .or => .ok (.or l r)
  | .concat => .ok (.concat l r)
  | .other symbol => .error (.unsupported s!"operator {symbol}")

mutual

/-- **The expression over the columns of the scope.** -/
def Term.bind (scope : Scope) : Term → Except CompileFault Expr
  | .literal v => v.bind
  | .name n => scope.column n.text
  | .path parts => scope.column (String.intercalate "." (parts.map Name.text))
  | .nested e => e.bind scope
  | .binary _ (.other symbol) _ => .error (.unsupported s!"operator {symbol}")
  | .binary l op r => do
    let a ← l.bind scope
    let b ← r.bind scope
    op.apply a b
  | .unary .plus e => e.bind scope
  | .unary .minus e => do
    match e.digits? with
    | some digits => return .literal (← numberValue true digits)
    | none => return .neg (← e.bind scope)
  | .unary .not e => do return .not (← e.bind scope)
  | .unary (.other symbol) _ => .error (.unsupported s!"operator {symbol}")
  | .isNull e negated => do return .isNull (← e.bind scope) negated
  | .between e negated low high => do
    let v ← e.bind scope
    let a ← low.bind scope
    let b ← high.bind scope
    return .between v a b negated
  | .inList e negated items => do
    let v ← e.bind scope
    return .inList v (← bindTerms scope items) negated
  | .like ignoreCase e negated false pattern _ => do
    let v ← e.bind scope
    let p ← pattern.bind scope
    return .like v p negated ignoreCase
  | .like ignoreCase e negated true pattern escape =>
    .error (.unsupported (Term.like ignoreCase e negated true pattern escape).render)
  | .caseOf operand branches otherwise => do
    let v ← bindOption scope operand
    let bs ← bindBranches scope branches
    let w ← bindOption scope otherwise
    let w := w.getD (.literal .null)
    return v.elim (.caseWhen bs w) (.caseOf · bs w)
  | .array _ items => do scope.call "array" (← bindTerms scope items)
  | .call name args parts => do
    if parts.window.isSome || parts.within.isSome then
      throw (.unsupported s!"{pathText name}: window or aggregate clause")
    match args with
    | none => scope.call (pathText name) []
    | some args =>
      if parts.quantifier.isSome || !parts.clauses.isEmpty then
        throw (.unsupported (Term.call name (some args) parts).render)
      scope.call (pathText name) (← bindArgs scope (pathText name) args)
  | .cast _ e type _ =>
    match castType? type with
    | none => .error (.unsupported s!"cast to {type}")
    | some t => do return .cast (← e.bind scope) t
  | .substring e start length _ _ => do
    let v ← e.bind scope
    let a ← bindOption scope start
    let n ← bindOption scope length
    scope.call "substring" (v :: a.getD (.literal (.ofNat 1)) :: n.toList)
  | .trim side what e => do
    let v ← e.bind scope
    let w ← bindOption scope what
    scope.call (trimFunction side) (v :: w.toList)
  | .position part e => do
    let p ← part.bind scope
    let v ← e.bind scope
    scope.call "locate" [p, v]
  | .ceiling e _ => do scope.call "ceil" [← e.bind scope]
  | .floor e _ => do scope.call "floor" [← e.bind scope]
  | .other text => .error (.unsupported text)

def bindOption (scope : Scope) : Option Term → Except CompileFault (Option Expr)
  | none => .ok none
  | some e => do return some (← e.bind scope)

def bindTerms (scope : Scope) : List Term → Except CompileFault (List Expr)
  | [] => .ok []
  | e :: es => do
    let v ← e.bind scope
    return v :: (← bindTerms scope es)

def bindBranches (scope : Scope) : List (Term × Term) → Except CompileFault (List (Expr × Expr))
  | [] => .ok []
  | (condition, result) :: rest => do
    let c ← condition.bind scope
    let v ← result.bind scope
    return (c, v) :: (← bindBranches scope rest)

/-- The arguments of a call of the function of a name. -/
def bindArgs (scope : Scope) (name : String) : List Arg → Except CompileFault (List Expr)
  | [] => .ok []
  | .term e :: as => do
    let v ← e.bind scope
    return v :: (← bindArgs scope name as)
  | .other text :: _ => .error (.unsupported s!"{name}: argument {text}")

end

end Sql
end RowSql
