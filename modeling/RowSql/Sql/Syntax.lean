import RowSql.Operator
/-!
# Syntax — statements as they are written

The tree of a statement has the expressions that a row transform can have.  An expression of another kind, a
query inside an expression, and a clause that is only asked whether it is there are kept as their text, so that
messages can name them.
-/
namespace RowSql
namespace Sql

/-- **A name**, with the quote that it is written in. -/
structure Name where
  text : String
  quote : Option Char := none
deriving DecidableEq, Repr, Inhabited

/-- **A literal value.** -/
inductive Literal where
  | number (text : String) (long : Bool)
  | text (s : String)
  /-- A text in double quotes, where a name cannot stand. -/
  | quotedText (s : String)
  | national (s : String)
  | hex (digits : String)
  | dollar (tag s : String)
  | bool (b : Bool)
  | null
  | placeholder (name : String)
deriving DecidableEq, Repr, Inhabited

inductive BinaryOp where
  | arith (op : ArithOp)
  | compare (op : CompareOp)
  | and
  | or
  | concat
  | other (symbol : String)
deriving DecidableEq, Repr, Inhabited

inductive UnaryOp where
  | plus
  | minus
  | not
  | other (symbol : String)
deriving DecidableEq, Repr, Inhabited

inductive CastKind where
  | cast
  | tryCast
  | safeCast
  /-- Two colons and the type. -/
  | colons
deriving DecidableEq, Repr, Inhabited

inductive TrimSide where
  | both
  | leading
  | trailing
deriving DecidableEq, Repr, Inhabited

/-- What a rounding up or down is asked to round to, apart from whole numbers. -/
inductive RoundingUnit where
  | field (name : String)
  | scale (digits : Literal)
deriving DecidableEq, Repr, Inhabited

/-- What a call has besides its name and arguments. -/
structure CallParts where
  /-- A first list of arguments, of a call with two lists. -/
  params : Option String := none
  quantifier : Option String := none
  /-- The clauses after the arguments. -/
  clauses : List String := []
  /-- What a group is sorted by. -/
  within : Option String := none
  nulls : Option String := none
  window : Option String := none
  /-- The call is written in braces. -/
  braced : Bool := false
deriving DecidableEq, Repr, Inhabited

mutual

/-- **An expression as it is written.** -/
inductive Term where
  | literal (v : Literal)
  | name (n : Name)
  /-- Names with points between them. -/
  | path (parts : List Name)
  | nested (e : Term)
  | binary (l : Term) (op : BinaryOp) (r : Term)
  | unary (op : UnaryOp) (e : Term)
  | isNull (e : Term) (negated : Bool)
  | between (e : Term) (negated : Bool) (low high : Term)
  | inList (e : Term) (negated : Bool) (items : List Term)
  | like (ignoreCase : Bool) (e : Term) (negated any : Bool) (pattern : Term) (escape : Option Literal)
  | caseOf (operand : Option Term) (branches : List (Term × Term)) (otherwise : Option Term)
  | array (named : Bool) (items : List Term)
  /-- A call, without parentheses if there are no arguments at all. -/
  | call (name : List Name) (args : Option (List Arg)) (parts : CallParts)
  | cast (kind : CastKind) (e : Term) (type : String) (format : Option String)
  | substring (e : Term) (start length : Option Term) (commas short : Bool)
  | trim (side : Option TrimSide) (what : Option Term) (e : Term)
  | position (part e : Term)
  | ceiling (e : Term) (unit : Option RoundingUnit)
  | floor (e : Term) (unit : Option RoundingUnit)
  /-- An expression of another kind. -/
  | other (text : String)

/-- **An argument of a call.** -/
inductive Arg where
  | term (e : Term)
  /-- An argument with a name, or a star. -/
  | other (text : String)

end

instance : Inhabited Term := ⟨.literal .null⟩

/-- **An item of a selection.** -/
inductive SelectItem where
  | term (e : Term) (given : Option Name)
  | star (text : String)
deriving Inhabited

/-- A source of rows, and whether others are joined to it. -/
structure Source where
  text : String
  joined : Bool
deriving DecidableEq, Repr, Inhabited

/-- **A selection of rows.**  Clauses that are no expressions of a row transform are kept as their text. -/
structure Select where
  distinct : Option String
  top : Option String
  items : List SelectItem
  into : Option String
  /-- The source is written before the items. -/
  sourceFirst : Bool
  source : List Source
  /-- The lateral views, each with the blank before it. -/
  views : List String
  prewhere : Option Term
  condition : Option Term
  group : Option String
  cluster : Option String
  distribute : Option String
  sort : Option String
  having : Option Term
  windows : Option String
  qualify : Option Term
  /-- The windows are named before the condition on them. -/
  windowsFirst : Bool
deriving Inhabited

inductive QueryBody where
  | select (s : Select)
  /-- A query in parentheses, a list of rows, or queries joined by an operator. -/
  | other (text : String)
deriving Inhabited

/-- **A query.** -/
structure Query where
  named : Option String
  body : QueryBody
  order : Option String
  limit : Option String
  settings : Option String
  fetch : Option String
  locks : List String
  format : Option String
deriving Inhabited

/-- **A statement.**  Of a statement that is no query nothing is kept. -/
inductive Statement where
  | query (q : Query)
  | other
deriving Inhabited

end Sql
end RowSql
