import RowSql.Sql.Syntax
/-!
# Text — the canonical text of an expression

Keywords are in upper case, and one blank stands between the parts.  It names an output column that has no other
name, and an expression that is not supported.
-/
namespace RowSql
namespace Sql

/-- The characters of a quoted text, with a quote written twice.  A quote after a backslash stays as it is, and
so do two quotes in a row. -/
def escapedFrom (quote : Char) (afterBackslash : Bool) : List Char → List Char
  | [] => []
  | [c] => if c == quote && !afterBackslash then [c, c] else [c]
  | c :: d :: cs =>
    if c == quote then
      if afterBackslash then c :: escapedFrom quote true (d :: cs)
      else if d == quote then c :: d :: escapedFrom quote false cs
      else c :: c :: escapedFrom quote false (d :: cs)
    else c :: escapedFrom quote (c == '\\') (d :: cs)

/-- A text in quotes. -/
def inQuotes (quote : Char) (s : String) : String :=
  String.ofList (quote :: (escapedFrom quote false s.toList ++ [quote]))

def Name.render (n : Name) : String :=
  match n.quote with
  | some q => inQuotes q n.text
  | none => n.text

/-- Names with points between them. -/
def pathText (parts : List Name) : String := String.intercalate "." (parts.map Name.render)

def Literal.render : Literal → String
  | .number digits long => if long then digits ++ "L" else digits
  | .text s => inQuotes '\'' s
  | .quotedText s => inQuotes '"' s
  | .national s => s!"N'{s}'"
  | .hex digits => s!"X'{digits}'"
  | .dollar tag s => s!"${tag}${s}${tag}$"
  | .bool b => if b then "true" else "false"
  | .null => "NULL"
  | .placeholder name => name

def arithSymbol : ArithOp → String
  | .add => "+"
  | .sub => "-"
  | .mul => "*"
  | .div => "/"
  | .rem => "%"

def compareSymbol : CompareOp → String
  | .eq => "="
  | .ne => "<>"
  | .lt => "<"
  | .le => "<="
  | .gt => ">"
  | .ge => ">="

def BinaryOp.render : BinaryOp → String
  | .arith op => arithSymbol op
  | .compare op => compareSymbol op
  | .and => "AND"
  | .or => "OR"
  | .concat => "||"
  | .other symbol => symbol

/-- The text of an operator, with the blank after it if it is a word. -/
def UnaryOp.render : UnaryOp → String
  | .plus => "+"
  | .minus => "-"
  | .not => "NOT "
  | .other symbol => symbol

def TrimSide.render : TrimSide → String
  | .both => "BOTH"
  | .leading => "LEADING"
  | .trailing => "TRAILING"

/-- A word that stands only if it is asked for. -/
def wordIf (present : Bool) (word : String) : String := if present then word else ""

/-- A text with what stands before it, or nothing. -/
def after (before : String) (text : Option String) : String := text.elim "" (before ++ ·)

def roundingText (name e : String) : Option RoundingUnit → String
  | none => s!"{name}({e})"
  | some (.field field) => s!"{name}({e} TO {field})"
  | some (.scale digits) => s!"{name}({e}, {digits.render})"

def castText (kind : CastKind) (e type : String) (format : Option String) : String :=
  let tail := after " FORMAT " format
  match kind with
  | .cast => s!"CAST({e} AS {type}{tail})"
  | .tryCast => s!"TRY_CAST({e} AS {type}{tail})"
  | .safeCast => s!"SAFE_CAST({e} AS {type}{tail})"
  | .colons => s!"{e}::{type}"

/-- The text of a call, whose arguments have been written. -/
def callText (name : List Name) (args : Option (List String)) (p : CallParts) : String :=
  let list := match args with
    | none => ""
    | some args =>
      "(" ++ after "" (p.quantifier.map (· ++ " ")) ++ String.intercalate ", " args
        ++ wordIf (!p.clauses.isEmpty && !args.isEmpty) " " ++ String.intercalate " " p.clauses ++ ")"
  wordIf p.braced "\x7bfn " ++ pathText name ++ after "" p.params ++ list
    ++ after " WITHIN GROUP (ORDER BY " (p.within.map (· ++ ")")) ++ after " " p.nulls ++ after " OVER " p.window
    ++ wordIf p.braced "\x7d"

mutual

/-- **The canonical text of an expression.** -/
def Term.render : Term → String
  | .literal v => v.render
  | .name n => n.render
  | .path parts => pathText parts
  | .nested e => "(" ++ e.render ++ ")"
  | .binary l op r => l.render ++ " " ++ op.render ++ " " ++ r.render
  | .unary op e => op.render ++ e.render
  | .isNull e negated => e.render ++ (if negated then " IS NOT NULL" else " IS NULL")
  | .between e negated low high =>
    e.render ++ wordIf negated " NOT" ++ " BETWEEN " ++ low.render ++ " AND " ++ high.render
  | .inList e negated items =>
    e.render ++ wordIf negated " NOT" ++ " IN (" ++ String.intercalate ", " (renderTerms items) ++ ")"
  | .like ignoreCase e negated any pattern escape =>
    e.render ++ wordIf negated " NOT" ++ (if ignoreCase then " ILIKE " else " LIKE ") ++ wordIf any "ANY "
      ++ pattern.render ++ after " ESCAPE " (escape.map Literal.render)
  | .caseOf operand branches otherwise =>
    "CASE" ++ after " " (renderOption operand) ++ renderBranches branches ++ after " ELSE " (renderOption otherwise)
      ++ " END"
  | .array named items => wordIf named "ARRAY" ++ "[" ++ String.intercalate ", " (renderTerms items) ++ "]"
  | .call name none parts => callText name none parts
  | .call name (some args) parts => callText name (some (renderArgs args)) parts
  | .cast kind e type format => castText kind e.render type format
  | .substring e start length commas short =>
    (if short then "SUBSTR(" else "SUBSTRING(") ++ e.render
      ++ after (if commas then ", " else " FROM ") (renderOption start)
      ++ after (if commas then ", " else " FOR ") (renderOption length) ++ ")"
  | .trim side what e =>
    "TRIM(" ++ after "" (side.map fun s => s.render ++ " ") ++ after "" ((renderOption what).map (· ++ " FROM "))
      ++ e.render ++ ")"
  | .position part e => "POSITION(" ++ part.render ++ " IN " ++ e.render ++ ")"
  | .ceiling e unit => roundingText "CEIL" e.render unit
  | .floor e unit => roundingText "FLOOR" e.render unit
  | .other text => text

def renderOption : Option Term → Option String
  | none => none
  | some e => some e.render

def renderTerms : List Term → List String
  | [] => []
  | e :: es => e.render :: renderTerms es

def renderBranches : List (Term × Term) → String
  | [] => ""
  | (condition, result) :: rest =>
    " WHEN " ++ condition.render ++ " THEN " ++ result.render ++ renderBranches rest

def Arg.render : Arg → String
  | .term e => e.render
  | .other text => text

def renderArgs : List Arg → List String
  | [] => []
  | a :: as => a.render :: renderArgs as

end

def SelectItem.render : SelectItem → String
  | .term e none => e.render
  | .term e (some n) => e.render ++ " AS " ++ n.render
  | .star text => text

def Select.render (s : Select) : String :=
  let sources := String.intercalate ", " (s.source.map Source.text)
  let source := if s.source.isEmpty then [] else ["FROM " ++ sources]
  let items := String.intercalate ", " (s.items.map SelectItem.render)
  let selection := "SELECT" ++ after " " s.distinct ++ after " TOP " s.top ++ " " ++ items
  let into := (s.into.map ("INTO " ++ ·)).toList
  let start := if s.sourceFirst then source ++ (if s.items.isEmpty then [] else [selection]) ++ into
    else [selection] ++ into ++ source
  let windows := s.windows.map ("WINDOW " ++ ·)
  let qualify := s.qualify.map ("QUALIFY " ++ ·.render)
  let rest := [s.prewhere.map ("PREWHERE " ++ ·.render), s.condition.map ("WHERE " ++ ·.render),
    s.group.map ("GROUP BY " ++ ·), s.cluster.map ("CLUSTER BY " ++ ·), s.distribute.map ("DISTRIBUTE BY " ++ ·),
    s.sort.map ("SORT BY " ++ ·), s.having.map ("HAVING " ++ ·.render)]
    ++ (if s.windowsFirst then [windows, qualify] else [qualify, windows])
  String.intercalate " " start ++ String.join s.views
    ++ String.join ((rest.filterMap id).map (" " ++ ·))

def QueryBody.render : QueryBody → String
  | .select s => s.render
  | .other text => text

/-- **The canonical text of a query.** -/
def Query.render (q : Query) : String :=
  let parts := [q.named.map ("WITH " ++ ·), some q.body.render, q.order.map ("ORDER BY " ++ ·), q.limit,
    q.settings.map ("SETTINGS " ++ ·), q.fetch.map ("FETCH " ++ ·)] ++ q.locks.map some
    ++ [q.format.map ("FORMAT " ++ ·)]
  String.intercalate " " (parts.filterMap id)

end Sql
end RowSql
