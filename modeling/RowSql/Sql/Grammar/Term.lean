import RowSql.Sql.Grammar.DataType
/-!
# Term — reading expressions

Operators are read by precedence.  Everything here is read with a `Grammar` for what is nested one level deeper,
so that the depth of a statement bounds the recursion.
-/
namespace RowSql
namespace Sql

/-- What the readers of one level know of a relation. -/
structure Relation where
  text : String
  /-- The relation is a join in parentheses. -/
  isJoin : Bool
deriving Inhabited

/-- **The readers of what is nested.** -/
structure Grammar where
  /-- An expression, up to an operator that does not bind tighter than a precedence. -/
  term : Nat → Read Term
  query : Read Query
  relation : Read Relation

namespace Grammar

open Read

/-- The precedences of operators; a greater one binds tighter. -/
def orLevel : Nat := 5
@[inherit_doc orLevel] def andLevel : Nat := 10
@[inherit_doc orLevel] def notLevel : Nat := 15
@[inherit_doc orLevel] def arrowLevel : Nat := 16
@[inherit_doc orLevel] def isLevel : Nat := 17
@[inherit_doc orLevel] def likeLevel : Nat := 19
@[inherit_doc orLevel] def compareLevel : Nat := 20
@[inherit_doc orLevel] def betweenLevel : Nat := 20
@[inherit_doc orLevel] def pipeLevel : Nat := 21
@[inherit_doc orLevel] def caretLevel : Nat := 22
@[inherit_doc orLevel] def ampersandLevel : Nat := 23
@[inherit_doc orLevel] def xorLevel : Nat := 24
@[inherit_doc orLevel] def addLevel : Nat := 30
@[inherit_doc orLevel] def mulLevel : Nat := 40
@[inherit_doc orLevel] def zoneLevel : Nat := 41
@[inherit_doc orLevel] def castLevel : Nat := 50
@[inherit_doc orLevel] def pointLevel : Nat := 100

/-- The operators written as symbols. -/
def symbolOps : List (String × BinaryOp × Nat) :=
  [("=", .compare .eq, compareLevel), ("==", .compare .eq, compareLevel), ("!=", .compare .ne, compareLevel),
   ("<>", .compare .ne, compareLevel), ("<", .compare .lt, compareLevel), ("<=", .compare .le, compareLevel),
   (">", .compare .gt, compareLevel), (">=", .compare .ge, compareLevel), ("<=>", .other "<=>", compareLevel),
   (":=", .other ":=", compareLevel), ("+", .arith .add, addLevel), ("-", .arith .sub, addLevel),
   ("*", .arith .mul, mulLevel), ("/", .arith .div, mulLevel), ("%", .arith .rem, mulLevel),
   ("||", .concat, mulLevel), ("|", .other "|", pipeLevel), ("^", .other "^", caretLevel),
   ("&", .other "&", ampersandLevel), ("~", .other "~", compareLevel), ("~*", .other "~*", compareLevel),
   ("!~", .other "!~", compareLevel), ("!~*", .other "!~*", compareLevel), ("~~", .other "~~", compareLevel),
   ("~~*", .other "~~*", compareLevel), ("!~~", .other "!~~", compareLevel), ("!~~*", .other "!~~*", compareLevel),
   ("->", .other "->", arrowLevel), ("->>", .other "->>", arrowLevel), ("#>", .other "#>", arrowLevel),
   ("#>>", .other "#>>", arrowLevel), ("@>", .other "@>", arrowLevel), ("<@", .other "<@", arrowLevel),
   ("#-", .other "#-", arrowLevel), ("@?", .other "@?", arrowLevel), ("@@", .other "@@", arrowLevel)]

/-- The operators written as words. -/
def wordOps : List (String × BinaryOp × Nat) :=
  [("AND", .and, andLevel), ("OR", .or, orLevel), ("XOR", .other "XOR", xorLevel),
   ("OVERLAPS", .other "OVERLAPS", betweenLevel)]

/-- The operators that may stand before a quantified operand. -/
def quantifiable (op : BinaryOp) : Bool :=
  match op with
  | .compare _ => true
  | .other s => ["~", "~*", "!~", "!~*", "~~", "~~*", "!~~", "!~~*"].contains s
  | _ => false

/-- The words that begin a condition on the expression before them. -/
def conditionLevels : List (String × Nat) :=
  [("IN", betweenLevel), ("BETWEEN", betweenLevel), ("LIKE", likeLevel), ("ILIKE", likeLevel), ("RLIKE", likeLevel),
   ("REGEXP", likeLevel), ("SIMILAR", likeLevel)]

/-- The words that take part in precedence, but which no operator of the language begins. -/
def reservedLevels : List (String × Nat) :=
  [("MATCH", likeLevel), ("MEMBER", likeLevel), ("OPERATOR", betweenLevel), ("DIV", mulLevel)]

/-- The symbols that take part in precedence, but which are no operators of the language. -/
def reservedSymbols : List (String × Nat) :=
  [("!", castLevel), ("[", castLevel), ("&&", castLevel), ("^@", castLevel), ("#", caretLevel), ("<<", caretLevel),
   (">>", caretLevel), ("::", castLevel), (".", pointLevel)]

/-- The precedence of the operator that comes next, zero if there is none. -/
def nextLevel : Read Nat := do
  match ← peek? with
  | some (.symbol ":") =>
    match ← peekAt? 1 with
    | some (.text _) => return 0
    | some (.number _ _) => return 0
    | _ => return pipeLevel
  | some (.symbol s) =>
    match symbolOps.lookup s with
    | some (_, level) => return level
    | none => return (reservedSymbols.lookup s).getD 0
  | some t =>
    match keywordOf t with
    | none => return 0
    | some "AT" =>
      return if isKeyword "TIME" (← peekAt? 1) && isKeyword "ZONE" (← peekAt? 2) then zoneLevel else 0
    | some "NOT" =>
      match (← peekAt? 1).bind keywordOf with
      | some "NULL" => return isLevel
      | some "MATCH" => return likeLevel
      | some "MEMBER" => return likeLevel
      | some k => return (conditionLevels.lookup k).getD 0
      | none => return 0
    | some "IS" => return isLevel
    | some k =>
      match wordOps.lookup k with
      | some (_, level) => return level
      | none => return ((conditionLevels ++ reservedLevels).lookup k).getD 0
  | none => return 0

/-- A query follows. -/
def peekQuery : Read Bool := peekKeyword ["SELECT", "WITH"]

/-! ## Small parts -/

/-- The fields of a moment. -/
def momentFields : List String :=
  ["YEAR", "YEARS", "MONTH", "MONTHS", "WEEK", "WEEKS", "DAY", "DAYOFWEEK", "DAYOFYEAR", "DAYS", "DATE", "DATETIME",
   "HOUR", "HOURS", "MINUTE", "MINUTES", "SECOND", "SECONDS", "CENTURY", "DECADE", "DOY", "DOW", "EPOCH", "ISODOW",
   "ISOYEAR", "ISOWEEK", "JULIAN", "MICROSECOND", "MICROSECONDS", "MILLENIUM", "MILLENNIUM", "MILLISECOND",
   "MILLISECONDS", "NANOSECOND", "NANOSECONDS", "QUARTER", "TIME", "TIMEZONE", "TIMEZONE_ABBR", "TIMEZONE_HOUR",
   "TIMEZONE_MINUTE", "TIMEZONE_REGION"]

/-- The fields that are no units of a span. -/
def notUnits : List String :=
  ["DAYOFWEEK", "DAYOFYEAR", "DATE", "DATETIME", "ISOWEEK", "TIME", "TIMEZONE_ABBR", "TIMEZONE_REGION"]

def momentField : Read String := do
  match ← oneOf momentFields with
  | some k => return k
  | none => fail

/-- A span of time, after its keyword. -/
def interval (g : Grammar) : Read Term := do
  let e ← g.term 0
  if !(← peekKeyword (momentFields.filter fun k => !notUnits.contains k)) then fail
  let unit ← momentField
  let size : Read String := do
    let n ← DataType.size
    return wordIf (!n.isEmpty) (" " ++ n)
  if unit == "SECOND" then
    let precision ← if ← symbol "(" then do
        let p ← wholeNumber
        let s ← if ← symbol "," then ((", " ++ ·) <$> wholeNumber) else pure ""
        expectSymbol ")"
        pure s!" ({p}{s})"
      else pure ""
    return .other s!"INTERVAL {e.render} {unit}{precision}"
  else
    let precision ← size
    let last ← if ← keyword "TO" then do
        let field ← momentField
        let precision ← if field == "SECOND" then size else pure ""
        pure s!" TO {field}{precision}"
      else pure ""
    return .other s!"INTERVAL {e.render} {unit}{precision}{last}"

/-- A text that is to be read as a type, or a span of time. -/
def typed (g : Grammar) : Read Term := do
  match ← DataType.read with
  | .interval => interval g
  | .custom _ => fail
  | .builtin spelling => return .other s!"{spelling} {(← literal).render}"

/-- The words of a sort direction and of the place of what is not there. -/
def orderOptions : Read String := do
  let direction := ((← oneOf ["ASC", "DESC"]).map (" " ++ ·)).getD ""
  if ← keywords ["NULLS", "FIRST"] then return direction ++ " NULLS FIRST"
  else if ← keywords ["NULLS", "LAST"] then return direction ++ " NULLS LAST"
  else return direction

/-- What an order fills in. -/
def fill (g : Grammar) : Read String := do
  if ← keywords ["WITH", "FILL"] then
    let part (k : String) : Read String := do
      if ← keyword k then return s!" {k} {(← g.term 0).render}" else return ""
    let start ← part "FROM"
    let stop ← part "TO"
    let step ← part "STEP"
    return " WITH FILL" ++ start ++ stop ++ step
  else return ""

/-- An expression to sort by. -/
def orderItem (g : Grammar) : Read String := do
  let e ← g.term 0
  let options ← orderOptions
  return e.render ++ options ++ (← fill g)

def orderItems (g : Grammar) : Read String := do return String.intercalate ", " (← commas (orderItem g))

def termsText (g : Grammar) : Read String := do
  return String.intercalate ", " ((← commas (g.term 0)).map Term.render)

/-- An end of a frame. -/
def bound (g : Grammar) : Read String := do
  if ← keywords ["CURRENT", "ROW"] then return "CURRENT ROW"
  else
    let distance ← if ← keyword "UNBOUNDED" then pure "UNBOUNDED" else Term.render <$> g.term 0
    match ← oneOf ["PRECEDING", "FOLLOWING"] with
    | some direction => return s!"{distance} {direction}"
    | none => fail

/-- The inside of a window, with the closing parenthesis. -/
def windowSpec (g : Grammar) : Read String := do
  let words := ["PARTITION", "ORDER", "ROWS", "RANGE", "GROUPS"]
  let base ← match ← peek? with
    | some (.word w none) => if ← peekKeyword words then pure none else do skip; pure (some w)
    | _ => pure none
  let partition ← if ← keywords ["PARTITION", "BY"] then some <$> termsText g else pure none
  let order ← if ← keywords ["ORDER", "BY"] then some <$> orderItems g else pure none
  let frame ← if ← symbol ")" then pure none else do
    match ← oneOf ["ROWS", "RANGE", "GROUPS"] with
    | none => fail
    | some unit =>
      let text ← if ← keyword "BETWEEN" then do
          let a ← bound g
          expectKeyword "AND"
          pure s!"{unit} BETWEEN {a} AND {← bound g}"
        else do pure s!"{unit} {← bound g}"
      expectSymbol ")"
      pure (some text)
  let parts := [base, partition.map ("PARTITION BY " ++ ·), order.map ("ORDER BY " ++ ·), frame].filterMap id
  return "(" ++ String.intercalate " " parts ++ ")"

/-! ## Calls -/

/-- An expression or a star, with the path before it. -/
def termOrStar (g : Grammar) : Read (Term ⊕ String) := do
  let start ← get
  let rec pathStar : Nat → List Name → Read (Option (List Name))
    | 0, _ => fail
    | fuel + 1, parts => do
      if ← symbol "." then
        match ← next? with
        | some (.word w q) => pathStar fuel (parts ++ [⟨w, q⟩])
        | some (.text s) => pathStar fuel (parts ++ [⟨s, some '\''⟩])
        | some (.placeholder s) => pathStar fuel (parts ++ [⟨s, none⟩])
        | some (.symbol "*") => return some parts
        | _ => fail
      else return none
  let star ← match ← next? with
    | some (.word w q) => pathStar start.length [⟨w, q⟩]
    | some (.text s) => pathStar start.length [⟨s, some '\''⟩]
    | some (.symbol "*") => pure (some [])
    | _ => pure none
  match star with
  | some [] => return .inr "*"
  | some parts => return .inr (pathText parts ++ ".*")
  | none =>
    set start
    return .inl (← g.term 0)

/-- An argument of a call. -/
def argument (g : Grammar) : Read Arg := do
  let text : Term ⊕ String → String
    | .inl e => e.render
    | .inr s => s
  let named ← attempt do
    let n ← name
    let op ← if ← keyword "VALUE" then pure "VALUE" else do
      expectSymbol "=>"
      pure "=>"
    return s!"{n.render} {op} {text (← termOrStar g)}"
  match named with
  | some s => return .other s
  | none =>
    match ← termOrStar g with
    | .inl e => return .term e
    | .inr s => return .other s

/-- A clause about what is not there. -/
def nullClause : Read (List String) := do
  if ← keywords ["ABSENT", "ON", "NULL"] then return ["ABSENT ON NULL"]
  else if ← keywords ["NULL", "ON", "NULL"] then return ["NULL ON NULL"]
  else return []

def returningClause : Read (List String) := do
  if ← keyword "RETURNING" then return ["RETURNING " ++ (← DataType.read).render] else return []

/-- What to do with a list that grows too long. -/
def overflowClause (g : Grammar) : Read (List String) := do
  if ← keywords ["ON", "OVERFLOW"] then
    if ← keyword "ERROR" then return ["ON OVERFLOW ERROR"]
    else
      expectKeyword "TRUNCATE"
      let filler ← if ← peekKeyword ["WITH", "WITHOUT"] then pure "" else do pure (" " ++ (← g.term 0).render)
      match ← oneOf ["WITH", "WITHOUT"] with
      | some w =>
        expectKeyword "COUNT"
        return [s!"ON OVERFLOW TRUNCATE{filler} {w} COUNT"]
      | none => fail
  else return []

/-- The list of arguments after its parenthesis: a quantifier, the arguments and the clauses. -/
def arguments (g : Grammar) : Read (Option String × List Arg × List String) := do
  let early ← nullClause
  let early := early ++ (← returningClause)
  if ← symbol ")" then return (none, [], early)
  let all ← keyword "ALL"
  let distinct ← keyword "DISTINCT"
  if all && distinct then fail
  let args ← commas (argument g)
  let order ← if ← keywords ["ORDER", "BY"] then do pure ["ORDER BY " ++ (← orderItems g)] else pure []
  let limit ← if ← keyword "LIMIT" then do pure ["LIMIT " ++ (← g.term 0).render] else pure []
  let overflow ← overflowClause g
  let late ← nullClause
  let late := late ++ (← returningClause)
  expectSymbol ")"
  return (if all then some "ALL" else if distinct then some "DISTINCT" else none, args,
    early ++ order ++ limit ++ overflow ++ late)

/-- A call after the name of its function. -/
def call (g : Grammar) (f : List Name) (braced : Bool) : Read Term := do
  expectSymbol "("
  let first ← arguments g
  let second ← if ← symbol "(" then some <$> arguments g else pure none
  let params := second.map fun _ =>
    callText [] (some (renderArgs first.2.1)) { quantifier := first.1, clauses := first.2.2 }
  let (quantifier, args, clauses) := second.getD first
  let within ← if ← keywords ["WITHIN", "GROUP"] then
      some <$> parens do
        expectKeywords ["ORDER", "BY"]
        orderItems g
    else pure none
  let nulls ← match ← oneOf ["RESPECT", "IGNORE"] with
    | some w => do
      expectKeyword "NULLS"
      pure (some s!"{w} NULLS")
    | none => pure none
  let window ← if ← keyword "OVER" then
      if ← symbol "(" then some <$> windowSpec g else do pure (some (← name).render)
    else pure none
  return .call f (some args) { params, quantifier, clauses, within, nulls, window, braced }

/-! ## Expressions that a word begins -/

def branchesFrom (g : Grammar) : Nat → Read (List (Term × Term))
  | 0 => fail
  | fuel + 1 => do
    let condition ← g.term 0
    expectKeyword "THEN"
    let result ← g.term 0
    if ← keyword "WHEN" then return (condition, result) :: (← branchesFrom g fuel) else return [(condition, result)]

def caseTerm (g : Grammar) : Read Term := do
  let operand ← if ← keyword "WHEN" then pure none else do
    let e ← g.term 0
    expectKeyword "WHEN"
    pure (some e)
  let branches ← branchesFrom g ((← left) + 1)
  let otherwise ← if ← keyword "ELSE" then some <$> g.term 0 else pure none
  expectKeyword "END"
  return .caseOf operand branches otherwise

def convert (g : Grammar) : Read Term := parens do
  let e ← g.term 0
  if ← keyword "USING" then return .other s!"CONVERT({e.render} USING {pathText (← path)})"
  else
    expectSymbol ","
    let t ← DataType.read
    let charset ← if ← keywords ["CHARACTER", "SET"] then do pure (" CHARACTER SET " ++ pathText (← path)) else pure ""
    return .other s!"CONVERT({e.render}, {t.render}{charset})"

/-- The format of a cast. -/
def castFormat : Read (Option String) := do
  if ← keyword "FORMAT" then
    let v ← literal
    if ← keywords ["AT", "TIME", "ZONE"] then return some s!"{v.render} AT TIME ZONE {(← literal).render}"
    else return some v.render
  else return none

def cast (g : Grammar) (kind : CastKind) : Read Term := parens do
  let e ← g.term 0
  expectKeyword "AS"
  let t ← DataType.read
  return .cast kind e t.render (← castFormat)

def existsTerm (g : Grammar) (negated : Bool) : Read Term := parens do
  return .other (wordIf negated "NOT " ++ "EXISTS (" ++ (← g.query).render ++ ")")

def extract (g : Grammar) : Read Term := parens do
  let field ← momentField
  expectKeyword "FROM"
  return .other s!"EXTRACT({field} FROM {(← g.term 0).render})"

/-- A rounding to whole numbers, to a field of a moment or to a number of digits. -/
def rounding (g : Grammar) (make : Term → Option RoundingUnit → Term) : Read Term := parens do
  let e ← g.term 0
  if ← keyword "TO" then return make e (some (.field (← momentField)))
  else if ← symbol "," then
    match ← literal with
    | .number n long => return make e (some (.scale (.number n long)))
    | _ => fail
  else return make e none

def position (g : Grammar) : Read Term := parens do
  let part ← g.term betweenLevel
  expectKeyword "IN"
  return .position part (← g.term 0)

def substring (g : Grammar) (short : Bool) : Read Term := parens do
  let e ← g.term 0
  let comma ← symbol ","
  let start ← if comma then some <$> g.term 0 else if ← keyword "FROM" then some <$> g.term 0 else pure none
  let withLength ← if ← keyword "FOR" then pure true else symbol ","
  let length ← if withLength then some <$> g.term 0 else pure none
  return .substring e start length comma short

def overlay (g : Grammar) : Read Term := parens do
  let e ← g.term 0
  expectKeyword "PLACING"
  let what ← g.term 0
  expectKeyword "FROM"
  let start ← g.term 0
  let length ← if ← keyword "FOR" then do pure (" FOR " ++ (← g.term 0).render) else pure ""
  return .other s!"OVERLAY({e.render} PLACING {what.render} FROM {start.render}{length})"

def trim (g : Grammar) : Read Term := parens do
  let side ← match ← oneOf ["BOTH", "LEADING", "TRAILING"] with
    | some "BOTH" => pure (some TrimSide.both)
    | some "LEADING" => pure (some TrimSide.leading)
    | some _ => pure (some TrimSide.trailing)
    | none => pure none
  let e ← g.term 0
  if ← keyword "FROM" then return .trim side (some e) (← g.term 0) else return .trim side none e

def arrayTerm (g : Grammar) (named : Bool) : Read Term := do
  let items ← commasUntil "]" (g.term 0)
  expectSymbol "]"
  return .array named items

def notTerm (g : Grammar) : Read Term := do
  if ← keyword "EXISTS" then existsTerm g true else return .unary .not (← g.term notLevel)

/-- The functions that are called without parentheses too. -/
def clockWords : List String := ["CURRENT_TIMESTAMP", "CURRENT_TIME", "CURRENT_DATE", "LOCALTIME", "LOCALTIMESTAMP"]

def clockCall (g : Grammar) (w : Name) : Read Term := do
  if ← symbol "(" then
    let (quantifier, args, clauses) ← arguments g
    return .call [w] (some args) { quantifier, clauses }
  else return .call [w] none {}

/-- The expression that a keyword begins; nothing if the word begins none. -/
def reserved (g : Grammar) (w : Name) : Read (Option Term) := do
  match (keywordOf (.word w.text w.quote)).getD "" with
  | "TRUE" => return some (.literal (.bool true))
  | "FALSE" => return some (.literal (.bool false))
  | "NULL" => return some (.literal .null)
  | "CASE" => some <$> caseTerm g
  | "CONVERT" => some <$> convert g
  | "CAST" => some <$> cast g .cast
  | "TRY_CAST" => some <$> cast g .tryCast
  | "SAFE_CAST" => some <$> cast g .safeCast
  | "EXISTS" => some <$> existsTerm g false
  | "EXTRACT" => some <$> extract g
  | "CEIL" => some <$> rounding g .ceiling
  | "FLOOR" => some <$> rounding g .floor
  | "POSITION" =>
    if isSymbol "(" (← peek?) then
      match ← attempt (position g) with
      | some e => return some e
      | none => some <$> call g [w] false
    else return none
  | "SUBSTR" => some <$> substring g true
  | "SUBSTRING" => some <$> substring g false
  | "OVERLAY" => some <$> overlay g
  | "TRIM" => some <$> trim g
  | "INTERVAL" => some <$> interval g
  | "ARRAY" => if ← symbol "[" then some <$> arrayTerm g true else return none
  | "NOT" => some <$> notTerm g
  | k => if clockWords.contains k then some <$> clockCall g w else return none

/-- The words that are no names where an expression is expected. -/
def noNames : List String := ["EXISTS", "INTERVAL", "STRUCT", "TRIM"]

/-- The expression that a name begins. -/
def named (g : Grammar) (w : Name) : Read Term := do
  match ← peek? with
  | some (.symbol "(") => call g [w] false
  | some (.symbol "->") =>
    skip
    return .other s!"{w.render} -> {(← g.term 0).render}"
  | some (.text _) | some (.hex _) =>
    if w.text.startsWith "_" then return .other s!"{w.render} {(← literal).render}" else return .name w
  | _ => return .name w

/-! ## Expressions that a symbol begins -/

/-- A function with parameters in parentheses, after the opening one. -/
def parenLambda (g : Grammar) : Read Term := do
  let params ← commas name
  expectSymbol ")"
  expectSymbol "->"
  return .other ("(" ++ String.intercalate ", " (params.map Name.render) ++ ") -> " ++ (← g.term 0).render)

/-- What stands in parentheses, after the opening one. -/
def parenthesized (g : Grammar) : Read Term := do
  if ← peekQuery then
    let q ← g.query
    expectSymbol ")"
    return .other ("(" ++ q.render ++ ")")
  else
    match ← attempt (parenLambda g) with
    | some e => return e
    | none =>
      let items ← commas (g.term 0)
      expectSymbol ")"
      match items with
      | [e] => return .nested e
      | _ => return .other ("(" ++ String.intercalate ", " (items.map Term.render) ++ ")")

/-- A moment in braces. -/
def bracedMoment : Read Term := do
  match ← next? with
  | some (.word w none) =>
    if ["d", "t", "ts"].contains w.toLower then
      match ← literal with
      | .text s => return .other ("\x7b" ++ w.toLower ++ " " ++ inQuotes '\'' s ++ "\x7d")
      | _ => fail
    else fail
  | _ => fail

def bracedCall (g : Grammar) : Read Term := do
  expectKeyword "FN"
  call g (← path) true

def entry (g : Grammar) : Read String := do
  let n ← name
  expectSymbol ":"
  return s!"{n.render}: {(← g.term 0).render}"

/-- What stands in braces, after the opening one. -/
def braced (g : Grammar) : Read Term := do
  match ← attempt (bracedCall g) with
  | some e =>
    expectSymbol "\x7d"
    return e
  | none =>
    match ← attempt bracedMoment with
    | some e =>
      expectSymbol "\x7d"
      return e
    | none =>
      let entries ← commasUntil "\x7d" (entry g)
      expectSymbol "\x7d"
      return .other ("\x7b" ++ String.intercalate ", " entries ++ "\x7d")

/-- An expression with the collation after it. -/
def collated (e : Term) : Read Term := do
  if ← keyword "COLLATE" then return .other s!"{e.render} COLLATE {pathText (← path)}" else return e

/-- An expression that a word begins.  A word that does not begin what its keyword promises may still be a name. -/
def wordTerm (g : Grammar) (w : Name) : Read Term := do
  match ← outcome (reserved g w) with
  | .ok (some e) => collated e
  | .ok none => collated (← named g w)
  | .error stop =>
    if noNames.contains ((keywordOf (.word w.text w.quote)).getD "") then throw stop
    else
      match ← outcome (named g w) with
      | .ok e => return e
      | .error _ => throw stop

/-- An expression without operators after it. -/
def operand (g : Grammar) : Read Term := do
  match ← attempt (typed g) with
  | some e => return e
  | none =>
    match ← next? with
    | some (.word w q) => wordTerm g ⟨w, q⟩
    | some (.symbol "[") => collated (← arrayTerm g false)
    | some (.symbol "-") => collated (.unary .minus (← g.term mulLevel))
    | some (.symbol "+") => collated (.unary .plus (← g.term mulLevel))
    | some (.symbol "~") => collated (.unary (.other "~") (← g.term addLevel))
    | some (.symbol "(") => collated (← parenthesized g)
    | some (.symbol "\x7b") => collated (← braced g)
    | some (.symbol ":") => collated (.literal (.placeholder (":" ++ (← placeholderName))))
    | some (.symbol "@") => collated (.literal (.placeholder ("@" ++ (← placeholderName))))
    | some (.symbol _) => fail
    | some (.stray _) => fail
    | none => fail
    | some (.number n long) => collated (.literal (.number n long))
    | some (.text s) => collated (.literal (.text s))
    | some (.national s) => collated (.literal (.national s))
    | some (.hex ds) => collated (.literal (.hex ds))
    | some (.dollar tag s) => collated (.literal (.dollar tag s))
    | some (.placeholder n) => collated (.literal (.placeholder n))

/-! ## Steps into a value -/

/-- The inside of a subscript, with the closing bracket. -/
def subscript (g : Grammar) : Read String := do
  let lower ← if ← symbol ":" then pure none else some <$> g.term 0
  let lowerText := (lower.map Term.render).getD ""
  if ← symbol "]" then return (if lower.isSome then s!"[{lowerText}]" else "[:]")
  else
    if lower.isSome then expectSymbol ":"
    if ← symbol "]" then return s!"[{lowerText}:]"
    else
      let upper ← g.term 0
      if ← symbol "]" then return s!"[{lowerText}:{upper.render}]"
      else
        expectSymbol ":"
        if ← symbol "]" then return s!"[{lowerText}:{upper.render}]"
        else
          let stride ← g.term 0
          expectSymbol "]"
          return s!"[{lowerText}:{upper.render}:{stride.render}]"

/-- The steps after an expression: expressions after points, and subscripts. -/
def stepsFrom (g : Grammar) : Nat → Read (List (Term ⊕ String))
  | 0 => fail
  | fuel + 1 => do
    let t ← peek?
    if isSymbol "." t then
      match ← peekAt? 1 with
      | some (.symbol "*") => return []
      | some (.text s) =>
        skip
        skip
        return .inl (.name ⟨s, some '\''⟩) :: (← stepsFrom g fuel)
      | some (.placeholder s) =>
        skip
        skip
        return .inl (.name ⟨s, none⟩) :: (← stepsFrom g fuel)
      | _ =>
        skip
        let e ← g.term pointLevel
        let rest ← stepsFrom g fuel
        match e with
        | .path parts => return (parts.map fun n => .inl (.name n)) ++ rest
        | e => return .inl e :: rest
    else if isSymbol "[" t then
      skip
      let s ← subscript g
      return .inr s :: (← stepsFrom g fuel)
    else return []

def nameOf? : Term ⊕ String → Option Name
  | .inl (.name n) => some n
  | _ => none

def stepText : Term ⊕ String → String
  | .inl e => "." ++ e.render
  | .inr s => s

/-- An expression with steps: a path if all are names, a call if the last one is a call and the others are names. -/
def withSteps (root : Term) (steps : List (Term ⊕ String)) : Term :=
  if steps.isEmpty then root
  else
    match root, steps.mapM nameOf? with
    | .name n, some parts => .path (n :: parts)
    | _, _ =>
      match root, steps.dropLast.mapM nameOf?, steps.getLast? with
      | .name n, some parts, some (.inl (.call f args p)) => .call (n :: parts ++ f) args p
      | _, _, _ => .other (root.render ++ String.join (steps.map stepText))

/-! ## Operators -/

/-- The escape character of a pattern. -/
def escape : Read (Option Literal) := do if ← keyword "ESCAPE" then some <$> literal else return none

/-- A list, a query or an array after `IN`. -/
def membership (g : Grammar) (e : Term) (negated : Bool) : Read Term := do
  let start := e.render ++ wordIf negated " NOT" ++ " IN "
  if ← keyword "UNNEST" then return .other s!"{start}UNNEST({(← parens (g.term 0)).render})"
  else
    parens do
      match ← attempt g.query with
      | some q => return .other s!"{start}({q.render})"
      | none => return .inList e negated (← commas (g.term 0))

/-- A condition on the expression before it. -/
def condition (g : Grammar) (e : Term) : Read Term := do
  let negated ← keyword "NOT"
  let regexp ← keyword "REGEXP"
  let rlike ← keyword "RLIKE"
  let null ← keyword "NULL"
  let start := e.render ++ wordIf negated " NOT"
  if regexp || rlike then
    let word := if regexp then "REGEXP" else "RLIKE"
    return .other s!"{start} {word} {(← g.term likeLevel).render}"
  else if negated && null then return .isNull e true
  else if ← keyword "IN" then membership g e negated
  else if ← keyword "BETWEEN" then
    let low ← g.term betweenLevel
    expectKeyword "AND"
    return .between e negated low (← g.term betweenLevel)
  else if ← keyword "LIKE" then
    let any ← keyword "ANY"
    let pattern ← g.term likeLevel
    return .like false e negated any pattern (← escape)
  else if ← keyword "ILIKE" then
    let any ← keyword "ANY"
    let pattern ← g.term likeLevel
    return .like true e negated any pattern (← escape)
  else if ← keywords ["SIMILAR", "TO"] then
    let pattern ← g.term likeLevel
    return .other (s!"{start} SIMILAR TO {pattern.render}" ++ after " ESCAPE " ((← escape).map Literal.render))
  else fail

/-- A test after `IS`. -/
def isTest (g : Grammar) (e : Term) : Read Term := do
  if ← keyword "NULL" then return .isNull e false
  else if ← keywords ["NOT", "NULL"] then return .isNull e true
  else
    let start := e.render ++ " IS " ++ wordIf (← keyword "NOT") "NOT "
    match ← oneOf ["TRUE", "FALSE", "UNKNOWN"] with
    | some k => return .other (start ++ k)
    | none =>
      if ← keywords ["DISTINCT", "FROM"] then return .other s!"{start}DISTINCT FROM {(← g.term 0).render}"
      else
        let form ← oneOf ["NFC", "NFD", "NFKC", "NFKD"]
        expectKeyword "NORMALIZED"
        return .other (start ++ after "" (form.map (· ++ " ")) ++ "NORMALIZED")

/-- The path into a document after a colon. -/
def documentPath (g : Grammar) : Nat → Read String
  | 0 => fail
  | fuel + 1 => do
    if ← symbol "." then
      let n ← name
      return "." ++ n.render ++ (← documentPath g fuel)
    else if ← symbol "[" then
      let e ← g.term 0
      expectSymbol "]"
      return "[" ++ e.render ++ "]" ++ (← documentPath g fuel)
    else return ""

/-- The right operand of an operator. -/
def rightOperand (g : Grammar) (e : Term) (op : BinaryOp) (level : Nat) : Read Term := do
  match ← oneOf ["ANY", "ALL", "SOME"] with
  | some quantifier =>
    let start := s!"{e.render} {op.render} {quantifier}"
    if isSymbol "(" (← peek?) then
      let isQuery := match (← peekAt? 1).bind keywordOf with
        | some k => k == "SELECT" || k == "WITH"
        | none => false
      let right ← if isQuery then g.term level else do pure (Term.nested (← parens (g.term level)))
      if quantifiable op then return .other (start ++ right.render) else fail
    else fail
  | none => return .binary e op (← g.term level)

/-- An operator of a level, and what it is applied to besides `e`. -/
def operator (g : Grammar) (e : Term) (level : Nat) : Read Term := do
  let start ← get
  match ← next? with
  | some (.symbol "::") => return .cast .colons e (← DataType.read).render none
  | some (.symbol ":") =>
    let n ← name
    return .other s!"{e.render}:{n.render}{← documentPath g ((← left) + 1)}"
  | some (.symbol s) =>
    match symbolOps.lookup s with
    | some (op, _) => rightOperand g e op level
    | none => fail
  | some t =>
    match keywordOf t with
    | some "IS" => isTest g e
    | some "AT" =>
      expectKeywords ["TIME", "ZONE"]
      return .other s!"{e.render} AT TIME ZONE {(← g.term level).render}"
    | some "MEMBER" =>
      expectKeyword "OF"
      return .other s!"{e.render} MEMBER OF({(← parens (g.term 0)).render})"
    | some k =>
      match wordOps.lookup k with
      | some (op, _) => rightOperand g e op level
      | none =>
        if k == "NOT" || (conditionLevels.lookup k).isSome then
          set start
          condition g e
        else fail
    | none => fail
  | none => fail

/-- The operators that bind tighter than a precedence, after the expression that they are applied to. -/
def operatorsFrom (g : Grammar) (level : Nat) : Nat → Term → Read Term
  | 0, _ => fail
  | fuel + 1, e => do
    let next ← nextLevel
    if next ≤ level || isSymbol "." (← peek?) then return e
    else operatorsFrom g level fuel (← operator g e next)

/-- **An expression**, up to an operator that does not bind tighter than a precedence. -/
def readTerm (g : Grammar) (level : Nat) : Read Term := do
  let root ← operand g
  let steps ← stepsFrom g ((← left) + 1)
  operatorsFrom g level ((← left) + 1) (withSteps root steps)

end Grammar
end Sql
end RowSql
