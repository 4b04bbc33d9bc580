import RowSql.Sql.Grammar.Relation
/-!
# Query — reading queries

`grammar d` reads what may be nested `d` deep: expressions, queries and relations each take one level.
-/
namespace RowSql
namespace Sql
namespace Grammar

open Read

/-! ## Items -/

/-- The words that do not name an item when `AS` is not there. -/
def notItemNames : List String :=
  ["WITH", "EXPLAIN", "ANALYZE", "SELECT", "WHERE", "GROUP", "SORT", "HAVING", "ORDER", "TOP", "LATERAL", "VIEW",
   "LIMIT", "OFFSET", "FETCH", "UNION", "EXCEPT", "EXCLUDE", "INTERSECT", "MINUS", "CLUSTER", "DISTRIBUTE",
   "RETURNING", "FROM", "INTO", "END"]

/-- A column that a star is given another expression for. -/
def replacement (g : Grammar) : Read String := do
  let e ← g.term 0
  let mark := wordIf (← keyword "AS") "AS "
  return s!"{e.render} {mark}{(← name).render}"

/-- What a star leaves out and replaces. -/
def starOptions (g : Grammar) : Read String := do
  let except ← if ← keyword "EXCEPT" then
      if isSymbol "(" (← peek?) then do
        let names ← parens (commas name)
        pure (" EXCEPT (" ++ String.intercalate ", " (names.map Name.render) ++ ")")
      else do pure s!" EXCEPT ({(← name).render})"
    else pure ""
  let replace ← if ← keyword "REPLACE" then do
      pure (" REPLACE (" ++ String.intercalate ", " (← parens (commas (replacement g))) ++ ")")
    else pure ""
  return except ++ replace

/-- An expression that begins with the word `FROM` is one that is missing. -/
def isMissing : Term → Bool
  | .name ⟨w, none⟩ => keywordOf (.word w none) == some "FROM"
  | _ => false

/-- An item of a selection. -/
def selectItem (g : Grammar) : Read SelectItem := do
  match ← termOrStar g with
  | .inr star => return .star (star ++ (← starOptions g))
  | .inl e =>
    if isMissing e then fail
    return .term e (← givenName notItemNames)

/-! ## Selections -/

/-- The rows that are kept of equal ones: nothing is said, or none but the first. -/
def distinct (g : Grammar) : Read (Option String) := do
  let all ← keyword "ALL"
  if !(← keyword "DISTINCT") then return none
  if all then fail
  if ← keyword "ON" then
    let items ← parens (commasUntil ")" (g.term 0))
    return some ("DISTINCT ON (" ++ String.intercalate ", " (items.map Term.render) ++ ")")
  else return some "DISTINCT"

/-- The number of rows that are kept. -/
def top (g : Grammar) : Read (Option String) := do
  if !(← keyword "TOP") then return none
  let count ← if isSymbol "(" (← peek?) then do pure s!"({(← parens (g.term 0)).render})" else wholeNumber
  let percent := wordIf (← keyword "PERCENT") " PERCENT"
  let ties := wordIf (← keywords ["WITH", "TIES"]) " WITH TIES"
  return some (count ++ percent ++ ties)

/-- Where the rows are put. -/
def into : Read (Option String) := do
  if !(← keyword "INTO") then return none
  let temporary := wordIf (← oneOf ["TEMP", "TEMPORARY"]).isSome "TEMPORARY "
  let unlogged := wordIf (← keyword "UNLOGGED") "UNLOGGED "
  let table := wordIf (← keyword "TABLE") "TABLE "
  return some (temporary ++ unlogged ++ table ++ pathText (← path))

/-- A view that is made of every row. -/
def viewsFrom (g : Grammar) : Nat → Read (List String)
  | 0 => fail
  | fuel + 1 => do
    if ← keywords ["LATERAL", "VIEW"] then
      let outer := wordIf (← keyword "OUTER") " OUTER"
      let e ← g.term 0
      let n ← path
      let columns ← commas (givenName ["WHERE", "GROUP", "CLUSTER", "HAVING", "LATERAL"])
      let names := (columns.filterMap id).map Name.render
      let list := wordIf (!names.isEmpty) (" AS " ++ String.intercalate ", " names)
      return s!" LATERAL VIEW{outer} {e.render} {pathText n}{list}" :: (← viewsFrom g fuel)
    else return []

/-- Expressions in parentheses, or one without them if that is allowed. -/
def tuple (g : Grammar) (alone : Bool) : Read (List Term) := do
  if alone && !isSymbol "(" (← peek?) then return [← g.term 0] else parens (commasUntil ")" (g.term 0))

def tupleText (alone : Bool) (es : List Term) : String :=
  match alone, es with
  | true, [e] => e.render
  | _, _ => "(" ++ String.intercalate ", " (es.map Term.render) ++ ")"

/-- An expression to group by. -/
def groupItem (g : Grammar) : Read String := do
  let sets (word : String) (alone : Bool) : Read String := do
    let items ← parens (commas (tuple g alone))
    return word ++ " (" ++ String.intercalate ", " (items.map (tupleText alone)) ++ ")"
  if ← keywords ["GROUPING", "SETS"] then sets "GROUPING SETS" false
  else if ← keyword "CUBE" then sets "CUBE" true
  else if ← keyword "ROLLUP" then sets "ROLLUP" true
  else if isSymbol "(" (← peek?) && isSymbol ")" (← peekAt? 1) then
    skip
    skip
    return "()"
  else return (← g.term 0).render

def groupModifiers : Nat → Read String
  | 0 => fail
  | fuel + 1 => do
    if ← keyword "WITH" then
      match ← oneOf ["ROLLUP", "CUBE", "TOTALS"] with
      | some k => return s!" WITH {k}{← groupModifiers fuel}"
      | none => fail
    else return ""

/-- What rows are grouped by. -/
def groupBy (g : Grammar) : Read (Option String) := do
  if !(← keywords ["GROUP", "BY"]) then return none
  let items ← if ← keyword "ALL" then pure "ALL" else String.intercalate ", " <$> commas (groupItem g)
  return some (items ++ (← groupModifiers ((← left) + 1)))

/-- A list after two keywords. -/
def listAfter (ks : List String) (items : Read String) : Read (Option String) := do
  if ← keywords ks then some <$> items else return none

/-- An expression after a keyword. -/
def termAfter (g : Grammar) (k : String) : Read (Option Term) := do
  if ← keyword k then some <$> g.term 0 else return none

/-- A window with a name. -/
def namedWindow (g : Grammar) : Read String := do
  let n ← name
  expectKeyword "AS"
  if ← symbol "(" then return s!"{n.render} AS {← windowSpec g}" else return s!"{n.render} AS {(← name).render}"

def windows (g : Grammar) : Read (Option String) :=
  listAfter ["WINDOW"] (String.intercalate ", " <$> commas (namedWindow g))

/-- **A selection.** -/
def select (g : Grammar) : Read Select := do
  let first ← if ← keyword "FROM" then some <$> commas (source g) else pure none
  if first.isSome && !(← peekKeyword ["SELECT"]) then
    return { (default : Select) with source := first.getD [], sourceFirst := true }
  expectKeyword "SELECT"
  let distinct ← distinct g
  let top ← top g
  let items ← commas (selectItem g)
  let into ← into
  let later ← if first.isSome then pure none else if ← keyword "FROM" then some <$> commas (source g) else pure none
  let views ← viewsFrom g ((← left) + 1)
  let prewhere ← termAfter g "PREWHERE"
  let condition ← termAfter g "WHERE"
  let group ← groupBy g
  let cluster ← listAfter ["CLUSTER", "BY"] (termsText g)
  let distribute ← listAfter ["DISTRIBUTE", "BY"] (termsText g)
  let sort ← listAfter ["SORT", "BY"] (orderItems g)
  let having ← termAfter g "HAVING"
  let before ← windows g
  let qualify ← termAfter g "QUALIFY"
  let behind ← if before.isNone && qualify.isSome then windows g else pure none
  return { distinct, top, items, into, sourceFirst := first.isSome, source := (first.or later).getD [], views, prewhere,
           condition, group, cluster, distribute, sort, having, windows := before.or behind, qualify,
           windowsFirst := before.isSome }

/-! ## Queries -/

/-- The operators between queries, and how tight they bind. -/
def setOperators : List (String × Nat) := [("UNION", 10), ("EXCEPT", 10), ("MINUS", 10), ("INTERSECT", 20)]

/-- What an operator between queries does with equal rows. -/
def quantifier : Read String := do
  if ← keywords ["DISTINCT", "BY", "NAME"] then return " DISTINCT BY NAME"
  else if ← keywords ["BY", "NAME"] then return " BY NAME"
  else if ← keywords ["ALL", "BY", "NAME"] then return " ALL BY NAME"
  else if ← keyword "ALL" then return " ALL"
  else return wordIf (← keyword "DISTINCT") " DISTINCT"

/-- A row of values, with the word before it. -/
def valueRow (g : Grammar) : Read (Bool × String) := do
  let marked ← keyword "ROW"
  return (marked, s!"({← parens (termsText g)})")

/-- The rows of values after their keyword. -/
def valueRows (g : Grammar) (word : String) : Read QueryBody := do
  let rows ← commas (valueRow g)
  let mark := wordIf (rows.any Prod.fst) "ROW"
  return .other (word ++ " " ++ String.intercalate ", " (rows.map fun r => mark ++ r.2))

/-- A relation after the word `TABLE`.  Three tokens are taken, a path or not. -/
def wholeTable : Read QueryBody := do
  let a ← next?
  let b ← next?
  let c ← next?
  match a, isSymbol "." b, c with
  | some (.word schema _), true, some (.word table _) => return .other s!"TABLE {schema}.{table}"
  | _, true, _ => fail
  | some (.word table _), false, _ => return .other s!"TABLE {table}"
  | _, false, _ => fail

/-- One query, without operators after it. -/
def simpleBody (g : Grammar) : Read QueryBody := do
  if ← peekKeyword ["SELECT", "FROM"] then .select <$> select g
  else if ← symbol "(" then
    let q ← g.query
    expectSymbol ")"
    return .other s!"({q.render})"
  else
    match ← oneOf ["VALUES", "VALUE", "TABLE"] with
    | some "TABLE" => wholeTable
    | some word => valueRows g word
    | none => fail

mutual

/-- Queries joined by operators that bind tighter than a level. -/
def body (g : Grammar) : (fuel level : Nat) → Read QueryBody
  | 0, _ => fail
  | fuel + 1, level => do bodyAfter g fuel level (← simpleBody g)

/-- The operators after a query. -/
def bodyAfter (g : Grammar) : (fuel level : Nat) → QueryBody → Read QueryBody
  | 0, _, _ => fail
  | fuel + 1, level, l => do
    let next ← peek?
    match setOperators.find? fun op => isKeyword op.1 next with
    | none => return l
    | some (op, tight) =>
      if tight ≤ level then return l
      skip
      let quantifier ← quantifier
      let r ← body g fuel tight
      bodyAfter g fuel level (.other s!"{l.render} {op}{quantifier} {r.render}")

end

/-- A query with a name. -/
def namedQuery (g : Grammar) : Read String := do
  let n ← name
  let columns ← if isKeyword "AS" (← peek?) then pure "" else namedColumns
  expectKeyword "AS"
  let q ← parens g.query
  let source ← if ← keyword "FROM" then do pure s!" FROM {(← name).render}" else pure ""
  return s!"{n.render}{columns} AS ({q.render}){source}"

/-- The queries that are given names, after the word `WITH`. -/
def namedQueries (g : Grammar) : Read String := do
  let recursive := wordIf (← keyword "RECURSIVE") "RECURSIVE "
  return recursive ++ String.intercalate ", " (← commas (namedQuery g))

/-- A column that is interpolated. -/
def interpolated (g : Grammar) : Read String := do
  let n ← name
  return n.render ++ after " AS " ((← termAfter g "AS").map Term.render)

def orderBy (g : Grammar) : Read (Option String) := do
  if !(← keywords ["ORDER", "BY"]) then return none
  if ← keyword "ALL" then return some ("ALL" ++ (← orderOptions))
  let items ← orderItems g
  if ← keyword "INTERPOLATE" then
    if isSymbol "(" (← peek?) then
      let columns ← parens (commasUntil ")" (interpolated g))
      return some (items ++ " INTERPOLATE (" ++ String.intercalate ", " columns ++ ")")
    else return some (items ++ " INTERPOLATE")
  else return some items

/-- The number of rows that are left out. -/
def offset (g : Grammar) : Read (Option String) := do
  if ← keyword "OFFSET" then
    let e ← g.term 0
    return some (s!"OFFSET {e.render}" ++ after " " (← oneOf ["ROW", "ROWS"]))
  else return none

/-- Which of the rows are kept.  All of them, from the first on, is no clause. -/
def limit (g : Grammar) : Read (Option String) := do
  let before ← offset g
  let count ← if ← keyword "LIMIT" then
      if ← keyword "ALL" then pure (some none) else do pure (some (some (← g.term 0).render))
    else pure none
  match before, count with
  | none, some (some start) =>
    if ← symbol "," then return some s!"LIMIT {start}, {(← g.term 0).render}"
  | _, _ => pure ()
  let keys ← if count.isSome then listAfter ["BY"] (termsText g) else pure none
  let start ← if before.isNone && count.isSome then offset g else pure before
  let parts := [(count.getD none).map ("LIMIT " ++ ·), start].filterMap id
  if parts.isEmpty && keys.isNone then return none
  else return some (String.intercalate " " parts ++ after " BY " keys)

/-- How many of the rows are fetched. -/
def fetch : Read (Option String) := do
  if !(← keyword "FETCH") then return none
  let _ ← oneOf ["FIRST", "NEXT"]
  let count ← match ← oneOf ["ROW", "ROWS"] with
    | some _ => pure ""
    | none => do
      let v ← literal
      let percent := wordIf (← keyword "PERCENT") " PERCENT"
      let _ ← oneOf ["ROW", "ROWS"]
      pure (" " ++ v.render ++ percent)
  if ← keyword "ONLY" then return some s!"FIRST{count} ROWS ONLY"
  else if ← keywords ["WITH", "TIES"] then return some s!"FIRST{count} ROWS WITH TIES"
  else fail

/-- An option of rows that are given back as a document. -/
def documentOption : Read String := do
  if ← keywords ["BINARY", "BASE64"] then return "BINARY BASE64"
  match ← oneOf ["ELEMENTS", "TYPE", "INCLUDE_NULL_VALUES", "WITHOUT_ARRAY_WRAPPER", "ROOT"] with
  | some "ROOT" => return s!"ROOT('{← parens quotedText}')"
  | some k => return k
  | none => fail

/-- What rows are given back as. -/
def document : Read (Option String) := do
  match ← oneOf ["XML", "JSON", "BROWSE"] with
  | none => return none
  | some "BROWSE" => return some "BROWSE"
  | some kind =>
    match ← oneOf (if kind == "XML" then ["RAW", "AUTO", "EXPLICIT", "PATH"] else ["AUTO", "PATH"]) with
    | none => fail
    | some form =>
      let element ← if (form == "RAW" || kind == "XML" && form == "PATH") && isSymbol "(" (← peek?) then do
          pure s!" ('{← parens quotedText}')"
        else pure ""
      let options ← if ← symbol "," then commas documentOption else pure []
      return some (s!"{kind} {form}{element}" ++ String.join (options.map (", " ++ ·)))

/-- How rows are locked. -/
def lock : Read String := do
  match ← oneOf ["UPDATE", "SHARE"] with
  | none => fail
  | some kind =>
    let relation ← if ← keyword "OF" then do pure (" OF " ++ pathText (← path)) else pure ""
    let waiting ← if ← keyword "NOWAIT" then pure " NOWAIT"
      else do pure (wordIf (← keywords ["SKIP", "LOCKED"]) " SKIP LOCKED")
    return kind ++ relation ++ waiting

/-- The clauses after `FOR`. -/
def locksFrom : Nat → Read (List String)
  | 0 => fail
  | fuel + 1 => do
    if ← keyword "FOR" then
      match ← document with
      | some d => return ["FOR " ++ d]
      | none =>
        let l ← lock
        return ("FOR " ++ l) :: (← locksFrom fuel)
    else return []

def format : Read (Option String) := do
  if ← keyword "FORMAT" then
    if ← keyword "NULL" then return some "NULL" else return some (← name).render
  else return none

/-- **A query.** -/
def readQuery (g : Grammar) : Read Query := do
  let named ← listAfter ["WITH"] (namedQueries g)
  let body ← body g (2 * (← left) + 2) 0
  let order ← orderBy g
  let limit ← limit g
  let settings ← settings g
  let fetch ← fetch
  let locks ← locksFrom ((← left) + 1)
  let format ← format
  return { named, body, order, limit, settings, fetch, locks, format }

end Grammar

/-- **The readers of what may be nested a number of levels deep.** -/
def grammar : Nat → Grammar
  | 0 =>
    { term := fun _ => throw .tooDeep
      query := throw .tooDeep
      relation := throw .tooDeep }
  | depth + 1 =>
    let inner := grammar depth
    { term := Grammar.readTerm inner
      query := Grammar.readQuery inner
      relation := Grammar.readRelation inner }

end Sql
end RowSql
