import RowSql.Sql.Grammar.Term
/-!
# Relation — reading the sources of rows

A source is a named relation, a call, a query in parentheses, or several of these with joins between.
-/
namespace RowSql
namespace Sql
namespace Grammar

open Read

/-- The words that do not name a relation when `AS` is not there. -/
def notRelationNames : List String :=
  ["WITH", "EXPLAIN", "ANALYZE", "SELECT", "WHERE", "GROUP", "SORT", "HAVING", "ORDER", "PIVOT", "UNPIVOT", "TOP",
   "LATERAL", "VIEW", "LIMIT", "OFFSET", "FETCH", "UNION", "EXCEPT", "INTERSECT", "MINUS", "ON", "JOIN", "INNER",
   "CROSS", "FULL", "LEFT", "RIGHT", "NATURAL", "USING", "CLUSTER", "DISTRIBUTE", "GLOBAL", "ANTI", "SEMI",
   "RETURNING", "ASOF", "MATCH_CONDITION", "OUTER", "SET", "QUALIFY", "WINDOW", "END", "FOR", "PARTITION",
   "PREWHERE", "SETTINGS", "FORMAT", "START", "CONNECT", "MATCH_RECOGNIZE", "SAMPLE", "TABLESAMPLE", "FROM"]

/-- The name given to what stands before it: any word after `AS`, another word that is not one of `reserved`, or
a text. -/
def givenName (reserved : List String) : Read (Option Name) := do
  let marked ← keyword "AS"
  match ← peek? with
  | some (.word w q) =>
    if marked || !((keywordOf (.word w q)).map reserved.contains).getD false then
      skip
      return some ⟨w, q⟩
    else return none
  | some (.text s) =>
    skip
    return some ⟨s, some '\''⟩
  | _ => if marked then fail else return none

/-- A column of a relation that is given a name. -/
def namedColumn : Read String := do
  let n ← name
  let type ← attempt DataType.read
  return n.render ++ after " " (type.map DataType.render)

/-- The columns of a relation that is given a name. -/
def namedColumns : Read String := do
  if ← symbol "(" then
    let columns ← commas namedColumn
    expectSymbol ")"
    return " (" ++ String.intercalate ", " columns ++ ")"
  else return ""

/-- The name that a relation is given, and its columns. -/
def relationName : Read String := do
  match ← givenName notRelationNames with
  | some n => return s!" AS {n.render}{← namedColumns}"
  | none => return ""

/-- Settings of a query. -/
def settings (g : Grammar) : Read (Option String) := do
  if ← keyword "SETTINGS" then
    let items ← commas do
      let key ← name
      expectSymbol "="
      return s!"{key.render} = {(← g.term 0).render}"
    return some (String.intercalate ", " items)
  else return none

/-- The arguments of a relation that is called, with the closing parenthesis. -/
def relationArguments (g : Grammar) : Nat → Read (List String × Option String)
  | 0 => fail
  | fuel + 1 => do
    match ← settings g with
    | some s => return ([], some s)
    | none =>
      let a ← argument g
      if ← symbol "," then
        let (as, s) ← relationArguments g fuel
        return (a.render :: as, s)
      else return ([a.render], none)

def relationCall (g : Grammar) : Read String := do
  if !(← symbol "(") then return ""
  else if ← symbol ")" then return "()"
  else
    let (args, settings) ← relationArguments g ((← left) + 1)
    expectSymbol ")"
    let list := String.intercalate ", " args
    return "(" ++ list ++ after (wordIf (!args.isEmpty) ", " ++ "SETTINGS ") settings ++ ")"

/-- A sample of a relation. -/
def sample (g : Grammar) : Read String := do
  match ← oneOf ["TABLESAMPLE", "SAMPLE"] with
  | none => return ""
  | some word =>
    let method := after " " (← oneOf ["BERNOULLI", "ROW", "SYSTEM", "BLOCK"])
    let inParens ← symbol "("
    let quantity ← if inParens && (← keyword "BUCKET") then do
        let bucket ← wholeNumber
        expectKeywords ["OUT", "OF"]
        let total ← wholeNumber
        let on ← if ← keyword "ON" then do pure (" ON " ++ (← g.term 0).render) else pure ""
        pure s!"BUCKET {bucket} OUT OF {total}{on}"
      else do
        let size ← match ← attempt (g.term 0) with
          | some e => pure e.render
          | none => do
            match ← next? with
            | some (.word w _) => pure w
            | _ => fail
        let unit := after " " (← oneOf ["ROWS", "PERCENT"])
        pure (size ++ unit)
    if inParens then expectSymbol ")"
    let seed ← match ← oneOf ["REPEATABLE", "SEED"] with
      | some w => do pure s!" {w} ({(← parens literal).render})"
      | none => pure ""
    let start ← if ← keyword "OFFSET" then do pure (" OFFSET " ++ (← g.term 0).render) else pure ""
    let quantity := if inParens then "(" ++ quantity ++ ")" else quantity
    return s!" {word}{method} {quantity}{seed}{start}"

/-- A relation with a name, which may be called. -/
def namedRelation (g : Grammar) : Read Relation := do
  let n ← path
  let args ← relationCall g
  let ordinality ← keywords ["WITH", "ORDINALITY"]
  let given ← relationName
  let hints ← if (← peekKeyword ["WITH"]) && isSymbol "(" (← peekAt? 1) then do
      skip
      pure s!" WITH ({← parens (termsText g)})"
    else pure ""
  let taken ← sample g
  return ⟨pathText n ++ args ++ wordIf ordinality " WITH ORDINALITY" ++ given ++ hints ++ taken, false⟩

/-- A query as a relation, after its opening parenthesis. -/
def derived (g : Grammar) (lateral : Bool) : Read Relation := do
  let q ← g.query
  expectSymbol ")"
  return ⟨wordIf lateral "LATERAL " ++ "(" ++ q.render ++ ")" ++ (← relationName), false⟩

/-- What says which rows are joined. -/
def joinCondition (g : Grammar) : Read String := do
  if ← keyword "ON" then return " ON " ++ (← g.term 0).render
  else if ← keyword "USING" then
    let columns ← parens (commas path)
    return " USING(" ++ String.intercalate ", " (columns.map pathText) ++ ")"
  else return ""

/-- The words that begin a join, in canonical form; nothing if there is no join. -/
def joinWords (natural : Bool) : Read (Option String) := do
  match (← peek?).bind keywordOf with
  | some "JOIN" =>
    skip
    return some "JOIN"
  | some "INNER" =>
    expectKeywords ["INNER", "JOIN"]
    return some "INNER JOIN"
  | some "STRAIGHT_JOIN" =>
    skip
    return some "STRAIGHT_JOIN"
  | some "FULL" =>
    skip
    let _ ← keyword "OUTER"
    expectKeyword "JOIN"
    return some "FULL JOIN"
  | some "OUTER" => fail
  | some k =>
    if k == "ANTI" || k == "SEMI" then
      expectKeywords [k, "JOIN"]
      return some s!"{k} JOIN"
    else if k == "LEFT" || k == "RIGHT" then
      skip
      match ← oneOf ["OUTER", "SEMI", "ANTI"] with
      | some kind =>
        expectKeyword "JOIN"
        return some s!"{k} {kind} JOIN"
      | none =>
        expectKeyword "JOIN"
        return some s!"{k} JOIN"
    else if natural then fail else return none
  | none => if natural then fail else return none

/-- The joins after a relation, each with the blank before it. -/
def joinsFrom (g : Grammar) : Nat → Read String
  | 0 => fail
  | fuel + 1 => do
    let everywhere := wordIf (← keyword "GLOBAL") "GLOBAL "
    if ← keyword "CROSS" then
      match ← oneOf ["JOIN", "APPLY"] with
      | some k =>
        let r ← g.relation
        return s!" {everywhere}CROSS {k} {r.text}{← joinsFrom g fuel}"
      | none => fail
    else if ← keywords ["OUTER", "APPLY"] then
      let r ← g.relation
      return s!" {everywhere}OUTER APPLY {r.text}{← joinsFrom g fuel}"
    else if ← keyword "ASOF" then
      expectKeyword "JOIN"
      let r ← g.relation
      expectKeyword "MATCH_CONDITION"
      let e ← parens (g.term 0)
      let condition ← joinCondition g
      return s!" {everywhere}ASOF JOIN {r.text} MATCH_CONDITION ({e.render}){condition}{← joinsFrom g fuel}"
    else
      let natural ← keyword "NATURAL"
      match ← joinWords natural with
      | none => return ""
      | some words =>
        let r ← g.relation
        let condition ← if natural then pure "" else joinCondition g
        let start := everywhere ++ wordIf natural "NATURAL " ++ words
        return s!" {start} {r.text}{condition}{← joinsFrom g fuel}"

/-- A relation, and what is joined to it. -/
def relationWithJoins (g : Grammar) : Read (Relation × String) := do
  let r ← g.relation
  return (r, ← joinsFrom g ((← left) + 1))

/-- Joined relations in parentheses, after the opening one. -/
def nestedJoin (g : Grammar) : Read Relation := do
  let (r, joins) ← relationWithJoins g
  if joins.isEmpty && !r.isJoin then fail
  expectSymbol ")"
  return ⟨"(" ++ r.text ++ joins ++ ")" ++ (← relationName), true⟩

/-- **A relation.** -/
def readRelation (g : Grammar) : Read Relation := do
  if ← keyword "LATERAL" then
    if ← symbol "(" then derived g true
    else
      let n ← path
      expectSymbol "("
      let args ← commasUntil ")" (argument g)
      expectSymbol ")"
      let list := String.intercalate ", " (renderArgs args)
      return ⟨s!"LATERAL {pathText n}({list}){← relationName}", false⟩
  else if ← keyword "TABLE" then
    let e ← parens (g.term 0)
    return ⟨s!"TABLE({e.render}){← relationName}", false⟩
  else if ← symbol "(" then
    match ← attempt (derived g false) with
    | some r => return r
    | none => nestedJoin g
  else namedRelation g

/-- A source of rows, with what is joined to it. -/
def source (g : Grammar) : Read Source := do
  let (r, joins) ← relationWithJoins g
  return ⟨r.text ++ joins, !joins.isEmpty⟩

end Grammar
end Sql
end RowSql
