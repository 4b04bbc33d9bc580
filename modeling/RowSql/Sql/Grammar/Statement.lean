import RowSql.Sql.Grammar.Command
/-!
# Statement — reading a text of statements

Semicolons separate statements, and between two of them nothing need stand.  The word `END` after a statement
ends the text, whatever follows it.
-/
namespace RowSql
namespace Sql
namespace Statement

open Read

/-- The deepest nesting of statements, queries, relations and expressions. -/
def depthLimit : Nat := 50

/-- The words that ask for the plan of a statement, or for the columns of a relation. -/
def askingWords : List String := ["EXPLAIN", "DESCRIBE", "DESC"]

/-- What is asked about: a statement that asks for nothing itself, or else a relation. -/
def explained (inner : Read Unit) : Read Unit := do
  if !(← Command.anyOf ["QUERY PLAN", "ESTIMATE"]) then
    let _ ← keyword "ANALYZE"
    let _ ← keyword "VERBOSE"
    if ← keyword "FORMAT" then let _ ← name
  let asks ← peekKeyword askingWords
  match ← attempt inner with
  | some _ => if asks then fail
  | none =>
    let _ ← oneOf ["EXTENDED", "FORMATTED"]
    let _ ← keyword "TABLE"
    let _ ← path

/-- A statement nested at most `depth` deep. -/
def readWithin : Nat → Read Statement
  | 0 => throw .tooDeep
  | depth + 1 => do
    let g := grammar depth
    let inner : Read Unit := discard (readWithin depth)
    let next ← peek?
    if isSymbol "(" next then .query <$> g.query
    else
      match next.bind keywordOf with
      | none => fail
      | some k =>
        if ["SELECT", "WITH", "VALUES", "FROM"].contains k then .query <$> g.query
        else
          match if askingWords.contains k then some (explained inner) else Command.read? g inner k with
          | none => fail
          | some read =>
            skip
            read
            return .other

/-- Passes over semicolons, and says whether there are any. -/
def separators : Nat → Read Bool
  | 0 => return false
  | fuel + 1 => do
    if ← symbol ";" then
      let _ ← separators fuel
      return true
    else return false

def readFrom : (fuel : Nat) → (first : Bool) → Read (List Statement)
  | 0, _ => fail
  | fuel + 1, first => do
    let separated ← separators ((← left) + 1)
    if (← left) == 0 then return []
    else if !first && !separated then if isKeyword "END" (← peek?) then return [] else fail
    else
      let s ← readWithin depthLimit
      return s :: (← readFrom fuel false)

end Statement

/-- **The statements of a text**, if it can be read. -/
def statements? (text : String) : Option (List Statement) :=
  match tokenize? text with
  | none => none
  | some tokens =>
    match (Statement.readFrom (tokens.length + 1) true).run tokens with
    | .ok (statements, _) => some statements
    | .error _ => none

end Sql
end RowSql
