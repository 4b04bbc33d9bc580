import RowSql.Sql.Grammar.Basic
/-!
# DataType — the types of casts

A type is read into its canonical spelling.  A name that is no type of the language is a type of its own.
-/
namespace RowSql
namespace Sql

/-- **A type.** -/
inductive DataType where
  | interval
  | builtin (spelling : String)
  | custom (spelling : String)
deriving DecidableEq, Repr, Inhabited

def DataType.render : DataType → String
  | .interval => "INTERVAL"
  | .builtin spelling => spelling
  | .custom spelling => spelling

namespace DataType

open Read

/-- The types that are one word and spelled as their keyword. -/
def plain : List String :=
  ["BOOLEAN", "BOOL", "FLOAT4", "FLOAT8", "FLOAT64", "INT64", "HUGEINT", "UBIGINT", "UHUGEINT", "USMALLINT", "UTINYINT",
   "TINYBLOB", "MEDIUMBLOB", "LONGBLOB", "UUID", "DATE", "JSON", "JSONB", "REGCLASS", "TEXT", "TINYTEXT", "MEDIUMTEXT",
   "LONGTEXT", "BYTEA", "TRIGGER"]

/-- The types that are one word and spelled with small letters. -/
def spelled : List String :=
  ["Float32", "Int16", "Int32", "Int128", "Int256", "UInt8", "UInt16", "UInt32", "UInt64", "UInt128", "UInt256",
   "Date32"]

/-- The types with an optional width, which may be unsigned. -/
def wholes : List String :=
  ["TINYINT", "INT2", "SMALLINT", "MEDIUMINT", "INT", "INT4", "INT8", "INTEGER", "BIGINT"]

/-- The types with an optional length. -/
def sized : List String := ["CLOB", "BINARY", "BLOB", "BYTES", "VARBIT", "DATETIME", "STRING", "TIMESTAMP_NTZ"]

/-- The types with an optional precision and scale; those with `true` may be unsigned. -/
def scaled : List (String × Bool) :=
  [("FLOAT", true), ("NUMERIC", false), ("DECIMAL", true), ("DEC", true), ("BIGNUMERIC", false), ("BIGDECIMAL", false)]

/-- An optional number in parentheses. -/
def size : Read String := do
  if ← symbol "(" then
    let n ← wholeNumber
    expectSymbol ")"
    return s!"({n})"
  else return ""

def scale : Read String := do
  let sign ← if ← symbol "-" then pure "-" else do
    let _ ← symbol "+"
    pure ""
  return sign ++ (← wholeNumber)

/-- An optional precision and scale in parentheses. -/
def precision : Read String := do
  if ← symbol "(" then
    let p ← wholeNumber
    let s ← if ← symbol "," then (("," ++ ·) <$> scale) else pure ""
    expectSymbol ")"
    return s!"({p}{s})"
  else return ""

/-- An optional length of a text in parentheses. -/
def textLength : Read String := do
  if ← symbol "(" then
    let text ← if ← keyword "MAX" then pure "MAX" else do
      let n ← wholeNumber
      match ← oneOf ["CHARACTERS", "OCTETS"] with
      | some unit => pure s!"{n} {unit}"
      | none => pure n
    expectSymbol ")"
    return s!"({text})"
  else return ""

def unsigned : Read String := do return wordIf (← keyword "UNSIGNED") " UNSIGNED"

/-- What follows a time about its zone. -/
def zone : Read String := do
  match ← oneOf ["WITH", "WITHOUT"] with
  | some w =>
    expectKeywords ["TIME", "ZONE"]
    return s!" {w} TIME ZONE"
  | none => return ""

/-- A member of an enumeration. -/
def member : Read String := do
  let s ← quotedText
  if ← symbol "=" then
    match ← next? with
    | some (.number n _) => return inQuotes '\'' s ++ " = " ++ n
    | _ => fail
  else return inQuotes '\'' s

/-- The modifiers of a type of its own, up to the closing parenthesis. -/
def modifiersFrom : Nat → Read (List String)
  | 0 => fail
  | fuel + 1 => do
    match ← next? with
    | some (.word w q) => return (Name.mk w q).render :: (← modifiersFrom fuel)
    | some (.number n _) => return n :: (← modifiersFrom fuel)
    | some (.text s) => return s :: (← modifiersFrom fuel)
    | some (.symbol ",") => modifiersFrom fuel
    | some (.symbol ")") => return []
    | _ => fail

/-- A type of its own. -/
def ownType : Read DataType := do
  let n ← path
  if ← symbol "(" then
    let ms ← modifiersFrom ((← left) + 1)
    return .custom (pathText n ++ wordIf (!ms.isEmpty) ("(" ++ String.intercalate ", " ms ++ ")"))
  else return .custom (pathText n)

/-- The type that a keyword with no types inside it begins; nothing if there is none. -/
def simple (k : String) : Read (Option String) := do
  if plain.contains k then return some k
  match spelled.find? fun s => s.toUpper == k with
  | some s => return some s
  | none =>
    if wholes.contains k then
      let n ← size
      return some (k ++ n ++ (← unsigned))
    else if sized.contains k then return some (k ++ (← size))
    else
      match scaled.lookup k with
      | some mayBeUnsigned =>
        let p ← precision
        return some (k ++ p ++ (← if mayBeUnsigned then unsigned else pure ""))
      | none =>
        match k with
        | "REAL" => return some ("REAL" ++ (← unsigned))
        | "DOUBLE" =>
          if ← keyword "PRECISION" then return some ("DOUBLE PRECISION" ++ (← unsigned))
          else
            let p ← precision
            return some ("DOUBLE" ++ p ++ (← unsigned))
        | "VARCHAR" => return some (k ++ (← textLength))
        | "NVARCHAR" => return some (k ++ (← textLength))
        | "CHARACTER" | "CHAR" =>
          if ← keyword "VARYING" then return some (k ++ " VARYING" ++ (← textLength))
          else if ← keywords ["LARGE", "OBJECT"] then return some (k ++ " LARGE OBJECT" ++ (← size))
          else return some (k ++ (← textLength))
        | "VARBINARY" =>
          if isSymbol "(" (← peek?) && isKeyword "MAX" (← peekAt? 1) then
            let _ ← parens (expectKeyword "MAX")
            return some "VARBINARY(MAX)"
          else return some (k ++ (← size))
        | "BIT" => if ← keyword "VARYING" then return some ("BIT VARYING" ++ (← size)) else return some (k ++ (← size))
        | "TIME" | "TIMESTAMP" =>
          let p ← size
          return some (k ++ p ++ (← zone))
        | "TIMETZ" | "TIMESTAMPTZ" => return some (k ++ (← size))
        | "DATETIME64" =>
          let text ← parens do
            let n ← wholeNumber
            if ← symbol "," then return s!"{n}, '{← quotedText}'" else return n
          return some s!"DateTime64({text})"
        | "FIXEDSTRING" => return some s!"FixedString({← parens wholeNumber})"
        | "ENUM" | "ENUM8" | "ENUM16" =>
          return some (k ++ "(" ++ String.intercalate ", " (← parens (commas member)) ++ ")")
        | "SET" =>
          let ms ← parens (commas quotedText)
          return some ("SET(" ++ String.intercalate ", " (ms.map (inQuotes '\'')) ++ ")")
        | "SIGNED" | "UNSIGNED" => return some (k ++ wordIf (← keyword "INTEGER") " INTEGER")
        | "TABLE" => if isSymbol "(" (← peek?) then fail else return some "TABLE"
        | _ => return none

/-- A type with at most `fuel` types around it. -/
def readFrom : Nat → Read DataType
  | 0 => fail
  | fuel + 1 => do
    let t ← peek?
    match t with
    | some (.word w q) =>
      let inner : Read String := do return (← readFrom fuel).render
      let field : Read String := do
        let named := match ← peekAt? 0, ← peekAt? 1 with
          | some (.word _ _), some (.word _ _) => true
          | _, _ => false
        if named then
          let n ← name
          return s!"{n.render} {← inner}"
        else inner
      match (keywordOf (.word w q)).getD "" with
      | "INTERVAL" => skip; return .interval
      | "ARRAY" => skip; return .builtin s!"Array({← parens inner})"
      | "NULLABLE" => skip; return .builtin s!"Nullable({← parens inner})"
      | "LOWCARDINALITY" => skip; return .builtin s!"LowCardinality({← parens inner})"
      | "MAP" =>
        skip
        let (k, v) ← parens do
          let k ← inner
          expectSymbol ","
          return (k, ← inner)
        return .builtin s!"Map({k}, {v})"
      | "TUPLE" => skip; return .builtin ("Tuple(" ++ String.intercalate ", " (← parens (commas field)) ++ ")")
      | "NESTED" =>
        skip
        let fields ← parens (commas do
          let n ← name
          return s!"{n.render} {← inner}")
        return .builtin ("Nested(" ++ String.intercalate ", " fields ++ ")")
      | "ANY" =>
        if isKeyword "TYPE" (← peekAt? 1) then
          let _ ← keywords ["ANY", "TYPE"]
          return .builtin "ANY TYPE"
        else ownType
      | k =>
        let start ← get
        skip
        match ← simple k with
        | some spelling => return .builtin spelling
        | none =>
          set start
          ownType
    | _ => fail

/-- **A type.** -/
def read : Read DataType := do readFrom ((← left) + 1)

end DataType
end Sql
end RowSql
