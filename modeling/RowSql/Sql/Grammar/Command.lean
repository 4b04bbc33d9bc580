import RowSql.Sql.Grammar.Query
/-!
# Command — reading the statements that are no queries

The first word says which command it is, and what must follow is read piece by piece.  Nothing of a command
is kept: a text is refused where it stops being one, and what is left stands behind it.
-/
namespace RowSql
namespace Sql
namespace Command

open Read

/-! ## Pieces -/

/-- Takes one of several runs of words. -/
def anyOf (runs : List String) : Read Bool := (runs.map (·.splitOn " ")).anyM keywords

def expectAnyOf (runs : List String) : Read Unit := do if !(← anyOf runs) then fail

def nextIs (s : String) : Read Bool := do return isSymbol s (← peek?)

/-- The statement ends here. -/
def atEnd : Read Bool := do
  match ← peek? with
  | none => return true
  | some t => return t == .symbol ";"

def stepsFrom (step : Read Bool) : Nat → Read Unit
  | 0 => fail
  | fuel + 1 => do if ← step then stepsFrom step fuel

/-- Takes steps while there is one to take. -/
def steps (step : Read Bool) : Read Unit := do stepsFrom step ((← left) + 1)

/-- Takes tokens up to where `stop` holds, which is no later than the end of the statement. -/
def passTo (stop : Read Bool) : Read Unit := steps do
  if (← atEnd) || (← stop) then return false
  skip
  return true

/-- Reads on behind a run of words, if it is next. -/
def behind (words : String) (p : Read Unit) : Read Bool := do
  if ← keywords (words.splitOn " ") then
    p
    return true
  else return false

/-- What may follow a run of words, and need not be there. -/
def clause (words : String) (p : Read Unit) : Read Unit := discard (behind words p)

/-- One of several clauses. -/
def clauses (cs : List (String × Read Unit)) : Read Bool := cs.anyM fun (words, p) => behind words p

def aName : Read Unit := discard name
def aPath : Read Unit := discard path
def aText : Read Unit := discard quotedText
def aValue : Read Unit := discard literal
def aType : Read Unit := discard DataType.read
def aTerm (g : Grammar) : Read Unit := discard (g.term 0)
def aQuery (g : Grammar) : Read Unit := discard g.query

def list (p : Read Unit) : Read Unit := discard (commas p)
def inParens (p : Read Unit) : Read Unit := discard (parens p)

/-- Something in parentheses that need not be there. -/
def mayBeInParens (p : Read Unit) : Read Unit := do if ← nextIs "(" then inParens p

/-- The names of columns, if there are any. -/
def columnNames : Read Unit := mayBeInParens (list aName)

def ifExists : Read Unit := discard (anyOf ["IF EXISTS"])
def ifNotExists : Read Unit := discard (anyOf ["IF NOT EXISTS"])
def onCluster : Read Unit := clause "ON CLUSTER" aName

/-- A name and the value that it is given. -/
def setting (g : Grammar) : Read Unit := do
  aName
  expectSymbol "="
  aTerm g

def settingsToEnd (g : Grammar) : Read Unit := steps do
  if ← atEnd then return false
  setting g
  return true

/-- Settings in parentheses behind a word. -/
def options (g : Grammar) (word : String) : Read Unit :=
  clause word (inParens (discard (commasUntil ")" (setting g))))

/-- A name of which parts may be stars. -/
def patternFrom : Nat → Read Unit
  | 0 => fail
  | fuel + 1 => do
    if !(← symbol "*") then aName
    if ← symbol "." then patternFrom fuel

def aPattern : Read Unit := do patternFrom ((← left) + 1)

/-- Statements that each end with a semicolon, up to one of some words. -/
def block (inner : Read Unit) (closing : List String) : Read Unit := do
  let inBlock ← keyword "BEGIN"
  steps do
    if (← peekKeyword closing) || (← peek?).isNone then return false
    inner
    expectSymbol ";"
    return true
  if inBlock then expectKeyword "END"

/-! ## Rows -/

/-- The rows that a change gives back. -/
def returned (g : Grammar) : Read Unit := clause "RETURNING" (list (discard (Grammar.selectItem g)))

def insertion (g : Grammar) : Read Unit := do
  let _ ← keyword "OVERWRITE"
  let _ ← keyword "INTO"
  let _ ← keyword "TABLE"
  if ← keyword "FUNCTION" then
    aPath
    inParens (discard (commasUntil ")" (Grammar.argument g)))
  else aPath
  if ← nextIs "(" then
    if !(isKeyword "SELECT" (← peekAt? 1)) then inParens (discard (commasUntil ")" path))
  clause "PARTITION" (inParens (list (aTerm g)))
  if !(← anyOf ["DEFAULT VALUES"]) then
    let _ ← Grammar.settings g
    if ← keyword "FORMAT" then
      aName
      let _ ← attempt (list (aTerm g))
    else aQuery g
  returned g

def deletion (g : Grammar) : Read Unit := do
  if !(← keyword "FROM") then
    list aPath
    expectKeyword "FROM"
  list (discard (Grammar.source g))
  clause "USING" (list (discard (Grammar.source g)))
  clause "WHERE" (aTerm g)
  returned g
  clause "ORDER BY" (discard (Grammar.orderItems g))
  clause "LIMIT" (aTerm g)

/-- A column, or several, and its new value. -/
def assignment (g : Grammar) : Read Unit := do
  if ← nextIs "(" then inParens (list aPath) else aPath
  expectSymbol "="
  aTerm g

def change (g : Grammar) : Read Unit := do
  discard (Grammar.source g)
  clause "FROM" (list (discard (Grammar.source g)))
  expectKeyword "SET"
  list (assignment g)
  clause "FROM" (list (discard (Grammar.source g)))
  clause "WHERE" (aTerm g)
  returned g
  clause "LIMIT" (aTerm g)

/-- What is done with the rows that match, or do not. -/
def mergeAction (g : Grammar) : Read Unit := do
  match ← oneOf ["UPDATE", "DELETE", "INSERT"] with
  | some "UPDATE" =>
    expectKeyword "SET"
    list (assignment g)
  | some "DELETE" => return ()
  | some _ =>
    columnNames
    if !(← keyword "ROW") then
      expectKeyword "VALUES"
      list (inParens (discard (commasUntil ")" (g.term 0))))
  | none => fail

def merge (g : Grammar) : Read Unit := do
  let _ ← keyword "INTO"
  discard g.relation
  expectKeyword "USING"
  discard g.relation
  expectKeyword "ON"
  aTerm g
  steps (behind "WHEN" do
    let _ ← keyword "NOT"
    expectKeyword "MATCHED"
    let _ ← anyOf ["BY SOURCE", "BY TARGET"]
    clause "AND" (aTerm g)
    expectKeyword "THEN"
    mergeAction g)

def copyOption : Read Unit := do
  if !(← clauses
      [("FORMAT", aName), ("FREEZE", discard (oneOf ["TRUE", "FALSE"])), ("DELIMITER", aText), ("NULL", aText),
       ("HEADER", discard (oneOf ["TRUE", "FALSE"])), ("QUOTE", aText), ("ESCAPE", aText),
       ("FORCE_QUOTE", columnNames), ("FORCE_NOT_NULL", columnNames), ("FORCE_NULL", columnNames),
       ("ENCODING", aText)]) then fail

/-- The rows that are copied, and the file. -/
def copy (g : Grammar) : Read Unit := do
  if ← nextIs "(" then inParens (aQuery g)
  else
    aPath
    columnNames
  expectAnyOf ["FROM", "TO"]
  if !(← anyOf ["STDOUT"]) then
    let _ ← keyword "PROGRAM"
    aText
  let _ ← keyword "WITH"
  mayBeInParens (list copyOption)
  steps (clauses
    [("BINARY", pure ()), ("CSV", discard (anyOf ["HEADER"])), ("HEADER", pure ()),
     ("DELIMITER", do let _ ← keyword "AS"; aText), ("NULL", do let _ ← keyword "AS"; aText)])

/-! ## Tables -/

/-- What may follow a constraint. -/
def characteristics : Read Unit :=
  steps (anyOf
    ["NOT DEFERRABLE", "DEFERRABLE", "INITIALLY DEFERRED", "INITIALLY IMMEDIATE", "NOT ENFORCED", "ENFORCED"])

/-- The columns of another table, and what follows when they change. -/
def references : Read Unit := do
  aPath
  columnNames
  steps do
    if ← anyOf ["ON DELETE", "ON UPDATE"] then
      expectAnyOf ["RESTRICT", "CASCADE", "SET NULL", "SET DEFAULT", "NO ACTION"]
      return true
    else return false
  characteristics

/-- How the numbers of a sequence run. -/
def sequenceOption : Read Bool :=
  clauses
    [("INCREMENT", do let _ ← keyword "BY"; aValue), ("MINVALUE", aValue), ("MAXVALUE", aValue),
     ("NO MINVALUE", pure ()), ("NO MAXVALUE", pure ()), ("START", do let _ ← keyword "WITH"; aValue),
     ("CACHE", aValue), ("NO CYCLE", pure ()), ("CYCLE", pure ())]

def generated (g : Grammar) : Read Unit := do
  if ← anyOf ["ALWAYS AS IDENTITY", "BY DEFAULT AS IDENTITY"] then
    mayBeInParens (steps sequenceOption)
  else
    expectAnyOf ["ALWAYS AS"]
    inParens (aTerm g)
    let _ ← oneOf ["STORED", "VIRTUAL"]

def columnOption (g : Grammar) : Read Bool := do
  if ← anyOf ["NOT NULL", "NULL"] then return true
  clauses
    [("PRIMARY KEY", characteristics), ("UNIQUE", characteristics), ("REFERENCES", references),
     ("CHECK", inParens (aTerm g)), ("COLLATE", aPath), ("CHARACTER SET", aPath), ("COMMENT", aText),
     ("DEFAULT", aTerm g), ("MATERIALIZED", aTerm g), ("ALIAS", aTerm g), ("GENERATED", generated g),
     ("EPHEMERAL", do if !((← nextIs ",") || (← nextIs ")")) then aTerm g)]

def column (g : Grammar) : Read Unit := do
  aName
  aType
  steps do
    if ← keyword "CONSTRAINT" then
      aName
      if ← columnOption g then return true else fail
    else columnOption g

/-- The columns of an index, which may be named. -/
def indexColumns (g : Grammar) : Read Unit := do
  if !(← nextIs "(") then aName
  clause "USING" aName
  inParens (discard (Grammar.orderItems g))

/-- A constraint of a table, if one is next. -/
def tableConstraint (g : Grammar) : Read Bool := do
  let isNamed ← behind "CONSTRAINT" aName
  let found ← clauses
    [("PRIMARY", do expectKeyword "KEY"; indexColumns g; characteristics),
     ("UNIQUE", do let _ ← oneOf ["KEY", "INDEX"]; indexColumns g; characteristics),
     ("FOREIGN", do expectKeyword "KEY"; indexColumns g; expectKeyword "REFERENCES"; references),
     ("CHECK", do inParens (aTerm g); characteristics)]
  if isNamed && !found then fail
  return found

/-- The columns and constraints of a table, which need not be given. -/
def tableColumns (g : Grammar) : Read Unit :=
  mayBeInParens (discard (commasUntil ")" do if !(← tableConstraint g) then column g))

/-- A literal, or else a name. -/
def aWord : Read Unit := do if (← attempt literal).isNone then aName

/-- An option of a table that stands by itself, with or without a sign of equality. -/
def tableOption : Read Bool := do
  let given (p : Read Unit) : Read Unit := do
    let _ ← symbol "="
    p
  clauses
    [("COMMENT", given aText),
     ("ENGINE", given do
        aName
        mayBeInParens (discard (commasUntil ")" aWord))),
     ("DEFAULT CHARSET", given aWord), ("CHARSET", given aWord), ("DEFAULT CHARACTER SET", given aWord),
     ("CHARACTER SET", given aWord), ("COLLATE", given aWord), ("AUTO_INCREMENT", given aWord),
     ("ROW_FORMAT", given aWord)]

/-- A term, or terms in parentheses. -/
def keyTerms (g : Grammar) : Read Unit := do
  if ← nextIs "(" then inParens (discard (commasUntil ")" (g.term 0))) else aTerm g

def createTable (g : Grammar) : Read Unit := do
  ifNotExists
  aPath
  onCluster
  if !(← clauses [("LIKE", aPath), ("ILIKE", aPath)]) then
    clause "CLONE" aPath
    tableColumns g
  clause "PARTITIONED BY" (inParens (list (column g)))
  clause "STORED AS" aName
  clause "LOCATION" aText
  options g "WITH"
  options g "TBLPROPERTIES"
  steps do
    let found ← tableOption
    let _ ← if found then symbol "," else pure false
    return found
  clause "PRIMARY KEY" (aTerm g)
  clause "ORDER BY" (keyTerms g)
  clause "ON COMMIT" (expectAnyOf ["DELETE ROWS", "PRESERVE ROWS", "DROP"])
  let _ ← keyword "STRICT"
  clause "AS" (aQuery g)

/-! ## Making and removing -/

def createView (g : Grammar) : Read Unit := do
  let first ← anyOf ["IF NOT EXISTS"]
  aPath
  if !first then ifNotExists
  mayBeInParens (discard (commasUntil ")" do
    aName
    let _ ← attempt DataType.read
    steps (columnOption g)))
  options g "WITH"
  clause "CLUSTER BY" columnNames
  clause "TO" aPath
  expectKeyword "AS"
  aQuery g

def createIndex (g : Grammar) : Read Unit := do
  let _ ← keyword "CONCURRENTLY"
  let named ← anyOf ["IF NOT EXISTS"]
  let unnamed ← if named then pure false else keyword "ON"
  if !unnamed then
    aPath
    clause "USING" aName
    expectKeyword "ON"
  aPath
  clause "USING" aName
  inParens (discard (Grammar.orderItems g))
  clause "INCLUDE" (inParens (list aName))
  clause "NULLS" do
    let _ ← keyword "NOT"
    expectKeyword "DISTINCT"
  clause "WHERE" (aTerm g)

def createSchema (g : Grammar) : Read Unit := do
  ifNotExists
  if !(← behind "AUTHORIZATION" aName) then
    aPath
    clause "AUTHORIZATION" aName
  clause "DEFAULT COLLATE" (aTerm g)
  options g "WITH"
  options g "OPTIONS"
  clause "CLONE" aPath

/-- What a policy lets through. -/
def policyRules (g : Grammar) : Read Unit := do
  clause "TO" (list aName)
  clause "USING" (inParens (aTerm g))
  clause "WITH CHECK" (inParens (aTerm g))

def createPolicy (g : Grammar) : Read Unit := do
  aName
  expectKeyword "ON"
  aPath
  clause "AS" (expectAnyOf ["PERMISSIVE", "RESTRICTIVE"])
  clause "FOR" (expectAnyOf ["ALL", "SELECT", "INSERT", "UPDATE", "DELETE"])
  policyRules g

def createSecret : Read Unit := do
  ifNotExists
  if !(← nextIs "(") then
    if !(← behind "IN" aName) then
      aName
      clause "IN" aName
  inParens do
    expectKeyword "TYPE"
    aName
    if ← symbol "," then list (do aName; aName)

def createDomain (g : Grammar) : Read Unit := do
  aPath
  expectKeyword "AS"
  aType
  clause "COLLATE" aName
  clause "DEFAULT" (aTerm g)
  steps (tableConstraint g)

/-- A type of its own: its values, or its fields. -/
def createType : Read Unit := do
  aPath
  expectKeyword "AS"
  if ← keyword "ENUM" then inParens (discard (commasUntil ")" name))
  else inParens (discard (commasUntil ")" do
    aName
    aType
    clause "COLLATE" aPath))

/-- What may be made anew where it already is. -/
def replaceable (g : Grammar) : List (String × Read Unit) :=
  [("TABLE", createTable g), ("MATERIALIZED VIEW", createView g), ("VIEW", createView g),
   ("SECURE MATERIALIZED VIEW", createView g), ("SECURE VIEW", createView g), ("POLICY", createPolicy g),
   ("EXTERNAL TABLE", createTable g), ("DOMAIN", createDomain g), ("SECRET", createSecret),
   ("USER", do ifNotExists; aName; let _ ← keyword "WITH"; settingsToEnd g)]

/-- The statements of a procedure, behind what it is given. -/
def createProcedure (inner : Read Unit) : Read Unit := do
  aPath
  mayBeInParens (discard (commasUntil ")" do
    let _ ← oneOf ["IN", "OUT", "INOUT"]
    aName
    aType))
  clause "LANGUAGE" aName
  expectKeyword "AS"
  block inner ["END"]

/-- What may be made only where it is not. -/
def unreplaceable (g : Grammar) (inner : Read Unit) : List (String × Read Unit) :=
  [("EXTENSION", do
      ifNotExists
      aName
      clause "WITH" do
        clause "SCHEMA" aName
        clause "VERSION" aName
        let _ ← keyword "CASCADE"),
   ("INDEX", createIndex g), ("UNIQUE INDEX", createIndex g),
   ("VIRTUAL", do expectKeyword "TABLE"; ifNotExists; aPath; expectKeyword "USING"; aName; columnNames),
   ("SCHEMA", createSchema g),
   ("DATABASE", do
      ifNotExists
      aPath
      steps (clauses [("LOCATION", aText), ("MANAGEDLOCATION", aText)])
      clause "CLONE" aPath),
   ("ROLE", do ifNotExists; list aPath; let _ ← keyword "WITH"),
   ("SEQUENCE", do
      ifNotExists
      aPath
      clause "AS" aType
      steps sequenceOption
      clause "OWNED BY" aPath),
   ("TYPE", createType), ("PROCEDURE", createProcedure inner),
   ("CONNECTOR", do
      ifNotExists
      aName
      clause "TYPE" aText
      clause "URL" aText
      clause "COMMENT" aText
      options g "WITH DCPROPERTIES"),
   ("SERVER", do
      ifNotExists
      aPath
      clause "TYPE" aName
      clause "VERSION" aName
      expectAnyOf ["FOREIGN DATA WRAPPER"]
      aPath
      clause "OPTIONS" (inParens (list (do aName; aName))))]

def creation (g : Grammar) (inner : Read Unit) : Read Unit := do
  let replacing ← anyOf ["OR REPLACE"]
  let _ ← anyOf ["OR ALTER"]
  let _ ← keyword "LOCAL"
  let _ ← keyword "GLOBAL"
  let _ ← keyword "TRANSIENT"
  let _ ← oneOf ["TEMP", "TEMPORARY"]
  if ← clauses (replaceable g) then return ()
  if replacing || !(← clauses (unreplaceable g inner)) then fail

/-- The types of the arguments of a routine. -/
def routine : Read Unit := do
  aPath
  mayBeInParens (discard (commasUntil ")" DataType.read))

def removal : Read Unit := do
  let behavior : Read Unit := discard (oneOf ["CASCADE", "RESTRICT"])
  let routines : Read Unit := do ifExists; list routine; behavior
  if ← clauses
      [("FUNCTION", routines), ("PROCEDURE", routines),
       ("POLICY", do ifExists; aName; expectKeyword "ON"; aPath; behavior),
       ("CONNECTOR", do ifExists; aName),
       ("DOMAIN", do ifExists; aPath; behavior),
       ("SECRET", do ifExists; aName; clause "FROM" aName),
       ("EXTENSION", do ifExists; list aName; behavior),
       ("ROLE", do ifExists; list aPath; clause "ON" aPath)] then return ()
  expectAnyOf ["TABLE", "MATERIALIZED VIEW", "VIEW", "INDEX", "SCHEMA", "DATABASE", "SEQUENCE", "STAGE", "TYPE", "USER",
    "STREAM"]
  ifExists
  list aPath
  behavior
  let _ ← keyword "PURGE"
  clause "ON" aPath

def emptying (g : Grammar) : Read Unit := do
  let _ ← keyword "TABLE"
  ifExists
  let _ ← keyword "ONLY"
  list aPath
  clause "PARTITION" (inParens (list (aTerm g)))
  onCluster

/-! ## Altering -/

/-- A column and where it stands among the others. -/
def placedColumn (g : Grammar) : Read Unit := do
  column g
  if !(← keyword "FIRST") then clause "AFTER" aName

def alterColumn (g : Grammar) : Read Unit := do
  let _ ← keyword "COLUMN"
  aName
  let typed : Read Unit := do aType; clause "USING" (aTerm g)
  if !(← clauses
      [("SET NOT NULL", pure ()), ("DROP NOT NULL", pure ()), ("SET DEFAULT", aTerm g), ("DROP DEFAULT", pure ()),
       ("SET DATA TYPE", typed), ("TYPE", typed), ("ADD GENERATED", generated g)]) then fail

/-- A part of a table's data. -/
def partition (g : Grammar) : Read Unit := do
  expectAnyOf ["PARTITION", "PART"]
  aTerm g

def projection : Read Unit := do
  ifExists
  aName
  clause "IN PARTITION" aName

def addition (g : Grammar) : Read Unit := do
  if ← tableConstraint g then return ()
  if ← behind "PROJECTION" (do ifNotExists; aName; inParens (aQuery g)) then return ()
  let _ ← keyword "COLUMN"
  ifNotExists
  placedColumn g

def droppedPart (g : Grammar) : Read Unit := do
  if ← clauses
      [("CONSTRAINT", do ifExists; aName; let _ ← oneOf ["CASCADE", "RESTRICT"]),
       ("IF EXISTS PARTITION", inParens (list (aTerm g))), ("PARTITION", inParens (list (aTerm g))),
       ("PRIMARY KEY", pure ()), ("FOREIGN KEY", aName), ("INDEX", aName), ("PROJECTION", do ifExists; aName),
       ("CLUSTERING KEY", pure ())] then return ()
  let _ ← keyword "COLUMN"
  ifExists
  list aName
  let _ ← oneOf ["CASCADE", "RESTRICT"]

def newName : Read Unit := do
  if ← clauses [("TO", aPath), ("AS", aPath)] then return ()
  if !(← keyword "CONSTRAINT") then let _ ← keyword "COLUMN"
  aName
  expectKeyword "TO"
  aName

/-- One change of a table. -/
def tableChange (g : Grammar) : Read Unit := do
  let named (p : Read Unit) : Read Unit := do p; aName
  let switched : Read Unit :=
    named (expectAnyOf ["ALWAYS RULE", "ALWAYS TRIGGER", "REPLICA RULE", "REPLICA TRIGGER", "RULE", "TRIGGER"])
  let rowSecurity : Read Unit := do if !(← anyOf ["ROW LEVEL SECURITY"]) then switched
  if !(← clauses
      [("ADD", addition g), ("RENAME", newName), ("DROP", droppedPart g), ("DISABLE", rowSecurity),
       ("ENABLE", rowSecurity), ("FORCE ROW LEVEL SECURITY", pure ()),
       ("NO FORCE ROW LEVEL SECURITY", pure ()), ("CLEAR PROJECTION", projection),
       ("MATERIALIZE PROJECTION", projection),
       ("MODIFY", do let _ ← keyword "COLUMN"; placedColumn g),
       ("CHANGE", do let _ ← keyword "COLUMN"; aName; placedColumn g), ("ALTER", alterColumn g), ("SWAP WITH", aPath),
       ("OWNER TO", aName), ("ATTACH", partition g), ("DETACH", partition g),
       ("FREEZE", do partition g; clause "WITH NAME" aName), ("UNFREEZE", do partition g; clause "WITH NAME" aName),
       ("CLUSTER BY", inParens (list (aTerm g))), ("SUSPEND RECLUSTER", pure ()), ("RESUME RECLUSTER", pure ()),
       ("VALIDATE CONSTRAINT", aName), ("SET TBLPROPERTIES", inParens (list (setting g))),
       ("SET", inParens (list (setting g)))]) then fail

def alterTable (g : Grammar) : Read Unit := do
  ifExists
  let _ ← keyword "ONLY"
  aPath
  onCluster
  list (tableChange g)

def alteration (g : Grammar) : Read Unit := do
  if !(← clauses
      [("TABLE", alterTable g), ("ICEBERG TABLE", alterTable g),
       ("VIEW", do aPath; columnNames; options g "WITH"; expectKeyword "AS"; aQuery g),
       ("INDEX", do aPath; expectAnyOf ["RENAME TO"]; aPath),
       ("TYPE", do
          aPath
          if !(← clauses
              [("RENAME TO", aName), ("RENAME VALUE", do aName; expectKeyword "TO"; aName),
               ("ADD VALUE", do
                  ifNotExists
                  aName
                  discard (clauses [("BEFORE", aName), ("AFTER", aName)]))]) then fail),
       ("POLICY", do aName; expectKeyword "ON"; aPath; if !(← behind "RENAME TO" aName) then policyRules g),
       ("CONNECTOR", do
          aName
          discard (clauses
            [("SET DCPROPERTIES", inParens (list (setting g))), ("SET URL", aText),
             ("SET OWNER", do let _ ← oneOf ["USER", "ROLE"]; aName)])),
       ("SCHEMA", do
          ifExists
          aPath
          if !(← clauses
              [("RENAME TO", aPath), ("OWNER TO", aName), ("SET DEFAULT COLLATE", aTerm g),
               ("SET OPTIONS", inParens (list (setting g))), ("DROP REPLICA", aName),
               ("ADD REPLICA", do aName; options g "OPTIONS")]) then fail),
       ("USER", do ifExists; aName; discard (clauses [("RENAME TO", aName), ("SET", settingsToEnd g)]))]) then fail

/-! ## Privileges -/

/-- The privileges that are one run of words, and those that may be for some columns. -/
def privilege : Read Unit := do
  if ← anyOf ["SELECT", "INSERT", "UPDATE", "REFERENCES"] then columnNames
  else
    expectAnyOf ["DELETE", "TRUNCATE", "TRIGGER", "CONNECT", "CREATE", "EXECUTE", "EXEC", "TEMPORARY", "USAGE",
      "OWNERSHIP", "READ", "WRITE", "MODIFY", "MONITOR", "OPERATE", "DROP", "AUDIT", "FAILOVER", "REPLICATE"]

def privileges : Read Unit := do
  if ← keyword "ALL" then let _ ← keyword "PRIVILEGES"
  else list privilege

/-- What the privileges are about. -/
def objects : Read Unit := do
  if ← anyOf ["ALL TABLES IN SCHEMA", "ALL SEQUENCES IN SCHEMA", "ALL VIEWS IN SCHEMA"] then list aPath
  else
    let _ ← oneOf ["SEQUENCE", "DATABASE", "SCHEMA", "TABLE", "VIEW", "ROLE", "USER", "FUNCTION", "PROCEDURE"]
    list aPattern
    mayBeInParens (discard (commasUntil ")" DataType.read))

def grantees : Read Unit := list do
  if !(← keyword "PUBLIC") then
    let _ ← oneOf ["ROLE", "USER", "SHARE", "GROUP", "APPLICATION"]
    aPath

def grant : Read Unit := do
  privileges
  clause "ON" objects
  expectKeyword "TO"
  grantees
  let _ ← anyOf ["WITH GRANT OPTION"]
  clause "GRANTED BY" aName

def denial : Read Unit := do
  privileges
  expectKeyword "ON"
  objects
  expectKeyword "TO"
  grantees
  let _ ← keyword "CASCADE"
  clause "AS" aName

def revocation : Read Unit := do
  privileges
  clause "ON" objects
  expectKeyword "FROM"
  grantees
  clause "GRANTED BY" aName
  let _ ← oneOf ["CASCADE", "RESTRICT"]

/-! ## Transactions and sessions -/

def transactionMode : Read Bool := do
  if ← anyOf ["READ ONLY", "READ WRITE"] then return true
  behind "ISOLATION LEVEL"
    (expectAnyOf ["READ UNCOMMITTED", "READ COMMITTED", "REPEATABLE READ", "SERIALIZABLE", "SNAPSHOT"])

/-- Modes with or without commas between; behind a comma there must be one. -/
def modesFrom (required : Bool) : Nat → Read Unit
  | 0 => fail
  | fuel + 1 => do
    if ← transactionMode then modesFrom (← symbol ",") fuel
    else if required then fail

def transactionModes : Read Unit := do modesFrom false ((← left) + 1)

/-- Whether another transaction follows the one that ends. -/
def chain : Read Unit := do
  let _ ← oneOf ["TRANSACTION", "WORK"]
  clause "AND" do
    let _ ← keyword "NO"
    expectKeyword "CHAIN"

/-- A new value of a variable. -/
def assignVariable (g : Grammar) : Read Unit := do
  let _ ← oneOf ["SESSION", "LOCAL", "GLOBAL"]
  let values : Read Unit := list (aTerm g)
  if ← clauses
      [("TIME ZONE", do if (← symbol "=") || (← keyword "TO") then values else aTerm g),
       ("TIMEZONE", do if (← symbol "=") || (← keyword "TO") then values else aTerm g),
       ("NAMES", do if !(← keyword "DEFAULT") then aName; clause "COLLATE" aText),
       ("CHARACTERISTICS", do expectAnyOf ["AS TRANSACTION"]; transactionModes),
       ("TRANSACTION", do if !(← behind "SNAPSHOT" aValue) then transactionModes)] then return ()
  if (← peekKeyword ["ROLE"]) && !isSymbol "=" (← peekAt? 1) && !isKeyword "TO" (← peekAt? 1) then
    skip
    aName
  else
    aPath
    if !(← symbol "=") then expectKeyword "TO"
    values

/-- Shows what the words name; blank of words, it shows everything. -/
def showing : Read Unit := do
  if ← keyword "CREATE" then
    expectAnyOf ["TABLE", "TRIGGER", "FUNCTION", "PROCEDURE", "EVENT", "VIEW"]
    aPath
  else passTo (nextIs "=")

/-- Where a cursor goes. -/
def cursorMove : Read Unit := do
  if ← anyOf ["NEXT", "PRIOR", "FIRST", "LAST", "ALL", "FORWARD ALL", "BACKWARD ALL"] then return ()
  let _ ← oneOf ["ABSOLUTE", "RELATIVE", "FORWARD", "BACKWARD"]
  aValue

/-! ## Blocks -/

/-- A condition, and the statements for when it holds. -/
def branch (g : Grammar) (inner : Read Unit) (closing : List String) : Read Unit := do
  aTerm g
  expectKeyword "THEN"
  block inner closing

def conditional (g : Grammar) (inner : Read Unit) : Read Unit := do
  let closing := ["ELSEIF", "ELSE", "END"]
  branch g inner closing
  steps (behind "ELSEIF" (branch g inner closing))
  clause "ELSE" (block inner ["END"])
  expectAnyOf ["END IF"]

def selection (g : Grammar) (inner : Read Unit) : Read Unit := do
  let closing := ["WHEN", "ELSE", "END"]
  if !(← peekKeyword ["WHEN"]) then aTerm g
  expectKeyword "WHEN"
  branch g inner closing
  steps (behind "WHEN" (branch g inner closing))
  clause "ELSE" (block inner ["END"])
  expectKeyword "END"
  let _ ← keyword "CASE"

/-! ## Commands by their words -/

/-- The commands that are about tables, rows and their makers. -/
def ofData (g : Grammar) (inner : Read Unit) : List (String × Read Unit) :=
  [("INSERT", insertion g), ("DELETE", deletion g), ("UPDATE", change g), ("MERGE", merge g), ("COPY", copy g),
   ("CREATE", creation g inner), ("DROP", removal), ("TRUNCATE", emptying g), ("ALTER", alteration g),
   ("GRANT", grant), ("DENY", denial), ("REVOKE", revocation),
   ("ANALYZE", do
      let _ ← keyword "TABLE"
      aPath
      steps (clauses
        [("PARTITION", inParens (list (aTerm g))), ("NOSCAN", pure ()), ("CACHE METADATA", pure ()),
         ("COMPUTE STATISTICS", pure ()), ("FOR COLUMNS", discard (attempt (commas name)))])),
   ("ATTACH", do let _ ← keyword "DATABASE"; aTerm g; expectKeyword "AS"; aName),
   ("CACHE", do
      if !(← keyword "TABLE") then
        aPath
        expectKeyword "TABLE"
      aPath
      options g "OPTIONS"
      if !(← atEnd) then
        let _ ← keyword "AS"
        aQuery g),
   ("UNCACHE", do expectKeyword "TABLE"; ifExists; aPath),
   ("MSCK", do
      let _ ← keyword "REPAIR"
      expectKeyword "TABLE"
      aPath
      clause "ADD" (expectKeyword "PARTITIONS")
      clause "DROP" (expectKeyword "PARTITIONS")
      clause "SYNC" (expectKeyword "PARTITIONS")),
   ("OPTIMIZE", do
      expectKeyword "TABLE"
      aPath
      onCluster
      clause "PARTITION" do if !(← behind "ID" aName) then aTerm g
      let _ ← keyword "FINAL"
      clause "DEDUPLICATE" (clause "BY" (aTerm g))),
   ("RENAME", do expectKeyword "TABLE"; list do aPath; expectKeyword "TO"; aPath),
   ("EXPORT", do
      expectKeyword "DATA"
      clause "WITH CONNECTION" aPath
      expectKeyword "OPTIONS"
      inParens (list (setting g))
      expectKeyword "AS"
      aQuery g),
   ("UNLOAD", do
      inParens (do match ← attempt quotedText with | some _ => return () | none => aQuery g)
      expectKeyword "TO"
      aName
      options g "WITH"),
   ("VACUUM", do
      let _ ← anyOf ["FULL", "SORT ONLY", "DELETE ONLY", "REINDEX", "RECLUSTER"]
      if (← attempt path).isSome then
        clause "TO" do aValue; expectKeyword "PERCENT"
        let _ ← keyword "BOOST")]

/-- The commands that are about a session and its transactions. -/
def ofSession (g : Grammar) (inner : Read Unit) : List (String × Read Unit) :=
  [("BEGIN", do let _ ← oneOf ["TRANSACTION", "WORK"]; transactionModes),
   ("START", do expectKeyword "TRANSACTION"; transactionModes), ("COMMIT", chain), ("END", chain),
   ("ROLLBACK", do chain; clause "TO" do let _ ← keyword "SAVEPOINT"; aName), ("SAVEPOINT", aName),
   ("RELEASE", do let _ ← keyword "SAVEPOINT"; aName), ("SET", assignVariable g), ("USE", aPath), ("SHOW", showing),
   ("KILL", do let _ ← oneOf ["CONNECTION", "QUERY", "MUTATION"]; discard wholeNumber),
   ("DISCARD", expectAnyOf ["ALL", "PLANS", "SEQUENCES", "TEMP", "TEMPORARY"]),
   ("DECLARE", do
      aName
      let _ ← keyword "BINARY"
      let _ ← oneOf ["INSENSITIVE", "ASENSITIVE"]
      let _ ← anyOf ["SCROLL", "NO SCROLL"]
      expectKeyword "CURSOR"
      let _ ← anyOf ["WITH HOLD", "WITHOUT HOLD"]
      expectKeyword "FOR"
      aQuery g),
   ("FETCH", do cursorMove; expectAnyOf ["FROM", "IN"]; aName; clause "INTO" aPath),
   ("OPEN", aName), ("CLOSE", do if !(← keyword "ALL") then aName),
   ("DEALLOCATE", do let _ ← keyword "PREPARE"; aName),
   ("PREPARE", do aName; mayBeInParens (list aType); expectKeyword "AS"; inner),
   ("CALL", do aPath; mayBeInParens (discard (commasUntil ")" (Grammar.argument g)))),
   ("PRAGMA", do aPath; if ← symbol "=" then aValue else mayBeInParens aValue),
   ("ASSERT", do aTerm g; clause "AS" (aTerm g)), ("PRINT", aTerm g), ("RETURN", discard (attempt (g.term 0))),
   ("RAISE", do
      if ← anyOf ["USING MESSAGE"] then
        expectSymbol "="
        aTerm g
      else discard (attempt (g.term 0))),
   ("RAISERROR", do
      inParens (list (aTerm g))
      clause "WITH" (list (expectAnyOf ["LOG", "NOWAIT", "SETERROR"]))),
   ("IF", conditional g inner), ("CASE", selection g inner),
   ("WHILE", do aTerm g; block inner ["END"])]

/-- Runs what was prepared, with the values that it is given. -/
def execution (g : Grammar) : Read Unit := do
  aPath
  if ← nextIs "(" then inParens (discard (commasUntil ")" (g.term 0)))
  else if !((← atEnd) || (← peekKeyword ["INTO", "USING", "OUTPUT", "DEFAULT"])) then list (aTerm g)
  clause "INTO" (list aName)
  clause "USING" (list (discard (Grammar.selectItem g)))
  let _ ← keyword "OUTPUT"
  let _ ← keyword "DEFAULT"

/-- What follows the first word of a command, which is no query and explains none. -/
def read? (g : Grammar) (inner : Read Unit) (word : String) : Option (Read Unit) :=
  if word == "EXECUTE" || word == "EXEC" then some (execution g)
  else (ofData g inner ++ ofSession g inner).lookup word

end Command
end Sql
end RowSql
