import RowSql.Toml.Scalar
import RowSql.Toml.Table
/-!
# Toml — documents of settings

`Toml.parse?` reads a document: lines with a key and a value, headers of tables, comments, and lines with
nothing.  Lists and tables in a value nest to `depthLimit` levels, and no key has more parts than that.
-/
namespace RowSql
namespace Toml

open Config (Node)

/-- The most levels of lists and tables in a value, and the most parts of a key. -/
def depthLimit : Nat := 79

/-! ## Keys -/

/-- A character of a key without quotes. -/
def isKeyChar (c : Char) : Bool := c.isAlphanum || c == '-' || c == '_'

/-- One part of a key. -/
def keyPart? : Reader String
  | '"' :: cs => basic? cs
  | '\'' :: cs => literal? cs
  | cs =>
    let (part, rest) := cs.span isKeyChar
    if part.isEmpty then none else some (String.ofList part, rest)

/-- The parts of a key, with blanks around each. -/
def keyParts : Nat → Reader (List String)
  | 0, _ => none
  | fuel + 1, cs => do
    let (part, rest) ← keyPart? (skipBlanks cs)
    match skipBlanks rest with
    | '.' :: rest => (keyParts fuel rest).map fun (parts, rest) => (part :: parts, rest)
    | rest => return ([part], rest)

/-- **A key.** -/
def key? : Reader (List String) := keyParts depthLimit

/-! ## Values -/

/-- The text after blanks, comments and line ends. -/
def skipComments (inComment : Bool) : List Char → List Char
  | [] => []
  | '\r' :: '\n' :: cs => skipComments false cs
  | c :: cs =>
    if c == '\n' then skipComments false cs
    else if inComment then (if isPlain c then skipComments true cs else c :: cs)
    else if isBlank c then skipComments false cs
    else if c == '#' then skipComments true cs
    else c :: cs

/-- The rest of a list, after the items `taken` so far, last first. -/
def listRest (value : Reader Node) : Nat → List Node → Reader Node
  | 0, _, _ => none
  | fuel + 1, taken, cs =>
    match skipComments false cs with
    | ']' :: cs => some (.list taken.reverse, cs)
    | cs =>
      match value cs with
      | none => none
      | some (v, cs) =>
        match skipComments false cs with
        | ',' :: cs => listRest value fuel (v :: taken) cs
        | ']' :: cs => some (.list (v :: taken).reverse, cs)
        | _ => none

/-- A key and its value. -/
def pair? (value : Reader Node) : Reader Pair := fun cs => do
  let (path, cs) ← key? cs
  let cs ← after? '=' cs
  let (v, cs) ← value (skipBlanks cs)
  return ((path, v), cs)

/-- The table of pairs in braces. -/
def inlineTable? (pairs : List Pair) : Option Node := (assignAll pairs []).map fun ms => .table (toNodes ms)

/-- The rest of a table in braces, after the pairs `taken` so far, last first. -/
def tableRest (value : Reader Node) : Nat → List Pair → Reader Node
  | 0, _, _ => none
  | fuel + 1, taken, cs =>
    match pair? value cs with
    | none => none
    | some (p, cs) =>
      match skipBlanks cs with
      | ',' :: cs => tableRest value fuel (p :: taken) cs
      | '\x7d' :: cs => (inlineTable? (p :: taken).reverse).map (·, cs)
      | _ => none

/-- A table in braces, after the first brace. -/
def table? (value : Reader Node) : Reader Node := fun cs =>
  match skipBlanks cs with
  | '\x7d' :: cs => some (.table [], cs)
  | cs => tableRest value (cs.length + 1) [] cs

/-- **A value**, with lists and tables to a number of levels. -/
def value? : Nat → Reader Node
  | 0 => scalar?
  | depth + 1 => fun cs =>
    match cs with
    | '[' :: cs => listRest (value? depth) (cs.length + 1) [] cs
    | '\x7b' :: cs => table? (value? depth) cs
    | cs => scalar? cs

/-! ## Documents -/

/-- The text after the rest of a line that has nothing but blanks and a comment. -/
def restOfLine? (cs : List Char) : Option (List Char) :=
  let rest := match skipBlanks cs with
    | '#' :: cs => cs.dropWhile isPlain
    | cs => cs
  if rest.isEmpty then some [] else lineEnd? rest

/-- **A line** that says something. -/
inductive Line where
  | pair (p : Pair)
  | header (path : List String) (many : Bool)

/-- A header, after its first bracket. -/
def header? : Reader Line := fun cs =>
  match cs with
  | '[' :: cs => do
    let (path, cs) ← key? cs
    return (.header path true, ← after? ']' (← after? ']' cs))
  | cs => do
    let (path, cs) ← key? cs
    return (.header path false, ← after? ']' cs)

/-- The line at the start of a text, if it says something. -/
def line? : List Char → Option (Option Line × List Char)
  | [] => some (none, [])
  | '[' :: cs => (header? cs).map fun (l, cs) => (some l, cs)
  | c :: cs =>
    if c == '#' || c == '\n' || c == '\r' then some (none, c :: cs)
    else (pair? (value? depthLimit) (c :: cs)).map fun (p, cs) => (some (.pair p), cs)

/-- The lines of a text. -/
def lines : Nat → List Char → Option (List Line)
  | 0, _ => none
  | fuel + 1, cs =>
    match skipBlanks cs with
    | [] => some []
    | cs => do
      let (line, cs) ← line? cs
      let rest ← lines fuel (← restOfLine? cs)
      return line.toList ++ rest

/-- The pairs before any header, and the sections. -/
def sections : List Line → List Pair × List Section
  | [] => ([], [])
  | .pair p :: ls =>
    let (pairs, rest) := sections ls
    (p :: pairs, rest)
  | .header path many :: ls =>
    let (pairs, rest) := sections ls
    ([], ⟨path, many, pairs⟩ :: rest)

/-- The text without a byte order mark. -/
def skipMark : List Char → List Char
  | '\uFEFF' :: cs => cs
  | cs => cs

/-- **The document that a text spells.** -/
def parse? (text : String) : Option Node := do
  let cs := skipMark text.toList
  let (pairs, rest) := sections (← lines (cs.length + 1) cs)
  return .table (toNodes (← document? pairs rest))

end Toml
end RowSql
