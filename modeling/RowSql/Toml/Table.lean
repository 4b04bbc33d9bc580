import RowSql.Config.Node
/-!
# Table — tables that are written key by key

A header opens a table and is given its pairs; a pair may reach into tables below by a dotted key.  A table is
opened once, a key is given once, and no key reaches into a table that a header has opened.
-/
namespace RowSql
namespace Toml

open Config (Node)

/-- **How a table came to be.** -/
inductive Origin where
  /-- A header opened it. -/
  | header
  /-- It lies on the way to a table that a header opened. -/
  | way
  /-- It lies on the way of a dotted key. -/
  | dotted
deriving DecidableEq, Repr, Inhabited

/-- **What a key has.** -/
inductive Entry where
  | value (v : Node)
  | table (origin : Origin) (members : List (String × Entry))
  /-- Tables that headers with two brackets opened, in order. -/
  | tables (items : List (List (String × Entry)))
deriving Inhabited

/-- The keys of a table and what they have, in order. -/
abbrev Members := List (String × Entry)

/-- **The members with what a key has replaced**; a new key comes last. -/
def update (k : String) (f : Option Entry → Option Entry) : Members → Option Members
  | [] => (f none).map fun e => [(k, e)]
  | (j, e) :: ms => if j == k then (f (some e)).map fun e => (k, e) :: ms else (update k f ms).map ((j, e) :: ·)

/-- The tables with the last one changed. -/
def changeLast (f : Members → Option Members) : List Members → Option (List Members)
  | [] => none
  | [ms] => (f ms).map fun ms => [ms]
  | ms :: rest => (changeLast f rest).map (ms :: ·)

/-- The members with a table below changed, as a header finds it. -/
def below (f : Members → Option Members) : List String → Members → Option Members
  | [], ms => f ms
  | k :: ks, ms =>
    update k (fun
      | none => (below f ks []).map (.table .way)
      | some (.table origin inner) => (below f ks inner).map (.table origin)
      | some (.tables items) => (changeLast (below f ks) items).map .tables
      | some (.value _) => none) ms

/-- **The members with a value given to a dotted key.** -/
def assign (v : Node) : List String → Members → Option Members
  | [], _ => none
  | [k], ms => update k (fun e => if e.isSome then none else some (.value v)) ms
  | k :: ks, ms =>
    update k (fun
      | none => (assign v ks []).map (.table .dotted)
      | some (.table .dotted inner) => (assign v ks inner).map (.table .dotted)
      | some (.table .way inner) => if ks.length = 1 then none else (assign v ks inner).map (.table .way)
      | some (.tables items) => if ks.length = 1 then none else (changeLast (assign v ks) items).map .tables
      | some (.table .header _) => none
      | some (.value _) => none) ms

/-- A dotted key and its value. -/
abbrev Pair := List String × Node

/-- The members with values given to keys, in order. -/
def assignAll (pairs : List Pair) (ms : Members) : Option Members := pairs.foldlM (fun ms p => assign p.2 p.1 ms) ms

/-- **A header and the pairs after it.** -/
structure Section where
  path : List String
  /-- The header has two brackets: it opens one more table of the key. -/
  many : Bool
  pairs : List Pair
deriving Inhabited

/-- What the key of a header has, with the table of a section opened. -/
def Section.opened (s : Section) : Option Entry → Option Entry
  | none =>
    if s.many then (assignAll s.pairs []).map fun ms => .tables [ms] else (assignAll s.pairs []).map (.table .header)
  | some (.tables items) => if s.many then (assignAll s.pairs []).map fun ms => .tables (items ++ [ms]) else none
  | some (.table .way ms) => if s.many then none else (assignAll s.pairs ms).map (.table .header)
  | some _ => none

/-- The document with a section added. -/
def addSection (ms : Members) (s : Section) : Option Members :=
  match s.path.getLast? with
  | none => none
  | some key => below (update key s.opened) s.path.dropLast ms

/-- **The document of the pairs before any header and of the sections.** -/
def document? (pairs : List Pair) (sections : List Section) : Option Members := do
  sections.foldlM addSection (← assignAll pairs [])

mutual

def Entry.toNode : Entry → Node
  | .value v => v
  | .table _ ms => .table (toNodes ms)
  | .tables items => .list (tableNodes items)

/-- The members as those of a node. -/
def toNodes : List (String × Entry) → List (String × Node)
  | [] => []
  | (k, e) :: ms => (k, e.toNode) :: toNodes ms

def tableNodes : List (List (String × Entry)) → List Node
  | [] => []
  | ms :: rest => .table (toNodes ms) :: tableNodes rest

end

end Toml
end RowSql
