import RowSql.Codec.Options
import RowSql.Json
import RowSql.Number.Binary
/-!
# Node — what configurations are read from

A configuration is written as a document: settings, lists and tables.  A group of members is a table or, without
the names, a list of the members in their order; one choice of several is a name or a table of that one name.
-/
namespace RowSql
namespace Config

/-- **A document of settings.** -/
inductive Node where
  | nothing
  | setting (s : Setting)
  | list (items : List Node)
  | table (members : List (String × Node))
deriving Inhabited

namespace Node

mutual

/-- The node of a JSON document; a whole number beyond 64 signed bits is a float. -/
def ofJson : Json → Node
  | .null => .nothing
  | .bool b => .setting (.flag b)
  | .int n => .setting ((Whole.ofInt? n).elim (.float (Binary.nearestInt n)) .whole)
  | .float x => .setting (.float x)
  | .text s => .setting (.text s)
  | .array items => .list (ofItems items)
  | .object members => .table (ofMembers members)

def ofItems : List Json → List Node
  | [] => []
  | v :: vs => ofJson v :: ofItems vs

def ofMembers : List (String × Json) → List (String × Node)
  | [] => []
  | (k, v) :: ms => (k, ofJson v) :: ofMembers ms

end

def setting? : Node → Option Setting
  | .setting s => some s
  | _ => none

def text? : Node → Option String
  | .setting (.text s) => some s
  | _ => none

/-- The named settings of a table. -/
def settings? : Node → Option (List (String × Setting))
  | .table ms => ms.mapM fun m => m.2.setting?.map (m.1, ·)
  | _ => none

/-- No data at all. -/
def isBare : Node → Bool
  | .nothing => true
  | .table [] => true
  | _ => false

end Node

/-- **How a notation writes groups and choices.** -/
structure Style where
  /-- What may stand for no data, after the name of a choice. -/
  noData : Node → Bool
  /-- Whether a list of members may go on after the last of them. -/
  openLists : Bool

namespace Style

/-- JSON writes no data as `null`, and lists have no more than the members. -/
def json : Style where
  noData
    | .nothing => true
    | _ => false
  openLists := false

/-- TOML writes no data as an empty table or list, and lists may go on. -/
def toml : Style where
  noData
    | .table [] => true
    | .list [] => true
    | _ => false
  openLists := true

/-- Inside a codec's section no data is nothing or an empty table, and lists have no more than the members. -/
def nested : Style := ⟨Node.isBare, false⟩

end Style

namespace Node

/-- The members of a group by name. -/
def members? (style : Style) (names : List String) : Node → Option (List (String × Node))
  | .table ms => some ms
  | .list items => if items.length ≤ names.length || style.openLists then some (names.zip items) else none
  | _ => none

/-- The name of a choice. -/
def choice? (style : Style) : Node → Option String
  | .setting (.text s) => some s
  | .table [(s, v)] => if style.noData v then some s else none
  | _ => none

end Node

/-- A member that need not be there. -/
def optional {α : Type} (default : α) (read : Node → Option α) : Option Node → Option α
  | none => some default
  | some v => read v

end Config
end RowSql
