import RowSql.Value
/-!
# Options — settings of codecs

An option has a name and a value of one of four kinds.  A codec asks for the kind it can use; an option of
another kind is as one that is not there.
-/
namespace RowSql

/-- **The value of a setting.** -/
inductive Setting where
  | flag (b : Bool)
  | whole (n : Whole)
  | float (x : Float)
  | text (s : String)
deriving Inhabited

def Setting.toValue : Setting → Value
  | .flag b => .bool b
  | .whole n => .int n
  | .float x => .float x
  | .text s => .text s

/-- **Named settings**, in the order in which they were first set. -/
structure Options where
  entries : List (String × Setting)
deriving Inhabited

namespace Options

def empty : Options := ⟨[]⟩

/-- The entries with one set: in place if its name is there, else at the end. -/
def setEntry (name : String) (v : Setting) : List (String × Setting) → List (String × Setting)
  | [] => [(name, v)]
  | (n, w) :: rest => if n == name then (n, v) :: rest else (n, w) :: setEntry name v rest

def set (o : Options) (name : String) (v : Setting) : Options := ⟨setEntry name v o.entries⟩

/-- The options of a list, of which the last of each name counts. -/
def ofPairs (pairs : List (String × Setting)) : Options := pairs.foldl (fun o p => o.set p.1 p.2) empty

def get? (o : Options) (name : String) : Option Setting := o.entries.lookup name

def flag? (o : Options) (name : String) : Option Bool :=
  match o.get? name with
  | some (.flag b) => some b
  | _ => none

def whole? (o : Options) (name : String) : Option Whole :=
  match o.get? name with
  | some (.whole n) => some n
  | _ => none

def text? (o : Options) (name : String) : Option String :=
  match o.get? name with
  | some (.text s) => some s
  | _ => none

end Options
end RowSql
