import RowSql.Fault
import RowSql.Text.Space
/-!
# Registry — functions found by name and number of arguments

A registry is a list of forms in the order of registration, with a table that leads from a name to the positions
of its forms.  A form has names, an arity, documentation and what it stands for; names are equal up to the case
of ASCII letters, and of the forms of one name the first that accepts the number of arguments is taken.
-/
namespace RowSql

/-- The categories of functions. -/
inductive Category where
  | array
  | arithmetic
  | string
  | temporal
  | conditional
deriving DecidableEq, Repr, Inhabited

namespace Category

def name : Category → String
  | .array => "array"
  | .arithmetic => "arithmetic"
  | .string => "string"
  | .temporal => "temporal"
  | .conditional => "conditional"

def all : List Category := [.array, .arithmetic, .string, .temporal, .conditional]

/-- The category of a name, in any case and with white space around it. -/
def ofName? (s : String) : Option Category :=
  all.find? fun c => Text.sameIgnoringCase c.name.toList (Text.trim s.toList)

/-- What is said of a name that names no category. -/
def unknown (s : String) : String := s!"unknown function category '{s}'"

/-- The name filled up with blanks on the right. -/
def padded (c : Category) (width : Nat) : String := c.name ++ "".pushn ' ' (width - c.name.length)

end Category

/-- **The numbers of arguments that a form accepts.** -/
inductive Arity where
  | exactly (n : Nat)
  | between (least most : Nat)
  | atLeast (least : Nat)
deriving DecidableEq, Repr, Inhabited

namespace Arity

def accepts : Arity → Nat → Bool
  | .exactly k, n => n == k
  | .between least most, n => least ≤ n && n ≤ most
  | .atLeast least, n => least ≤ n

def text : Arity → String
  | .exactly k => toString k
  | .between least most => s!"{least}..{most}"
  | .atLeast least => s!"{least} or more"

end Arity

/-- The documentation of a form. -/
structure Doc where
  category : Category
  /-- The form of a call. -/
  name : String
  explanation : String
  sample : String
deriving DecidableEq, Repr, Inhabited

/-- **A registered form of a function.** -/
structure Form (α : Type) where
  names : List String
  arity : Arity
  doc : Doc
  body : α
deriving Inhabited

/-- A name as it is compared. -/
def functionKey (name : String) : String := String.ofList (Text.lowerAscii name.toList)

/-- **The registered forms, the first one first**, and a table of their names. -/
structure Registry (α : Type) where
  forms : List (Form α)
  /-- Every name that a form lists, as it is compared, with the position of the form. -/
  table : List (String × Nat)
  inRange : ∀ entry ∈ table, entry.2 < forms.length

namespace Registry

variable {α : Type}

def empty : Registry α := ⟨[], [], by simp⟩

instance : Inhabited (Registry α) := ⟨empty⟩

/-- **One more form**, under each of its names. -/
def register (r : Registry α) (f : Form α) : Registry α where
  forms := r.forms ++ [f]
  table := r.table ++ f.names.map fun n => (functionKey n, r.forms.length)
  inRange := by
    intro entry hmem
    rw [List.length_append]
    rcases List.mem_append.1 hmem with hold | hnew
    · exact Nat.lt_add_right _ (r.inRange entry hold)
    · obtain ⟨n, -, rfl⟩ := List.mem_map.1 hnew
      exact Nat.lt_add_one _

/-- Some forms, registered one after the other. -/
def ofForms (forms : List (Form α)) : Registry α := forms.foldl register empty

/-- The forms of a name, once for every time that a form lists it. -/
def named (r : Registry α) (name : String) : List (Form α) :=
  r.table.attach.filterMap fun entry =>
    if entry.1.1 == functionKey name then some (r.forms.get ⟨entry.1.2, r.inRange entry.1 entry.2⟩) else none

/-- Whether the name has a form. -/
def contains (r : Registry α) (name : String) : Bool := r.table.any fun entry => entry.1 == functionKey name

/-- **The first form of a name that accepts a number of arguments.** -/
def resolve (r : Registry α) (name : String) (count : Nat) : Except CompileFault α :=
  match r.named name with
  | [] => .error (.unknownFunction name)
  | forms =>
    match forms.find? fun f => f.arity.accepts count with
    | some f => .ok f.body
    | none =>
      .error (.badArity (functionKey name) count (String.intercalate " or " (forms.map fun f => f.arity.text)))

/-- **The documentation in the order of registration**, of one category or of all. -/
def docs (r : Registry α) (category : Option Category) : List Doc :=
  (r.forms.map Form.doc).filter fun d => category.elim true (d.category == ·)

end Registry
end RowSql
