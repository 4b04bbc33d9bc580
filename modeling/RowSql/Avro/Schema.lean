import RowSql.Json.Reader
/-!
# Schema — the types of Avro data

A schema is read from a document.  Records, enumerations and fixed bytes have names, and a name stands for its
type wherever it is used after its declaration has begun.  A logical type that does not fit the type that it is
put on is ignored.
-/
namespace RowSql
namespace Avro

/-- **A schema.** -/
inductive Schema where
  | null
  | boolean
  /-- A number of 32 bits, and what it counts. -/
  | int (unit : Option String)
  /-- A number of 64 bits, and what it counts. -/
  | long (unit : Option String)
  | float
  | double
  | bytes
  | string
  | fixed (name : String) (size : Nat)
  | enum (name : String) (symbols : List String)
  | array (items : Schema)
  | map (values : Schema)
  | union (variants : List Schema)
  | record (name : String) (fields : List (String × Schema))
  /-- The schema of a name. -/
  | ref (name : String)
  /-- The digits of a number, in bytes or fixed bytes. -/
  | decimal (digits : Schema)
  /-- The digits of a number and its scale. -/
  | scaledDecimal
  | uuid
  | duration
deriving Inhabited

namespace Schema

mutual

/-- The number of schemas in a schema. -/
def size : Schema → Nat
  | .array items => items.size + 1
  | .map values => values.size + 1
  | .union variants => sizes variants + 1
  | .record _ fields => fieldSizes fields + 1
  | .decimal digits => digits.size + 1
  | _ => 1

def sizes : List Schema → Nat
  | [] => 0
  | s :: ss => s.size + sizes ss

def fieldSizes : List (String × Schema) → Nat
  | [] => 0
  | (_, s) :: fs => s.size + fieldSizes fs

end

mutual

/-- The schemas that have names, with their names. -/
def named : Schema → List (String × Schema)
  | .array items => items.named
  | .map values => values.named
  | .union variants => namedIn variants
  | .record name fields => (name, .record name fields) :: namedInFields fields
  | .enum name symbols => [(name, .enum name symbols)]
  | .fixed name size => [(name, .fixed name size)]
  | _ => []

def namedIn : List Schema → List (String × Schema)
  | [] => []
  | s :: ss => s.named ++ namedIn ss

def namedInFields : List (String × Schema) → List (String × Schema)
  | [] => []
  | (_, s) :: fs => s.named ++ namedInFields fs

end

mutual

/-- The names that are used. -/
def uses : Schema → List String
  | .array items => items.uses
  | .map values => values.uses
  | .union variants => usesIn variants
  | .record _ fields => usesInFields fields
  | .ref name => [name]
  | _ => []

def usesIn : List Schema → List String
  | [] => []
  | s :: ss => s.uses ++ usesIn ss

def usesInFields : List (String × Schema) → List String
  | [] => []
  | (_, s) :: fs => s.uses ++ usesInFields fs

end

/-- Every name that is used is declared, and none is declared twice. -/
def isResolved (s : Schema) : Bool :=
  let names := s.named.map Prod.fst
  decide names.Nodup && s.uses.all names.contains

/-! ## Names -/

def isNameStart (c : Char) : Bool := c.isAlpha || c == '_'

/-- A name without points. -/
def isSimpleName : List Char → Bool
  | [] => false
  | c :: cs => isNameStart c && cs.all fun c => isNameStart c || c.isDigit

/-- The namespace before the last point and the name after it. -/
def splitName (name : String) : Option String × String :=
  let cs := name.toList.reverse
  let last := cs.takeWhile (· != '.')
  if last.length == cs.length then (none, name)
  else (some (String.ofList (cs.drop (last.length + 1)).reverse), String.ofList last.reverse)

/-- A name, which may have its namespace before it. -/
def isName (name : String) : Bool :=
  let (space, last) := splitName name
  isSimpleName last.toList
    && space.elim true fun s => s.isEmpty || (s.toList.splitOn '.').all isSimpleName

/-- The full name of a name in a namespace. -/
def fullName (space name : String) : String :=
  match splitName name with
  | (some _, _) => name
  | (none, _) => if space.isEmpty then name else space ++ "." ++ name

def namespaceOf (full : String) : String := (splitName full).1.getD ""

/-! ## Reading -/

/-- A reader of schemas, with what each name stands for. -/
abbrev Read := StateT (List (String × String)) Option

/-- The schema of a name that is no declared one. -/
def primitive? : String → Option Schema
  | "null" => some .null
  | "boolean" => some .boolean
  | "int" => some (.int none)
  | "long" => some (.long none)
  | "float" => some .float
  | "double" => some .double
  | "bytes" => some .bytes
  | "string" => some .string
  | _ => none

/-- The schema of a name. -/
def byName (space name : String) : Read Schema := do
  match primitive? name with
  | some s => return s
  | none =>
    if !isName name then failure
    match (← get).lookup (fullName space name) with
    | some target => return .ref target
    | none => failure

def text? (o : Json) (key : String) : Option String :=
  match o.member? key with
  | some (.text s) => some s
  | _ => none

/-- The full name of what an object declares. -/
def declaredName (space : String) (o : Json) : Read String := do
  match text? o "name" with
  | some name => if isName name then return fullName ((text? o "namespace").getD space) name else failure
  | none => failure

/-- The other names of what an object declares, in full. -/
def aliases (name : String) (o : Json) : List String :=
  match o.member? "aliases" with
  | some (.array items) => items.filterMap fun j =>
    match j with
    | .text s => some (fullName (namespaceOf name) s)
    | _ => none
  | _ => []

/-- A declaration: while it is read its names stand for it, and after that each name stands for itself. -/
def declare {α : Type} (name : String) (others : List String) (inside : Read α) : Read α := do
  modify fun known => (name, name) :: others.map (·, name) ++ known
  let a ← inside
  modify fun known => (name, name) :: others.map (fun n => (n, n)) ++ known
  return a

/-- The kind of a schema without a name; a union has at most one of each kind. -/
def kind? : Schema → Option String
  | .null => some "null"
  | .boolean => some "boolean"
  | .int unit => some (unit.getD "int")
  | .long unit => some (unit.getD "long")
  | .float => some "float"
  | .double => some "double"
  | .bytes => some "bytes"
  | .string => some "string"
  | .array _ => some "array"
  | .map _ => some "map"
  | .union _ => some "union"
  | .decimal _ => some "decimal"
  | .scaledDecimal => some "big-decimal"
  | .uuid => some "uuid"
  | .duration => some "duration"
  | _ => none

def isUnion : Schema → Bool
  | .union _ => true
  | _ => false

/-- The union of some schemas. -/
def unionOf (variants : List Schema) : Read Schema :=
  if variants.any isUnion || !decide (variants.filterMap kind?).Nodup then failure else return .union variants

/-- The digits that a decimal may have fit its scale. -/
def isDecimal (o : Json) : Bool :=
  match o.member? "precision", o.member? "scale" with
  | some (.int p), none => 1 ≤ p
  | some (.int p), some (.int s) => 1 ≤ p && 0 ≤ s && s ≤ p
  | _, _ => false

/-- The logical types. -/
def logicalTypes : List String :=
  ["decimal", "big-decimal", "uuid", "date", "time-millis", "time-micros", "timestamp-millis", "timestamp-micros",
   "timestamp-nanos", "local-timestamp-millis", "local-timestamp-micros", "local-timestamp-nanos", "duration"]

/-- The schema with a logical type put on it. -/
def withLogical (o : Json) (logical : String) (s : Schema) : Schema :=
  match logical, s with
  | "decimal", .bytes => if isDecimal o then .decimal s else s
  | "decimal", .fixed _ _ => if isDecimal o then .decimal s else s
  | "big-decimal", .bytes => .scaledDecimal
  | "uuid", .string => .uuid
  | "uuid", .fixed _ 16 => .uuid
  | "duration", .fixed _ _ => .duration
  | "date", .int none => .int (some logical)
  | "time-millis", .int none => .int (some logical)
  | unit, .long none => if ["uuid", "decimal", "big-decimal", "duration", "date", "time-millis"].contains unit then s
    else .long (some unit)
  | _, s => s

def enumOf (space : String) (o : Json) : Read Schema := do
  match o.member? "symbols" with
  | some (.array items) =>
    let name ← declaredName space o
    let symbols ← items.mapM fun j =>
      match j with
      | .text s => if isSimpleName s.toList then pure s else failure
      | _ => failure
    if !decide symbols.Nodup then failure
    match o.member? "default" with
    | none => pure ()
    | some (.text s) => if !symbols.contains s then failure
    | some _ => failure
    declare name (aliases name o) (return .enum name symbols)
  | _ => failure

def fixedOf (space : String) (o : Json) : Read Schema := do
  match o.member? "size" with
  | some (.int n) =>
    if n < 0 then failure
    match o.member? "default" with
    | some (.text s) => if (s.utf8ByteSize : Int) != n then failure
    | _ => pure ()
    let name ← declaredName space o
    declare name (aliases name o) (return .fixed name n.toNat)
  | _ => failure

/-- The fields of a record. -/
def recordOf (field : String → Json → Read (String × Schema)) (space : String) (o : Json) : Read Schema := do
  match o.member? "fields" with
  | some (.array items) =>
    let name ← declaredName space o
    let isObject : Json → Bool
      | .object _ => true
      | _ => false
    let fields ← declare name (aliases name o) ((items.filter isObject).mapM (field (namespaceOf name)))
    if decide (fields.map Prod.fst).Nodup then return .record name fields else failure
  | _ => failure

mutual

/-- The schema of a document that nests at most `depth` deep. -/
def readWithin (space : String) : (depth : Nat) → Json → Read Schema
  | 0, _ => failure
  | _ + 1, .text name => byName space name
  | depth + 1, .array items => do unionOf (← items.mapM (readWithin space depth))
  | depth + 1, .object ms => readObject space true depth (.object ms)
  | _ + 1, _ => failure

/-- The schema of an object, or of a field that is one. -/
def readObject (space : String) (mayBeRecord : Bool) : (depth : Nat) → Json → Read Schema
  | 0, _ => failure
  | depth + 1, o => do
    let sub (key : String) : Read Schema :=
      match o.member? key with
      | some j => readWithin space depth j
      | none => failure
    let field (space : String) (f : Json) : Read (String × Schema) := do
      match text? f "name" with
      | some name =>
        if !isSimpleName name.toList then failure
        return (name, ← readObject space false depth f)
      | none => failure
    let plain : Read Schema := do
      match o.member? "type" with
      | some (.text "record") => if mayBeRecord then recordOf field space o else byName space "record"
      | some (.text "enum") => enumOf space o
      | some (.text "fixed") => fixedOf space o
      | some (.text "array") => return .array (← sub "items")
      | some (.text "map") => return .map (← sub "values")
      | some (.text name) => byName space name
      | some (.object ms) => readWithin space depth (.object ms)
      | some (.array items) => readWithin space depth (.array items)
      | _ => failure
    match o.member? "logicalType" with
    | none => plain
    | some (.text logical) =>
      if logicalTypes.contains logical then
        let s ← if text? o "type" == some "fixed" then fixedOf space o else sub "type"
        return withLogical o logical s
      else plain
    | some _ => failure

end

/-- **The schema of a document.** -/
def ofJson? (doc : Json) : Option Schema :=
  ((readWithin "" (2 * Json.depthLimit + 2) doc).run []).map Prod.fst

/-- **The schema of a text.** -/
def parse? (text : List Char) : Option Schema :=
  match Json.parse text with
  | .ok doc => ofJson? doc
  | .error _ => none

end Schema
end Avro
end RowSql
