import RowSql.Codec.Options
import RowSql.Codec.Rows
import RowSql.Text.Parts
import RowSql.Text.Quoted
/-!
# Csv — lines of delimited fields

A field that begins with a double quote runs to the quote that closes it, and two quotes in a row stand for one.
An escape character, where there is one, makes the next character stand for itself.
-/
namespace RowSql
namespace Csv

/-- **How fields are laid out on a line.** -/
structure Layout where
  delimiter : Char := '|'
  quoting : Bool := true
  escape : Option Char := none
deriving DecidableEq, Repr, Inhabited

namespace Layout

/-- The one character that an option names; a backslash and a `t` name the tab. -/
def optionChar (key s : String) : Except CodecFault Char :=
  match s.toList with
  | ['\\', 't'] => .ok '\t'
  | [c] => .ok c
  | _ => .error (.badOption .csv key s!"must be a single character, got {Text.quoted s}")

/-- **The layout that options describe.** -/
def ofOptions (o : Options) : Except CodecFault Layout := do
  let delimiter ← match o.text? "delimiter" with
    | some s => optionChar "delimiter" s
    | none => pure '|'
  let escape ← match o.text? "escape" with
    | some s => some <$> optionChar "escape" s
    | none => pure none
  if escape == some delimiter then .error (.badOption .csv "escape" "must differ from the delimiter")
  else return ⟨delimiter, (o.flag? "quoting").getD true, escape⟩

end Layout

/-! ## Reading -/

/-- **A field that was read**: its text, whether a delimiter ended it, and the line after that. -/
structure Taken where
  text : List Char
  ended : Bool
  rest : List Char
deriving DecidableEq, Repr

/-- The field with a character before it. -/
def Taken.cons (c : Char) (t : Taken) : Taken := { t with text := c :: t.text }

/-- A field that ends with the line. -/
def Taken.last : Taken := ⟨[], false, []⟩

/-- A field that is not quoted. -/
def plain (l : Layout) : List Char → Taken
  | [] => .last
  | [c] => if c == l.delimiter then ⟨[], true, []⟩ else if l.escape == some c then .last else .cons c .last
  | c :: d :: cs =>
    if c == l.delimiter then ⟨[], true, d :: cs⟩
    else if l.escape == some c then (plain l cs).cons d
    else (plain l (d :: cs)).cons c

/-- What stands between a closing quote and the delimiter is dropped. -/
def afterQuote (l : Layout) : List Char → Taken
  | [] => .last
  | c :: cs => if c == l.delimiter then ⟨[], true, cs⟩ else afterQuote l cs

/-- A quoted field, after its first quote. -/
def quoted (l : Layout) : List Char → Taken
  | [] => .last
  | [c] => if c == '"' || l.escape == some c then .last else .cons c .last
  | c :: d :: cs =>
    if c == '"' then if d == '"' then (quoted l cs).cons '"' else afterQuote l (d :: cs)
    else if l.escape == some c then (quoted l cs).cons d
    else (quoted l (d :: cs)).cons c

/-- The field at the start of a line. -/
def field (l : Layout) : List Char → Taken
  | '"' :: cs => if l.quoting then quoted l cs else plain l ('"' :: cs)
  | cs => plain l cs

/-- The line ends with a delimiter that no escape stands before. -/
def endsOpen (l : Layout) (line : List Char) : Bool :=
  match line.reverse with
  | [] => false
  | c :: before =>
    c == l.delimiter
      && match l.escape with
        | none => true
        | some e => (before.takeWhile (· == e)).length % 2 == 0

theorem plain_rest_le (l : Layout) (cs : List Char) : (plain l cs).rest.length ≤ cs.length - 1 := by
  fun_induction plain l cs <;> simp_all [Taken.last, Taken.cons] <;> omega

theorem afterQuote_rest_le (l : Layout) (cs : List Char) : (afterQuote l cs).rest.length ≤ cs.length - 1 := by
  fun_induction afterQuote l cs with
  | case1 => simp [Taken.last]
  | case2 c cs h => simp
  | case3 c cs h ih => exact Nat.le_trans ih (Nat.sub_le _ _)

theorem quoted_rest_le (l : Layout) (cs : List Char) : (quoted l cs).rest.length ≤ cs.length := by
  have hq := afterQuote_rest_le l
  fun_induction quoted l cs <;> simp_all [Taken.last, Taken.cons] <;> grind

theorem field_rest_le (l : Layout) (cs : List Char) : (field l cs).rest.length ≤ cs.length - 1 := by
  unfold field
  split
  · split
    · exact quoted_rest_le l _
    · exact plain_rest_le l _
  · exact plain_rest_le l _

/-- A field takes at least one character. -/
theorem field_rest_lt {l : Layout} {cs : List Char} (h : (field l cs).rest ≠ []) :
    (field l cs).rest.length < cs.length := by
  have := field_rest_le l cs
  have : 0 < (field l cs).rest.length := List.length_pos_iff.2 h
  omega

/-- The fields of what is left of a line. -/
def fieldsFrom (l : Layout) (line cs : List Char) : List (List Char) :=
  if (field l cs).rest = [] then (field l cs).text :: (if endsOpen l line then [[]] else [])
  else (field l cs).text :: fieldsFrom l line (field l cs).rest
termination_by cs.length
decreasing_by exact field_rest_lt ‹_›

/-- **The fields of a line.**  After a delimiter at the end of the line there is one more, empty field. -/
def fields (l : Layout) (line : List Char) : List (List Char) := fieldsFrom l line line

/-- **The row of a record** for declared fields: the cells in order, as texts. -/
def decode (l : Layout) (declared : List Field) (bytes : List UInt8) : Except CodecFault Rows := do
  let line := Codec.trimLineEnds (← Codec.textOf .csv bytes)
  if line.isEmpty then .error (.malformed .csv .record "empty line")
  else
    let cells := (fields l line).map fun cs => Value.text (String.ofList cs)
    return .single (cells.take declared.length)

/-! ## Writing -/

/-- A character that makes a field special. -/
def isSpecial (l : Layout) (c : Char) : Bool := c == l.delimiter || c == '"' || c == '\n' || c == '\r'

/-- The characters between quotes. -/
def doubled (cs : List Char) : List Char := cs.flatMap fun c => if c == '"' then ['"', '"'] else [c]

/-- The characters with an escape before each delimiter and each escape. -/
def escaped (l : Layout) (e : Char) (cs : List Char) : List Char :=
  cs.flatMap fun c => if c == l.delimiter || c == e then [e, c] else [c]

/-- **The written form of a field**: quoted or escaped when it has a special character. -/
def write (l : Layout) (cs : List Char) : List Char :=
  if !cs.any (isSpecial l) then cs
  else if l.quoting then '"' :: (doubled cs ++ ['"'])
  else
    match l.escape with
    | some e => escaped l e cs
    | none => cs

/-- The cell of a value; nothing is an empty cell. -/
def cell (l : Layout) (v : Value) : List Char := if v.isNull then [] else write l v.render.toList

/-- **The line of a row.** -/
def encode (l : Layout) (declared : List Field) (row : NamedRow) : String :=
  String.ofList (Text.join [l.delimiter] ((row.written declared).map fun p => cell l p.2))

end Csv
end RowSql
