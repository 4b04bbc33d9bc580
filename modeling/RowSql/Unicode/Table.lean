/-!
# Table — properties of characters as text

A table lists runs of code points in ascending order, each as `first-last:label` or `single:label` with hexadecimal code
points; a run without a label needs none.
-/
namespace RowSql
namespace Unicode

/-- Consecutive code points with one label. -/
structure Run where
  first : Nat
  last : Nat
  label : List Char
deriving Inhabited

/-- The number that upper-case hexadecimal digits spell. -/
def hexNumber (cs : List Char) : Nat :=
  cs.foldl (fun n c => n * 16 + (if c.isDigit then c.toNat - 48 else c.toNat - 55)) 0

/-- The pieces of a text between blanks and line ends, after the characters `taken` of a piece, last first. -/
def words (taken : List Char) : List Char → List (List Char)
  | [] => if taken.isEmpty then [] else [taken.reverse]
  | c :: cs =>
    if c == ' ' || c == '
' then (if taken.isEmpty then words [] cs else taken.reverse :: words [] cs)
    else words (c :: taken) cs

/-- One entry of a table. -/
def Run.ofWord (w : List Char) : Run :=
  let points := w.takeWhile (· != ':')
  let label := (w.dropWhile (· != ':')).drop 1
  let first := points.takeWhile (· != '-')
  let last := (points.dropWhile (· != '-')).drop 1
  ⟨hexNumber first, hexNumber (if last.isEmpty then first else last), label⟩

/-- The table that a text lists. -/
def table (text : String) : Array Run := ((words [] text.toList).map Run.ofWord).toArray

/-- The run of code point `n` among those from `low` to before `high`, by halving. -/
def search (t : Array Run) (n : Nat) : Nat → Nat → Nat → Option Run
  | 0, _, _ => none
  | fuel + 1, low, high =>
    if low < high then
      let middle := (low + high) / 2
      match t[middle]? with
      | none => none
      | some r =>
        if n < r.first then search t n fuel low middle
        else if r.last < n then search t n fuel (middle + 1) high
        else some r
    else none

/-- **The run of a code point**, if the table has one. -/
def find? (t : Array Run) (n : Nat) : Option Run := search t n (t.size + 1) 0 t.size

/-- The code point is in some run. -/
def has (t : Array Run) (n : Nat) : Bool := (find? t n).isSome

end Unicode
end RowSql
