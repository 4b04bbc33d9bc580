import RowSql.Calendar.Layout
/-!
# Letters — patterns of letters

A pattern spells a field by a run of one letter, such as `yyyy-MM-dd`.  Text in apostrophes stands for itself, and so do
two apostrophes for one, and every letter that names no field.  `Letters.toLayout` writes the pattern as the text of a
layout.
-/
namespace RowSql
namespace Calendar
namespace Letters

/-- The field of a run of `n` times the letter `c`, if there is one. -/
def slot? (c : Char) (n : Nat) : Option Slot :=
  if c == 'y' || c == 'u' then some (if n = 2 then .yearOfCentury else .year)
  else if c == 'M' then
    some (if n = 1 then .month false else if n = 2 then .month true else .monthName (n ≠ 3))
  else if c == 'd' then some (.day (n ≠ 1))
  else if c == 'D' then some .ordinal
  else if c == 'H' then some (.hour (n ≠ 1))
  else if c == 'h' then some (.hour12 (n ≠ 1))
  else if c == 'm' then some (.minute (n ≠ 1))
  else if c == 's' then some (.second (n ≠ 1))
  else if c == 'S' then some (.fractionDigits (if n ≤ 3 then 3 else 6))
  else if c == 'a' then some .halfDay
  else if c == 'E' then some (.weekdayName (3 < n))
  else if c == 'Z' then some (.offset false)
  else if c == 'X' then some (.offset true)
  else none

/-- The text of a literal character in a layout. -/
def literal (c : Char) : List Char := if c == '%' then ['%', '%'] else [c]

/-- The quoted text after an apostrophe, and the pattern after the closing one; two apostrophes are one. -/
def quoted : List Char → List Char × List Char
  | [] => ([], [])
  | '\'' :: '\'' :: cs => let (text, rest) := quoted cs; ('\'' :: text, rest)
  | c :: cs => if c == '\'' then ([], cs) else let (text, rest) := quoted cs; (c :: text, rest)

/-- The text of the layout of a pattern of at most `fuel` characters. -/
def translate : Nat → List Char → List Char
  | 0, _ => []
  | _, [] => []
  | fuel + 1, c :: cs =>
    if c == '\'' then
      match cs with
      | '\'' :: rest => '\'' :: translate fuel rest
      | _ => (quoted cs).1.flatMap literal ++ translate fuel (quoted cs).2
    else if c.isAlpha then
      let n := (cs.takeWhile (· == c)).length + 1
      let text := match slot? c n with
        | some s => '%' :: s.text
        | none => (List.replicate n c).flatMap literal
      text ++ translate fuel (cs.dropWhile (· == c))
    else literal c ++ translate fuel cs

/-- **The text of the layout of a pattern.** -/
def toLayout (cs : List Char) : List Char := translate cs.length cs

end Letters
end Calendar
end RowSql
