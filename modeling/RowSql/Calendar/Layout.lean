import RowSql.Text.Space
/-!
# Layout — how dates are laid out in texts

A layout is a list of items: fields, literal characters and blanks.  Its text writes a field as a percent sign and a
letter, with a hyphen or a width between them, and a percent sign as two.
-/
namespace RowSql
namespace Calendar

/-- **A field of a layout.**  A field that is not `padded` has no leading zero. -/
inductive Slot where
  | year
  | yearOfCentury
  | month (padded : Bool)
  | monthName (long : Bool)
  | day (padded : Bool)
  | ordinal
  | hour (padded : Bool)
  | hour12 (padded : Bool)
  | minute (padded : Bool)
  | second (padded : Bool)
  /-- The fraction of the second, with its point if it is there. -/
  | fraction
  /-- A number of digits of the fraction of the second. -/
  | fractionDigits (count : Nat)
  | halfDay
  | weekdayName (long : Bool)
  /-- The distance from universal time. -/
  | offset (colon : Bool)
deriving DecidableEq, Repr

/-- **An item of a layout.** -/
inductive Item where
  | slot (s : Slot)
  | literal (c : Char)
  | blank (c : Char)
deriving DecidableEq, Repr

/-- The field after a percent sign, and the text after it. -/
def readSlot? : List Char → Option (Slot × List Char)
  | 'Y' :: cs => some (.year, cs)
  | 'y' :: cs => some (.yearOfCentury, cs)
  | 'm' :: cs => some (.month true, cs)
  | '-' :: 'm' :: cs => some (.month false, cs)
  | 'b' :: cs => some (.monthName false, cs)
  | 'B' :: cs => some (.monthName true, cs)
  | 'd' :: cs => some (.day true, cs)
  | '-' :: 'd' :: cs => some (.day false, cs)
  | 'j' :: cs => some (.ordinal, cs)
  | 'H' :: cs => some (.hour true, cs)
  | '-' :: 'H' :: cs => some (.hour false, cs)
  | 'I' :: cs => some (.hour12 true, cs)
  | '-' :: 'I' :: cs => some (.hour12 false, cs)
  | 'M' :: cs => some (.minute true, cs)
  | '-' :: 'M' :: cs => some (.minute false, cs)
  | 'S' :: cs => some (.second true, cs)
  | '-' :: 'S' :: cs => some (.second false, cs)
  | '.' :: 'f' :: cs => some (.fraction, cs)
  | '3' :: 'f' :: cs => some (.fractionDigits 3, cs)
  | '6' :: 'f' :: cs => some (.fractionDigits 6, cs)
  | 'p' :: cs => some (.halfDay, cs)
  | 'a' :: cs => some (.weekdayName false, cs)
  | 'A' :: cs => some (.weekdayName true, cs)
  | 'z' :: cs => some (.offset false, cs)
  | ':' :: 'z' :: cs => some (.offset true, cs)
  | _ => none

/-- The text of a field, after its percent sign. -/
def Slot.text : Slot → List Char
  | .year => ['Y']
  | .yearOfCentury => ['y']
  | .month padded => if padded then ['m'] else ['-', 'm']
  | .monthName long => if long then ['B'] else ['b']
  | .day padded => if padded then ['d'] else ['-', 'd']
  | .ordinal => ['j']
  | .hour padded => if padded then ['H'] else ['-', 'H']
  | .hour12 padded => if padded then ['I'] else ['-', 'I']
  | .minute padded => if padded then ['M'] else ['-', 'M']
  | .second padded => if padded then ['S'] else ['-', 'S']
  | .fraction => ['.', 'f']
  | .fractionDigits count => if count = 3 then ['3', 'f'] else ['6', 'f']
  | .halfDay => ['p']
  | .weekdayName long => if long then ['A'] else ['a']
  | .offset colon => if colon then [':', 'z'] else ['z']

/-- The items of a text of at most `fuel` characters; nothing if a percent sign introduces no field. -/
def readItems? : Nat → List Char → Option (List Item)
  | _, [] => some []
  | 0, _ => none
  | fuel + 1, c :: cs =>
    if c == '%' then
      match cs with
      | '%' :: rest => (readItems? fuel rest).map (.literal '%' :: ·)
      | _ =>
        match readSlot? cs with
        | some (s, rest) => (readItems? fuel rest).map (.slot s :: ·)
        | none => none
    else (readItems? fuel cs).map ((if Text.isSpace c then .blank c else .literal c) :: ·)

/-- **The layout that a text spells.** -/
def layout? (cs : List Char) : Option (List Item) := readItems? cs.length cs

end Calendar
end RowSql
