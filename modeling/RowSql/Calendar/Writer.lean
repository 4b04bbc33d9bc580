import RowSql.Calendar.Date
import RowSql.Calendar.Layout
/-!
# Writer — moments as text
-/
namespace RowSql
namespace Calendar

/-- The decimal digits of `n`, with leading zeros up to a width. -/
def padDigits (width n : Nat) : List Char :=
  let ds := Nat.toDigits 10 n
  List.replicate (width - ds.length) '0' ++ ds

def twoDigits (padded : Bool) (n : Nat) : List Char := if padded then padDigits 2 n else Nat.toDigits 10 n

def monthNames : List String :=
  ["January", "February", "March", "April", "May", "June", "July", "August", "September", "October", "November",
   "December"]

/-- The names of the days of the week from Monday on. -/
def weekdayNames : List String := ["Monday", "Tuesday", "Wednesday", "Thursday", "Friday", "Saturday", "Sunday"]

/-- A name, or its first three letters. -/
def shortName (long : Bool) (name : String) : List Char := if long then name.toList else name.toList.take 3

/-- A year has four digits, and a sign when that is not enough. -/
def writeYear (y : Int) : List Char :=
  if 0 ≤ y ∧ y ≤ 9999 then padDigits 4 y.toNat else (if y < 0 then '-' else '+') :: padDigits 4 y.natAbs

/-- The text of a field of a moment. -/
def Slot.write (t : Moment) : Slot → List Char
  | .year => writeYear t.date.year
  | .yearOfCentury => padDigits 2 (t.date.year % 100).toNat
  | .month padded => twoDigits padded t.date.month
  | .monthName long => shortName long (monthNames.getD (t.date.month - 1) "")
  | .day padded => twoDigits padded t.date.day
  | .ordinal => padDigits 3 t.date.ordinal
  | .hour padded => twoDigits padded t.hour
  | .hour12 padded => twoDigits padded (if t.hour % 12 = 0 then 12 else t.hour % 12)
  | .minute padded => twoDigits padded t.minute
  | .second padded => twoDigits padded (t.secondOfMinute + t.nanosecond / Moment.secondNanos)
  | .fraction =>
    let n := t.nanosecond % Moment.secondNanos
    if n = 0 then []
    else if n % 1000000 = 0 then '.' :: padDigits 3 (n / 1000000)
    else if n % 1000 = 0 then '.' :: padDigits 6 (n / 1000)
    else '.' :: padDigits 9 n
  | .fractionDigits count => padDigits count (t.nanosecond % Moment.secondNanos / Nat.pow 10 (9 - count))
  | .halfDay => if t.hour < 12 then ['A', 'M'] else ['P', 'M']
  | .weekdayName long => shortName long (weekdayNames.getD t.date.weekday "")
  | .offset colon => if colon then "+00:00".toList else "+0000".toList

def Item.write (t : Moment) : Item → List Char
  | .slot s => s.write t
  | .literal c => [c]
  | .blank c => [c]

/-- **A moment in a layout.** -/
def write (items : List Item) (t : Moment) : List Char := items.flatMap (Item.write t)

/-- The layout `%Y-%m-%d`. -/
def dateLayout : List Item :=
  [.slot .year, .literal '-', .slot (.month true), .literal '-', .slot (.day true)]

/-- The layout `%Y-%m-%d %H:%M:%S`. -/
def momentLayout : List Item :=
  dateLayout ++ [.blank ' ', .slot (.hour true), .literal ':', .slot (.minute true), .literal ':', .slot (.second true)]

def Date.text (d : Date) : String := String.ofList (write dateLayout (.midnight d))

def Moment.text (t : Moment) : String := String.ofList (write momentLayout t)

end Calendar
end RowSql
