import RowSql.Calendar.Writer
/-!
# Reader — moments from text

A layout is read item by item; each field sets what it says about the moment, and two fields must not disagree.
Then the date is found from the year, month and day or from the year and the day of the year, and checked
against what else was read.
-/
namespace RowSql
namespace Calendar

/-- **What the fields of a text say about a moment.** -/
structure Fields where
  year : Option Int := none
  yearOfCentury : Option Int := none
  month : Option Int := none
  day : Option Int := none
  ordinal : Option Int := none
  weekday : Option Int := none
  halfDay : Option Int := none
  hour12 : Option Int := none
  minute : Option Int := none
  second : Option Int := none
  nanosecond : Option Int := none
  offset : Option Int := none

/-- A value for a field that is unset or has that value already. -/
def agree (old : Option Int) (new : Int) : Option (Option Int) :=
  match old with
  | none => some (some new)
  | some v => if v = new then some (some v) else none

/-- A value within bounds. -/
def within (low high v : Int) : Option Int := if low ≤ v ∧ v ≤ high then some v else none

namespace Fields

def setYear (f : Fields) (v : Int) : Option Fields := do
  let v ← within (-2147483648) 2147483647 v
  return { f with year := ← agree f.year v }

def setYearOfCentury (f : Fields) (v : Int) : Option Fields := do
  return { f with yearOfCentury := ← agree f.yearOfCentury (← within 0 99 v) }

def setMonth (f : Fields) (v : Int) : Option Fields := do
  return { f with month := ← agree f.month (← within 1 12 v) }

def setDay (f : Fields) (v : Int) : Option Fields := do
  return { f with day := ← agree f.day (← within 1 31 v) }

def setOrdinal (f : Fields) (v : Int) : Option Fields := do
  return { f with ordinal := ← agree f.ordinal (← within 1 366 v) }

def setWeekday (f : Fields) (v : Int) : Option Fields := do return { f with weekday := ← agree f.weekday v }

def setHalfDay (f : Fields) (v : Int) : Option Fields := do return { f with halfDay := ← agree f.halfDay v }

def setHour (f : Fields) (v : Int) : Option Fields := do
  let v ← within 0 23 v
  let f ← f.setHalfDay (v / 12)
  return { f with hour12 := ← agree f.hour12 (v % 12) }

def setHour12 (f : Fields) (v : Int) : Option Fields := do
  return { f with hour12 := ← agree f.hour12 ((← within 1 12 v) % 12) }

def setMinute (f : Fields) (v : Int) : Option Fields := do
  return { f with minute := ← agree f.minute (← within 0 59 v) }

def setSecond (f : Fields) (v : Int) : Option Fields := do
  return { f with second := ← agree f.second (← within 0 60 v) }

def setNanosecond (f : Fields) (v : Int) : Option Fields := do
  return { f with nanosecond := ← agree f.nanosecond (← within 0 999999999 v) }

def setOffset (f : Fields) (v : Int) : Option Fields := do return { f with offset := ← agree f.offset v }

end Fields

/-- A number of `least` to `most` digits, as many as there are, and the text after it; it fits a word. -/
def readNumber? (least most : Nat) (cs : List Char) : Option (Int × List Char) :=
  let ds := (cs.take most).takeWhile Char.isDigit
  if ds.length < least then none
  else
    let n : Nat := ds.foldl (fun n c => n * 10 + (c.toNat - 48)) 0
    if n ≤ 9223372036854775807 then some ((n : Int), cs.drop ds.length) else none

/-- A year of at most four digits, or a sign and any number of them. -/
def readYear? (cs : List Char) : Option (Int × List Char) :=
  match cs with
  | '-' :: cs => (readNumber? 1 cs.length cs).map fun (n, rest) => (-n, rest)
  | '+' :: cs => readNumber? 1 cs.length cs
  | cs => readNumber? 1 4 cs

/-- The position of the first name whose first three letters begin the text, in any case, and the text after them. -/
def readShortName? (names : List String) (cs : List Char) : Option (Nat × List Char) :=
  (names.findIdx? fun name => Text.sameIgnoringCase (name.toList.take 3) (cs.take 3)).map (·, cs.drop 3)

/-- The same, where the rest of the name may follow. -/
def readName? (long : Bool) (names : List String) (cs : List Char) : Option (Nat × List Char) := do
  let (i, rest) ← readShortName? names cs
  let more := (names.getD i "").toList.drop 3
  return if long && Text.sameIgnoringCase more (rest.take more.length) then (i, rest.drop more.length) else (i, rest)

/-- The first nine digits of a fraction of a second; further digits are passed over. -/
def readFraction? (cs : List Char) : Option (Int × List Char) := do
  let (n, rest) ← readNumber? 1 9 cs
  return (n * Nat.pow 10 (9 - (cs.length - rest.length)), rest.dropWhile Char.isDigit)

/-- A distance from universal time in seconds: a sign, two digits of hours, a separator and two digits of minutes. -/
def readOffset? (separator : List Char → Option (List Char)) (cs : List Char) : Option (Int × List Char) := do
  let (negative, cs) ← match cs with
    | '+' :: cs => some (false, cs)
    | '-' :: cs => some (true, cs)
    | '\u2212' :: cs => some (true, cs)
    | _ => none
  let (hours, cs) ← readNumber? 2 2 cs
  let (minutes, cs) ← readNumber? 2 2 (← separator cs)
  if 59 < minutes then none
  else
    let seconds := hours * 3600 + minutes * 60
    return (if negative then -seconds else seconds, cs)

/-- Drops colons and blanks. -/
def anySeparator (cs : List Char) : Option (List Char) := some (cs.dropWhile fun c => c == ':' || Text.isSpace c)

/-- Drops a character that has to be there. -/
def expect (c : Char) : List Char → Option (List Char)
  | d :: cs => if d == c then some cs else none
  | [] => none

/-- Reads a number of at most `width` digits, after blanks, into a field. -/
def readInto (set : Int → Option Fields) (width : Nat) (cs : List Char) : Option (Fields × List Char) := do
  let (v, rest) ← readNumber? 1 width (Text.trimLeft cs)
  return (← set v, rest)

/-- Reads one field. -/
def Slot.read? (f : Fields) (cs : List Char) : Slot → Option (Fields × List Char)
  | .year => do
    let (v, rest) ← readYear? (Text.trimLeft cs)
    return (← f.setYear v, rest)
  | .yearOfCentury => readInto f.setYearOfCentury 2 cs
  | .month _ => readInto f.setMonth 2 cs
  | .monthName long => do
    let (i, rest) ← readName? long monthNames cs
    return (← f.setMonth (i + 1), rest)
  | .day _ => readInto f.setDay 2 cs
  | .ordinal => readInto f.setOrdinal 3 cs
  | .hour _ => readInto f.setHour 2 cs
  | .hour12 _ => readInto f.setHour12 2 cs
  | .minute _ => readInto f.setMinute 2 cs
  | .second _ => readInto f.setSecond 2 cs
  | .fraction =>
    match cs with
    | '.' :: rest => do
      let (v, rest) ← readFraction? rest
      return (← f.setNanosecond v, rest)
    | _ => some (f, cs)
  | .fractionDigits count => do
    let (v, rest) ← readNumber? count count cs
    return (← f.setNanosecond (v * Nat.pow 10 (9 - count)), rest)
  | .halfDay =>
    match Text.lowerAscii (cs.take 2) with
    | ['a', 'm'] => do return (← f.setHalfDay 0, cs.drop 2)
    | ['p', 'm'] => do return (← f.setHalfDay 1, cs.drop 2)
    | _ => none
  | .weekdayName long => do
    let (i, rest) ← readName? long weekdayNames cs
    return (← f.setWeekday i, rest)
  | .offset _ => do
    let (v, rest) ← readOffset? anySeparator (Text.trimLeft cs)
    return (← f.setOffset v, rest)

/-- Reads one item.  A blank of the layout stands for any number of blanks. -/
def Item.read? (f : Fields) (cs : List Char) : Item → Option (Fields × List Char)
  | .slot s => s.read? f cs
  | .literal c => (expect c cs).map (f, ·)
  | .blank _ => some (f, Text.trimLeft cs)

/-- Reads items one after another; nothing must be left. -/
def readAll? : List Item → Fields → List Char → Option Fields
  | [], f, cs => if cs.isEmpty then some f else none
  | i :: is, f, cs =>
    match i.read? f cs with
    | some (f, rest) => readAll? is f rest
    | none => none

/-- A year below 70 of a century is of the 21st one, the others are of the 20th. -/
def Fields.fullYear? (f : Fields) : Option Int :=
  match f.year, f.yearOfCentury with
  | some y, none => some y
  | some y, some r => if 0 ≤ y ∧ y % 100 = r then some y else none
  | none, some r => some (if r < 70 then 2000 + r else 1900 + r)
  | none, none => none

/-- **The date that the fields say.** -/
def Fields.date? (f : Fields) : Option Date := do
  let year ← f.fullYear?
  let d ← match f.month, f.day, f.ordinal with
    | some m, some d, _ => Date.make? year m.toNat d.toNat
    | _, _, some n => Date.ofOrdinal? year n.toNat
    | _, _, _ => none
  if f.month.getD d.month = d.month ∧ f.day.getD d.day = d.day ∧ f.ordinal.getD d.ordinal = d.ordinal
      ∧ f.weekday.getD d.weekday = d.weekday then
    some d
  else none

/-- **The moment that the fields say.**  Hour and minute are needed, and seconds when there is a fraction; the second 60
is a leap second. -/
def Fields.moment? (f : Fields) : Option Moment := do
  let d ← f.date?
  let hour := (← f.halfDay) * 12 + (← f.hour12)
  let minute ← f.minute
  if f.second.isNone ∧ f.nanosecond.isSome then none
  else
    let second := f.second.getD 0
    let (second, leap) := if second = 60 then (59, Moment.secondNanos) else (second.toNat, 0)
    return ⟨d, (hour * 3600 + minute * 60).toNat + second, leap + (f.nanosecond.getD 0).toNat⟩

/-- The moment that a text spells in a layout. -/
def readMoment? (items : List Item) (cs : List Char) : Option Moment := (readAll? items {} cs).bind Fields.moment?

/-- The date that a text spells in a layout. -/
def readDate? (items : List Item) (cs : List Char) : Option Date := (readAll? items {} cs).bind Fields.date?

/-- The greatest distance from universal time. -/
def offsetLimit : Int := (23 * 60 + 59) * 60

/-- A separator between date and time. -/
def expectBetween : List Char → Option (List Char)
  | c :: cs => if c == 't' || c == 'T' || c == ' ' then some cs else none
  | [] => none

/-- A text with a distance from universal time, every field with all its digits; the moment is in universal time. -/
def readZoned? (cs : List Char) : Option Moment := do
  let (year, cs) ← readNumber? 4 4 cs
  let (month, cs) ← readNumber? 2 2 (← expect '-' cs)
  let (day, cs) ← readNumber? 2 2 (← expect '-' cs)
  let (hour, cs) ← readNumber? 2 2 (← expectBetween cs)
  let (minute, cs) ← readNumber? 2 2 (← expect ':' cs)
  let (second, cs) ← readNumber? 2 2 (← expect ':' cs)
  let f ← (← (← (← (← (Fields.setYear {} year)).setMonth month).setDay day).setHour hour).setMinute minute
  let f ← f.setSecond second
  let (f, cs) ← Slot.fraction.read? f cs
  let (offset, cs) ← match cs with
    | 'Z' :: cs => some (0, cs)
    | 'z' :: cs => some (0, cs)
    | cs => readOffset? (expect ':') cs
  if !cs.isEmpty || offset < -offsetLimit || offsetLimit < offset then none
  else (← f.moment?).sub? offset

/-- The layouts of moments that are tried in order. -/
def momentLayouts : List String :=
  ["%Y-%m-%d %H:%M:%S%.f", "%Y-%m-%dT%H:%M:%S%.f", "%Y-%m-%d %H:%M", "%Y/%m/%d %H:%M:%S"]

/-- The layouts of dates that are tried in order. -/
def dateLayouts : List String := ["%Y-%m-%d", "%Y/%m/%d", "%Y%m%d"]

/-- **The moment of a cell of data**, white space around it dropped: in one of the layouts of moments, with a
distance from universal time, or in one of the layouts of dates at midnight. -/
def ofText? (s : String) : Option Moment :=
  let cs := Text.trim s.toList
  let moments := momentLayouts.findSome? fun l => (layout? l.toList).bind (readMoment? · cs)
  let dates := dateLayouts.findSome? fun l => (layout? l.toList).bind (readDate? · cs)
  moments.or ((readZoned? cs).or (dates.map Moment.midnight))

/-- **The moment that a text spells in a pattern of letters**; a date alone is at midnight. -/
def ofPattern? (items : List Item) (s : String) : Option Moment :=
  (readMoment? items s.toList).or ((readDate? items s.toList).map Moment.midnight)

end Calendar
end RowSql
