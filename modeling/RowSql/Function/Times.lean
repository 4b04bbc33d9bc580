import RowSql.Calendar.Letters
import RowSql.Calendar.Reader
import RowSql.Context
/-!
# Times — functions on dates and times

Moments travel as texts and are in universal time.  The current moment is the processing time of the pass, the same for
every row.
-/
namespace RowSql

/-- The parts of a moment that a function gives. -/
inductive TimePart where
  | year
  | quarter
  | month
  | week
  | dayOfYear
  | dayOfMonth
  /-- From Sunday, one, to Saturday, seven. -/
  | dayOfWeek
  | hour
  | minute
  | second
deriving DecidableEq, Repr, Inhabited

def TimePart.ofMoment (p : TimePart) (t : Calendar.Moment) : Int :=
  match p with
  | .year => t.date.year
  | .quarter => t.date.quarter
  | .month => t.date.month
  | .week => t.date.week
  | .dayOfYear => t.date.ordinal
  | .dayOfMonth => t.date.day
  | .dayOfWeek => (t.date.weekday + 1) % 7 + 1
  | .hour => t.hour
  | .minute => t.minute
  | .second => t.secondOfMinute

inductive TimeFunction where
  | now
  | today
  | toSeconds
  | ofSeconds
  | toDate
  | format
  | part (p : TimePart)
  | addDays
  | subDays
  | daysBetween
deriving DecidableEq, Repr, Inhabited

namespace TimeFunction

/-- The layout that a pattern of letters spells, or the usual one of moments. -/
def layoutOf? : Option Value → Option (List Calendar.Item)
  | none => some Calendar.momentLayout
  | some v => v.toText?.bind fun s => Calendar.layout? (Calendar.Letters.toLayout s.toList)

/-- The moment that a value spells, in a pattern if there is one. -/
def moment? (v : Value) (pattern : Option Value) : Option Calendar.Moment :=
  match pattern with
  | none => v.toText?.bind Calendar.ofText?
  | some p => do Calendar.ofPattern? (← layoutOf? (some p)) (← v.toText?)

def formatOf (t : Calendar.Moment) (pattern : Option Value) : Value :=
  .ofText? ((layoutOf? pattern).map fun items => String.ofList (Calendar.write items t))

def dateValue (d : Option Calendar.Date) : Value := .ofText? (d.map Calendar.Date.text)

def wholeValue (n : Int) : Value := .ofWhole? (Whole.ofInt? n)

/-- The date of a value some days later. -/
def shift (v : Value) (days : Option Int) : Value :=
  dateValue do (← moment? v none).date.addDays? (← days)

/-- The number of days that a value asks to go back; the least word has no opposite. -/
def back? (n : Whole) : Option Int := (Whole.ofInt? (-n.toInt)).map Int64.toInt

/-- **The result of a function on dates and times.** -/
def apply (f : TimeFunction) (context : Context) (args : List Value) : Value :=
  match f, args with
  | .now, _ => .text context.time.text
  | .today, _ => .text context.time.date.text
  | .toSeconds, [] => wholeValue context.time.toSeconds
  | .toSeconds, v :: pattern => ((moment? v pattern.head?).map fun t => wholeValue t.toSeconds).getD .null
  | .ofSeconds, v :: pattern =>
    match v.toWhole?.bind fun n => Calendar.Moment.ofSeconds? n.toInt with
    | some t => formatOf t pattern.head?
    | none => .null
  | .toDate, v :: pattern => dateValue ((moment? v pattern.head?).map Calendar.Moment.date)
  | .format, [v, pattern] =>
    match moment? v none with
    | some t => formatOf t (some pattern)
    | none => .null
  | .part p, [v] => ((moment? v none).map fun t => wholeValue (p.ofMoment t)).getD .null
  | .addDays, [v, n] => shift v (n.toWhole?.map Int64.toInt)
  | .subDays, [v, n] => shift v (n.toWhole?.bind back?)
  | .daysBetween, [a, b] =>
    match moment? a none, moment? b none with
    | some s, some t => wholeValue (s.date.toDays - t.date.toDays)
    | _, _ => .null
  | _, _ => .null

/-- The program halts over the number that the function reads. -/
def halts (f : TimeFunction) (args : List Value) : Bool :=
  match f, args with
  | .ofSeconds, v :: _ => v.halts
  | .addDays, [_, n] => n.halts
  | .subDays, [_, n] => n.halts
  | _, _ => false

end TimeFunction
end RowSql
