import RowSql.Calendar.Date
import RowSql.Config.Node
import RowSql.Number.FloatText
import RowSql.Toml.Quoted
/-!
# Scalar — numbers, dates and single values

Whole numbers have 64 signed bits and, without a sign, may be in base 16, 8 or 2; an underscore may stand
between two digits.
-/
namespace RowSql
namespace Toml

open Config (Node)

/-- The digits after a first one; an underscore counts only before a digit. -/
def moreDigits (base : Nat) : List Char → List Char × List Char
  | '_' :: c :: cs =>
    if Text.isDigitIn base c then
      let (ds, rest) := moreDigits base cs
      (c :: ds, rest)
    else ([], '_' :: c :: cs)
  | c :: cs =>
    if Text.isDigitIn base c then
      let (ds, rest) := moreDigits base cs
      (c :: ds, rest)
    else ([], c :: cs)
  | [] => ([], [])

/-- Digits of a base, underscores taken out. -/
def digits? (base : Nat) : Reader (List Char)
  | [] => none
  | c :: cs =>
    if Text.isDigitIn base c then
      let (ds, rest) := moreDigits base cs
      some (c :: ds, rest)
    else none

/-- An optional sign, as it is written. -/
def sign : List Char → List Char × List Char
  | '-' :: cs => (['-'], cs)
  | '+' :: cs => ([], cs)
  | cs => ([], cs)

/-- Decimal digits; a zero in front of others is not one of them. -/
def wholeDigits? : Reader (List Char)
  | '0' :: cs => some (['0'], cs)
  | cs => digits? 10 cs

/-- The whole number of digits of a base, if it has 64 signed bits. -/
def wholeOf? (base : Nat) (minus : Bool) (ds : List Char) : Option Whole := do
  let n ← Text.number? base ds
  Whole.ofInt? (if minus then -(n : Int) else n)

/-- **A whole number.** -/
def whole? : Reader Whole := fun cs => do
  let (base, minus, (ds, rest)) ← match cs with
    | '0' :: 'x' :: cs => (digits? 16 cs).map (16, false, ·)
    | '0' :: 'o' :: cs => (digits? 8 cs).map (8, false, ·)
    | '0' :: 'b' :: cs => (digits? 2 cs).map (2, false, ·)
    | cs =>
      let (minus, cs) := sign cs
      (wholeDigits? cs).map (10, !minus.isEmpty, ·)
  return (← wholeOf? base minus ds, rest)

/-- The digits after a point, and the point. -/
def fraction? : Reader (List Char)
  | '.' :: cs => (digits? 10 cs).map fun (ds, rest) => ('.' :: ds, rest)
  | _ => none

/-- An exponent. -/
def exponent? : Reader (List Char)
  | c :: cs =>
    if c == 'e' || c == 'E' then
      let (minus, cs) := sign cs
      (digits? 10 cs).map fun (ds, rest) => ('e' :: (minus ++ ds), rest)
    else none
  | [] => none

/-- A fraction, an exponent, or the one and the other. -/
def floatTail? : Reader (List Char) := fun cs =>
  match fraction? cs with
  | none => exponent? cs
  | some (point, rest) =>
    match exponent? rest with
    | some (e, rest) => some (point ++ e, rest)
    | none => some (point, rest)

/-- A float in digits; one that is too large is none, but one that is too small below zero is infinite. -/
def floatDigits? : Reader Float := fun cs => do
  let (minus, rest) := sign cs
  let (ds, rest) ← wholeDigits? rest
  let (tail, rest) ← floatTail? rest
  let x ← FloatText.parse? (minus ++ ds ++ tail)
  if x.isInf && minus.isEmpty then none else some (x, rest)

/-- An infinity, or no number. -/
def floatName? : Reader Float := fun cs =>
  let (minus, rest) := sign cs
  match rest with
  | 'i' :: 'n' :: 'f' :: rest => (FloatText.parse? (minus ++ ['i', 'n', 'f'])).map (·, rest)
  | 'n' :: 'a' :: 'n' :: rest => (FloatText.parse? (minus ++ ['n', 'a', 'n'])).map (·, rest)
  | _ => none

/-- **A float.** -/
def float? : Reader Float := fun cs => floatDigits? cs <|> floatName? cs

/-! ## Dates and times -/

/-- As many decimal digits as are asked for, and their number. -/
def fixedDigits? (count : Nat) : Reader (List Char × Nat) := fun cs =>
  let ds := cs.take count
  if ds.length = count then (Text.number? 10 ds).map fun n => ((ds, n), cs.drop count) else none

/-- Two digits in a range. -/
def twoDigits? (least most : Nat) : Reader (List Char × Nat) := fun cs =>
  (fixedDigits? 2 cs).filter fun ((_, n), _) => least ≤ n && n ≤ most

/-- The text after a character that has to be there. -/
def after? (c : Char) : List Char → Option (List Char)
  | [] => none
  | d :: cs => if d == c then some cs else none

/-- A date, as text. -/
def date? : Reader (List Char) := fun cs => do
  let ((year, y), cs) ← fixedDigits? 4 cs
  let ((month, m), cs) ← twoDigits? 1 12 (← after? '-' cs)
  let ((day, _), cs) ← twoDigits? 1 (Calendar.monthLength y m) (← after? '-' cs)
  return (year ++ '-' :: month ++ '-' :: day, cs)

/-- A fraction of a second: nine places, and no zeros at the end. -/
def nanoseconds (ds : List Char) : List Char :=
  let shown := ((ds.take 9).reverse.dropWhile (· == '0')).reverse
  if shown.isEmpty then [] else '.' :: shown

/-- A time of day, as text. -/
def time? : Reader (List Char) := fun cs => do
  let ((hour, _), cs) ← twoDigits? 0 23 cs
  let ((minute, _), cs) ← twoDigits? 0 59 (← after? ':' cs)
  let ((second, _), cs) ← twoDigits? 0 60 (← after? ':' cs)
  let clock := hour ++ ':' :: minute ++ ':' :: second
  match cs with
  | '.' :: c :: rest =>
    if c.isDigit then
      let (ds, rest) := (c :: rest).span Char.isDigit
      return (clock ++ nanoseconds ds, rest)
    else none
  | cs => return (clock, cs)

/-- A distance from universal time, as text. -/
def offset? : Reader (List Char)
  | [] => none
  | c :: cs =>
    if c == 'Z' || c == 'z' then some (['Z'], cs)
    else if c == '+' || c == '-' then do
      let ((hour, h), cs) ← twoDigits? 0 23 cs
      let ((minute, m), cs) ← twoDigits? 0 59 (← after? ':' cs)
      return ((if h = 0 && m = 0 then '+' else c) :: hour ++ ':' :: minute, cs)
    else none

/-- What follows a date: a time of day, and a distance from universal time. -/
def dayTime? : Reader (List Char)
  | [] => none
  | c :: cs =>
    if c == 'T' || c == 't' || c == ' ' then
      match time? cs with
      | none => none
      | some (clock, cs) =>
        match offset? cs with
        | some (o, cs) => some ('T' :: clock ++ o, cs)
        | none => some ('T' :: clock, cs)
    else none

/-- **A date, a time of day or both**, as text. -/
def moment? : Reader (List Char) := fun cs =>
  match date? cs with
  | some (day, rest) =>
    match dayTime? rest with
    | some (clock, rest) => some (day ++ clock, rest)
    | none => some (day, rest)
  | none => time? cs

/-- The name under which a date, which is no setting, is a member of a table. -/
def momentKey : String := "$__toml_private_datetime"

/-! ## Values -/

/-- A word, and what it stands for. -/
def word? (word : String) (s : Setting) : Reader Node := fun cs =>
  if word.toList.isPrefixOf cs then some (.setting s, cs.drop word.length) else none

/-- A date or a number. -/
def number? : Reader Node := fun cs =>
  match moment? cs with
  | some (text, rest) => some (.table [(momentKey, .setting (.text (String.ofList text)))], rest)
  | none =>
    match float? cs with
    | some (x, rest) => some (.setting (.float x), rest)
    | none => (whole? cs).map fun (n, rest) => (.setting (.whole n), rest)

/-- **A value that is neither a list nor a table.** -/
def scalar? : Reader Node := fun cs =>
  match cs with
  | [] => none
  | c :: _ =>
    if c == '"' || c == '\'' then (quoted? cs).map fun (s, rest) => (.setting (.text s), rest)
    else if c == 't' then word? "true" (.flag true) cs
    else if c == 'f' then word? "false" (.flag false) cs
    else number? cs

end Toml
end RowSql
