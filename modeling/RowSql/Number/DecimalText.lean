import RowSql.Number.Decimal
import RowSql.Text.Space
/-!
# DecimalText — decimals as text

Reading: an optional sign, digits with at most one point, and an optional exponent.  Underscores may stand after the
first digit.  The scale is the number of digits after the point less the exponent, and is kept.

Writing: plain digits where that takes few zeros, and an exponent beyond: more than five zeros between the point and the
first digit give `d.dddE-n`, more than fifteen zeros after the last digit give the digits and `e+n`.
-/
namespace RowSql
namespace Decimal

/-- The value of a decimal digit. -/
def digitValue? (c : Char) : Option Nat := if c.isDigit then some (c.toNat - '0'.toNat) else none

/-- The natural number that digits and underscores spell, after the digits read so far. -/
def readDigits (acc : Nat) : List Char → Option Nat
  | [] => some acc
  | '_' :: cs => readDigits acc cs
  | c :: cs => do readDigits (acc * 10 + (← digitValue? c)) cs

/-- Digits and underscores, with a digit first. -/
def readNatural : List Char → Option Nat
  | [] => none
  | '_' :: _ => none
  | cs => readDigits 0 cs

/-- An optional sign and a natural number. -/
def readInteger : List Char → Option Int
  | '-' :: cs => (readNatural cs).map fun n => -(n : Int)
  | '+' :: cs => (readNatural cs).map fun n => (n : Int)
  | cs => (readNatural cs).map fun n => (n : Int)

/-- A natural number of plain digits. -/
def readPlain (cs : List Char) : Option Nat := if cs.all Char.isDigit then readNatural cs else none

/-- The first exponent that 128 signed bits do not hold. -/
def exponentLimit : Nat := Nat.pow 2 127

/-- An exponent: an optional sign and plain digits, of at most 127 bits. -/
def readExponent (cs : List Char) : Option Int := do
  let e ← match cs with
    | '-' :: ds => (readPlain ds).map fun n => -(n : Int)
    | '+' :: ds => (readPlain ds).map fun n => (n : Int)
    | ds => (readPlain ds).map fun n => (n : Int)
  if -(exponentLimit : Int) ≤ e ∧ e < exponentLimit then some e else none

/-- The text before the first character that `p` accepts, and the text after it, if there is one. -/
def splitAt? (p : Char → Bool) : List Char → Option (List Char × List Char)
  | [] => none
  | c :: cs => if p c then some ([], cs) else (splitAt? p cs).map fun (a, b) => (c :: a, b)

/-- The digits of a number without an exponent, point taken out, and the number of digits after the point. -/
def readMantissa (cs : List Char) : Option (Int × Nat) :=
  match splitAt? (· == '.') cs with
  | none => (readInteger cs).map (·, 0)
  | some (lead, trail) =>
    (readInteger (lead ++ trail)).map (·, (trail.filter (· != '_')).length)

/-- **The decimal that a text spells.** -/
def parse? (cs : List Char) : Option Decimal := do
  let (base, e) ← match splitAt? (fun c => c == 'e' || c == 'E') cs with
    | none => some (cs, 0)
    | some (base, exp) => (readExponent exp).map (base, ·)
  let (digits, places) ← readMantissa base
  let s := (places : Int) - e
  if Whole.least ≤ s ∧ s ≤ Whole.greatest then some ⟨digits, s⟩ else none

/-- The largest scale, of either sign, of a decimal that is read from data. -/
def scaleLimit : Nat := 4096

/-- **A text over which the program halts**: it spells a decimal of the least scale.  The size of a scale is
taken before it is compared with `scaleLimit`, and that of the least word is no word. -/
def halts (s : String) : Bool := (parse? (Text.trim s.toList)).any fun d => d.scale == Whole.least

/-- **The decimal in a cell of data**: white space around it is dropped, and a scale of a size beyond
`scaleLimit` is refused.  There is none in a text that `halts`; whatever reads texts of data asks for that
first. -/
def ofText? (s : String) : Option Decimal :=
  (parse? (Text.trim s.toList)).filter fun d => d.scale.natAbs ≤ scaleLimit

/-- The decimal digits of `n`, most significant first. -/
def digitChars (n : Nat) : List Char := Nat.toDigits 10 n

def zeros (n : Nat) : List Char := List.replicate n '0'

/-- The number `ds · 10 ^ (-places)` in plain notation. -/
def plainChars (ds : List Char) (places : Nat) : List Char :=
  if places = 0 then ds
  else if ds.length ≤ places then '0' :: '.' :: (zeros (places - ds.length) ++ ds)
  else ds.take (ds.length - places) ++ '.' :: ds.drop (ds.length - places)

/-- One digit, the point and the other digits, if there are any. -/
def pointed : List Char → List Char
  | [] => []
  | [d] => [d]
  | d :: ds => d :: '.' :: ds

/-- The most zeros between the point and the first digit in plain notation. -/
def leadingZeroLimit : Nat := 5

/-- The most zeros after the last digit in plain notation. -/
def trailingZeroLimit : Nat := 15

/-- The text of a magnitude that is not zero. -/
def renderMagnitude (n : Nat) (scale : Int) : List Char :=
  let ds := digitChars n
  if 0 ≤ scale then
    let s := scale.toNat
    if ds.length + leadingZeroLimit < s then pointed ds ++ 'E' :: '-' :: digitChars (s + 1 - ds.length)
    else plainChars ds s
  else
    let z := scale.natAbs
    if z ≤ trailingZeroLimit then ds ++ zeros z else ds ++ 'e' :: '+' :: digitChars z

/-- **The text of a decimal.**  Zero is `0` at every scale. -/
def render (d : Decimal) : List Char :=
  if d.isZero then ['0']
  else if d.digits < 0 then '-' :: renderMagnitude d.digits.natAbs d.scale
  else renderMagnitude d.digits.natAbs d.scale

instance : ToString Decimal := ⟨fun d => String.ofList d.render⟩

end Decimal
end RowSql
