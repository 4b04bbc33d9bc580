import RowSql.Position
import RowSql.Text.Base64
import RowSql.Text.Offsets
import RowSql.Text.Parts
import RowSql.Text.Utf8
import RowSql.Unicode.Case
import RowSql.Unicode.Category
import RowSql.Value
/-!
# Texts — functions on texts

Every argument that is there is read as a text.  Positions count characters from one.  A function that builds a
text of a length that its data say gives nothing beyond a limit.
-/
namespace RowSql

inductive TextFunction where
  | upper
  | lower
  | length
  | concat
  | concatWith
  | substring
  | trim
  | trimLeft
  | trimRight
  | replace
  | reverse
  | left
  | right
  | padLeft
  | padRight
  | locate
  | find
  | times
  | splitIndex
  | toBase64
  | fromBase64
  | firstByte
  | capitalize
deriving DecidableEq, Repr, Inhabited

namespace TextFunction

/-- A function of a text on a value. -/
def onText (f : List Char → List Char) (v : Value) : Value :=
  .ofText? (v.toText?.map fun s => String.ofList (f s.toList))

/-- The most characters, or bytes for repetition, of a text of a length that the data say. -/
def lengthLimit : Nat := 1048576

/-- The characters from a position on, at most `length` of them.  A negative position counts from the end, and
one before the first character is the first; position zero gives none. -/
def substringOf (cs : List Char) (start : Int) (length : Option Int) : List Char :=
  if start = 0 then []
  else
    let place := max (Position.place start cs.length) 0
    let rest := cs.drop place.toNat
    match length with
    | none => rest
    | some n => rest.take n.toNat

def substringAt (v start : Value) (length : Option Value) : Value :=
  match v.toText?, start.toWhole? with
  | some s, some p =>
    if p.toInt = 0 then .text ""
    else
      match length.map Value.toWhole? with
      | some none => .null
      | some (some n) => .text (String.ofList (substringOf s.toList p.toInt (some n.toInt)))
      | none => .text (String.ofList (substringOf s.toList p.toInt none))
  | _, _ => .null

/-- The characters that are stripped: those of a text, or white space. -/
def strips (characters : Option Value) : Char → Bool :=
  match characters.bind Value.toText? with
  | some s => fun c => s.toList.contains c
  | none => Text.isSpace

/-- A value without the stripped characters at the chosen ends. -/
def strip (left right : Bool) (v : Value) (characters : Option Value) : Value :=
  let p := strips characters
  onText (fun cs =>
    let cs := if left then cs.dropWhile p else cs
    if right then (cs.reverse.dropWhile p).reverse else cs) v

def replaceOf (v search replacement : Value) : Value :=
  match v.toText?, search.toText?, replacement.toText? with
  | some s, some a, some b =>
    .text (if a.isEmpty then s else String.ofList (Text.replace a.toList b.toList s.toList))
  | _, _, _ => .null

/-- The first characters. -/
def leftOf (cs : List Char) (n : Int) : List Char := cs.take n.toNat

/-- The last characters. -/
def rightOf (cs : List Char) (n : Int) : List Char := cs.drop (cs.length - n.toNat)

/-- A function of a text and a word on two values. -/
def onTextAndWhole (f : List Char → Int → List Char) (v n : Value) : Value :=
  match v.toText?, n.toWhole? with
  | some s, some n => .text (String.ofList (f s.toList n.toInt))
  | _, _ => .null

/-- `count` characters of a text that is not empty, repeated. -/
def cycle (cs : List Char) (count : Nat) : List Char := ((List.replicate (count / cs.length + 1) cs).flatten).take count

/-- A text filled up to a length, or cut to it. -/
def padOf (left : Bool) (cs : List Char) (length : Nat) (fill : List Char) : Option (List Char) :=
  if lengthLimit < length then none
  else if length ≤ cs.length then some (cs.take length)
  else if fill.isEmpty then none
  else
    let filling := cycle fill (length - cs.length)
    some (if left then filling ++ cs else cs ++ filling)

def pad (left : Bool) (v length fill : Value) : Value :=
  match v.toText?, length.toWhole?, fill.toText? with
  | some s, some n, some f => .ofText? ((padOf left s.toList n.toInt.toNat f.toList).map String.ofList)
  | _, _, _ => .null

/-- The position of the first occurrence that begins at a position or behind it; zero if there is none.  The
search begins at the offset of the position, and the characters up to the occurrence that it finds are
counted. -/
def positionOf (part cs : List Char) (start : Int) : Nat :=
  if start < 1 then 0
  else
    let found := do
      let offset ← Text.offset? cs (start - 1).toNat
      let (_, rest) ← Text.cut? offset cs
      let n ← Text.findOffset? part rest
      let (before, _) ← Text.cut? (offset + n) cs
      some (before.length + 1)
    found.getD 0

def locateOf (part v : Value) (start : Option Value) : Value :=
  match part.toText?, v.toText? with
  | some p, some s =>
    match start.map Value.toWhole? with
    | some none => .null
    | some (some n) => .ofNat (positionOf p.toList s.toList n.toInt)
    | none => .ofNat (positionOf p.toList s.toList 1)
  | _, _ => .null

def timesOf (v n : Value) : Value :=
  match v.toText?, n.toWhole? with
  | some s, some n =>
    let count := n.toInt.toNat
    if s.isEmpty then .text ""
    else if lengthLimit < s.utf8ByteSize * count then .null
    else .text (String.ofList (List.replicate count s.toList).flatten)
  | _, _ => .null

def splitIndexOf (v separator i : Value) : Value :=
  match v.toText?, separator.toText?, i.toWhole? with
  | some s, some p, some i =>
    if p.isEmpty || i.toInt < 0 then .null
    else .ofText? ((Text.split p.toList s.toList)[i.toInt.toNat]?.map String.ofList)
  | _, _, _ => .null

/-- The text that some Base64 letters encode. -/
def fromBase64? (s : String) : Option String := do
  let bytes ← Base64.decode? (Text.trim s.toList)
  match Text.decode bytes with
  | .ok cs => some (String.ofList cs)
  | .error _ => none

/-- Words, which are runs of letters and digits, with their first character in upper case and the others in
lower case. -/
def capitalizeFrom (inWord : Bool) : List Char → List Char
  | [] => []
  | c :: cs =>
    if Unicode.isAlphanumeric c then
      (if inWord then Unicode.lowerChar c else Unicode.upperChar c) ++ capitalizeFrom true cs
    else c :: capitalizeFrom false cs

def firstByteOf (s : String) : Nat := ((Text.encode s).head?.map UInt8.toNat).getD 0

/-- Nothing as an argument makes the result nothing. -/
def isStrict : TextFunction → Bool
  | .concatWith => false
  | _ => true

/-- **The result of a function on texts.** -/
def apply (f : TextFunction) (args : List Value) : Value :=
  match f, args with
  | .upper, [v] => onText Unicode.upper v
  | .lower, [v] => onText Unicode.lower v
  | .length, [v] => (v.toText?.map fun s => Value.ofNat s.length).getD .null
  | .concat, args => .text (String.join (args.map Value.render))
  | .concatWith, separator :: args =>
    match separator.toText? with
    | some s => .text (String.intercalate s ((args.filter fun v => !v.isNull).map Value.render))
    | none => .null
  | .substring, v :: start :: rest => substringAt v start rest.head?
  | .trim, v :: characters => strip true true v characters.head?
  | .trimLeft, v :: characters => strip true false v characters.head?
  | .trimRight, v :: characters => strip false true v characters.head?
  | .replace, [v, search, replacement] => replaceOf v search replacement
  | .reverse, [v] => onText List.reverse v
  | .left, [v, n] => onTextAndWhole leftOf v n
  | .right, [v, n] => onTextAndWhole rightOf v n
  | .padLeft, [v, n, fill] => pad true v n fill
  | .padRight, [v, n, fill] => pad false v n fill
  | .locate, part :: v :: start => locateOf part v start.head?
  | .find, [v, part] => locateOf part v none
  | .times, [v, n] => timesOf v n
  | .splitIndex, [v, separator, i] => splitIndexOf v separator i
  | .toBase64, [v] => .ofText? (v.toText?.map fun s => String.ofList (Base64.encode (Text.encode s)))
  | .fromBase64, [v] => .ofText? (v.toText?.bind fromBase64?)
  | .firstByte, [v] => (v.toText?.map fun s => Value.ofNat (firstByteOf s)).getD .null
  | .capitalize, [v] => onText (capitalizeFrom false) v
  | _, _ => .null

/-- The program halts over the numbers of a substring: the length is read unless the position is zero or none. -/
def substringHalts (start : Value) (length : Option Value) : Bool :=
  start.halts || length.any Value.halts && start.toWhole?.any fun p => p.toInt != 0

/-- The program halts over the numbers that the function reads. -/
def halts (f : TextFunction) (args : List Value) : Bool :=
  match f, args with
  | .substring, _ :: start :: rest => substringHalts start rest.head?
  | .left, [_, n] => n.halts
  | .right, [_, n] => n.halts
  | .padLeft, [_, n, _] => n.halts
  | .padRight, [_, n, _] => n.halts
  | .locate, _ :: _ :: start => start.head?.any Value.halts
  | .times, [_, n] => n.halts
  | .splitIndex, [_, _, i] => i.halts
  | _, _ => false

end TextFunction
end RowSql
