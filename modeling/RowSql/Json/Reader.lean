import RowSql.Json
import RowSql.Json.Cursor
import RowSql.Text.Digits
/-!
# Reader — documents from text

`Json.parse` reads one document and nothing after it.  Objects and arrays nest to `depthLimit` levels.  A whole
number that no 64-bit word has, and every number with a point or an exponent, is a float: the digits as far as
they fit 64 bits, times or divided by a power of ten, each step rounded.
-/
namespace RowSql
namespace Json

/-- A step of reading: what was read and the place after it. -/
abbrev Reader (α : Type) := Cursor → Except Fault (α × Cursor)

/-- The rest of a word whose first character was taken. -/
def word : List Char → Cursor → Except Fault Cursor
  | [], c => .ok c
  | expected :: more, c =>
    match c.next? with
    | none => .error (c.fault true)
    | some (ch, c') => if ch == expected then word more c' else .error (c.skipByte.fault false)

/-- Four hexadecimal digits, taken as four bytes. -/
def hexEscape (c : Cursor) : Except Fault (Nat × Cursor) :=
  let after := Cursor.skipBytes 4 4 c
  match Text.number? 16 (c.rest.take 4) with
  | some n => if 4 ≤ c.rest.length then .ok (n, after) else .error (after.fault true)
  | none => .error (after.fault (c.rest.foldr (fun ch n => ch.utf8Size + n) 0 < 4))

/-- The next character of the second half of a pair, which has to be `expected`. -/
def pairChar (expected : Char) (c : Cursor) : Except Fault Cursor :=
  match c.rest with
  | [] => .error (c.fault true)
  | ch :: _ => if ch == expected then .ok c.skipByte else .error (c.skipByte.fault false)

/-- The character of a `u` escape; one beyond 16 bits takes two escapes, its surrogates. -/
def unicodeEscape (c : Cursor) : Except Fault (Char × Cursor) := do
  let (n, c) ← hexEscape c
  if 0xDC00 ≤ n ∧ n ≤ 0xDFFF then .error (c.fault false)
  else if n < 0xD800 ∨ 0xDBFF < n then .ok (Char.ofNat n, c)
  else
    let c ← pairChar '\\' c
    let c ← pairChar 'u' c
    let (m, c) ← hexEscape c
    if m < 0xDC00 ∨ 0xDFFF < m then .error (c.fault false)
    else .ok (Char.ofNat (0x10000 + (n - 0xD800) * 0x400 + (m - 0xDC00)), c)

/-- The character of an escape, after the backslash. -/
def escape (c : Cursor) : Except Fault (Char × Cursor) :=
  match c.next? with
  | none => .error (c.fault true)
  | some (ch, c') =>
    if ch == '"' || ch == '\\' || ch == '/' then .ok (ch, c')
    else if ch == 'b' then .ok ('\x08', c')
    else if ch == 'f' then .ok ('\x0c', c')
    else if ch == 'n' then .ok ('\n', c')
    else if ch == 'r' then .ok ('\r', c')
    else if ch == 't' then .ok ('\t', c')
    else if ch == 'u' then unicodeEscape c'
    else .error (c.skipByte.fault false)

/-- The rest of a quoted text, after the characters `taken` so far, last first. -/
def quoted : Nat → List Char → Cursor → Except Fault (List Char × Cursor)
  | 0, _, c => .error (c.fault true)
  | fuel + 1, taken, c =>
    match c.next? with
    | none => .error (c.fault true)
    | some (ch, c') =>
      if ch == '"' then .ok (taken.reverse, c')
      else if ch == '\\' then
        match escape c' with
        | .error e => .error e
        | .ok (ch, c') => quoted fuel (ch :: taken) c'
      else if ch.toNat < 0x20 then .error (c'.fault false)
      else quoted fuel (ch :: taken) c'

/-- A quoted text, after its first quote. -/
def quotedText (c : Cursor) : Except Fault (String × Cursor) :=
  (quoted (c.rest.length + 1) [] c).map fun (cs, c') => (String.ofList cs, c')

/-- The first number that 64 unsigned bits do not hold. -/
def significandLimit : Nat := 18446744073709551616

/-- The digits at this place: appended to `n` as long as they fit, with their number, and whether one did not fit. -/
def digits : Nat → Nat → Nat → Cursor → Nat × Nat × Bool × Cursor
  | 0, n, count, c => (n, count, false, c)
  | fuel + 1, n, count, c =>
    match c.rest with
    | ch :: rest =>
      if ch.isDigit then
        let m := n * 10 + (ch.toNat - 48)
        if significandLimit ≤ m then (n, count, true, c) else digits fuel m (count + 1) (c.skip ch rest)
      else (n, count, false, c)
    | [] => (n, count, false, c)

/-- The place after the digits here, and their number. -/
def skipDigits : Nat → Nat → Cursor → Nat × Cursor
  | 0, count, c => (count, c)
  | fuel + 1, count, c =>
    match c.rest with
    | ch :: rest => if ch.isDigit then skipDigits fuel (count + 1) (c.skip ch rest) else (count, c)
    | [] => (count, c)

/-- The largest power of ten that a float holds. -/
def greatestPower : Nat := 308

/-- `x` divided by ten to the power `e`, in steps of `greatestPower`. -/
def divideByPower : Nat → Float → Nat → Float
  | 0, x, _ => x
  | fuel + 1, x, e =>
    if e ≤ greatestPower then x / Binary.nearest 1 e
    else if x == 0.0 then x
    else divideByPower fuel (x / Binary.nearest 1 greatestPower) (e - greatestPower)

/-- **The float `± n · 10^e`**, rounded at each step; a number out of range is a fault. -/
def floatOfParts (negative : Bool) (n : Nat) (e : Int) (c : Cursor) : Except Fault (Json × Cursor) :=
  let x := Binary.nearest n 0
  if 0 ≤ e then
    if n = 0 then .ok (.float (Binary.signed negative x), c)
    else if greatestPower < e then .error (c.fault false)
    else
      let y := x * Binary.nearest 1 e
      if y.isInf then .error (c.fault false) else .ok (.float (Binary.signed negative y), c)
  else .ok (.float (Binary.signed negative (divideByPower (e.natAbs / greatestPower + 1) x e.natAbs)), c)

/-- The bound of the digits of an exponent. -/
def exponentLimit : Nat := 2147483648

/-- The digits of an exponent: appended to `n` as long as they stay below `exponentLimit`, and whether one did not. -/
def exponentDigits : Nat → Nat → Cursor → Nat × Bool × Cursor
  | 0, n, c => (n, false, c)
  | fuel + 1, n, c =>
    match c.rest with
    | ch :: rest =>
      if ch.isDigit then
        let m := n * 10 + (ch.toNat - 48)
        if exponentLimit ≤ m then (n, true, c) else exponentDigits fuel m (c.skip ch rest)
      else (n, false, c)
    | [] => (n, false, c)

/-- An exponent, after its mark, of the number `n · 10^e`. -/
def exponent (negative : Bool) (n : Nat) (e : Int) (c : Cursor) : Except Fault (Json × Cursor) :=
  let (below, c) := match c.rest with
    | '+' :: rest => (false, c.skip '+' rest)
    | '-' :: rest => (true, c.skip '-' rest)
    | _ => (false, c)
  match c.next? with
  | none => .error (c.fault true)
  | some (ch, c') =>
    if ch.isDigit then
      let (m, excess, c') := exponentDigits (c'.rest.length) (ch.toNat - 48) c'
      if excess then
        if n ≠ 0 ∧ !below then .error (c'.skipByte.fault false)
        else .ok (.float (Binary.signed negative 0.0), (skipDigits c'.rest.length 0 c').2)
      else floatOfParts negative n (if below then e - m else e + m) c'
    else .error (c.skipByte.fault false)

def isExponentMark (ch : Char) : Bool := ch == 'e' || ch == 'E'

/-- The digits after a point, and an exponent, of the number `n · 10^e`. -/
def fraction (negative : Bool) (n : Nat) (e : Int) (c : Cursor) : Except Fault (Json × Cursor) :=
  let (m, count, excess, c) := digits c.rest.length n 0 c
  if !excess && count == 0 then .error (c.faultAhead c.rest.isEmpty)
  else
    let c := if excess then (skipDigits c.rest.length 0 c).2 else c
    if isExponentMark c.peek then exponent negative m (e - count) (c.skip c.peek c.rest.tail)
    else floatOfParts negative m (e - count) c

/-- A number after its sign. -/
def number (negative : Bool) (c : Cursor) : Except Fault (Json × Cursor) :=
  match c.next? with
  | none => .error (c.fault true)
  | some (ch, c') =>
    if ch == '0' && c'.peek.isDigit then .error (c'.faultAhead false)
    else if ch.isDigit then
      let (n, _, excess, c) := digits (if ch == '0' then 0 else c'.rest.length) (ch.toNat - 48) 0 c'
      let (extra, c) := if excess then skipDigits c.rest.length 0 c else (0, c)
      if c.peek == '.' then fraction negative n extra (c.skip '.' c.rest.tail)
      else if isExponentMark c.peek then exponent negative n extra (c.skip c.peek c.rest.tail)
      else if excess then floatOfParts negative n extra c
      else if negative && (n == 0 || 9223372036854775808 < n) then .ok (.float (-(Binary.nearest n 0)), c)
      else .ok (.int (if negative then -(n : Int) else n), c)
    else .error (c.skipByte.fault false)

/-- The elements after an opening bracket, and the closing one; `element` reads one of them. -/
def items (element : Reader Json) : Nat → Bool → List Json → Cursor → Except Fault (List Json × Cursor)
  | 0, _, _, c => .error (c.faultAhead true)
  | fuel + 1, first, taken, c => do
    let c := c.skipBlanks
    match c.rest with
    | [] => .error (c.faultAhead true)
    | ch :: rest =>
      if ch == ']' then .ok (taken.reverse, c.skip ch rest)
      else if first then
        let (v, c) ← element c
        items element fuel false (v :: taken) c
      else if ch == ',' then
        let c := (c.skip ch rest).skipBlanks
        match c.rest with
        | [] => .error (c.faultAhead true)
        | ch :: _ =>
          if ch == ']' then .error (c.faultAhead false)
          else
            let (v, c) ← element c
            items element fuel false (v :: taken) c
      else .error (c.faultAhead false)

/-- A member at its key, whose first character is next. -/
def memberAt (element : Reader Json) (c : Cursor) : Except Fault ((String × Json) × Cursor) := do
  let (k, c) ← quotedText (c.skip '"' c.rest.tail)
  let c := c.skipBlanks
  match c.rest with
  | [] => .error (c.faultAhead true)
  | ch :: rest =>
    if ch == ':' then
      let (v, c) ← element (c.skip ch rest)
      .ok ((k, v), c)
    else .error (c.faultAhead false)

/-- The members after an opening brace, and the closing one. -/
def members (element : Reader Json) :
    Nat → Bool → List (String × Json) → Cursor → Except Fault (List (String × Json) × Cursor)
  | 0, _, _, c => .error (c.faultAhead true)
  | fuel + 1, first, taken, c => do
    let c := c.skipBlanks
    match c.rest with
    | [] => .error (c.faultAhead true)
    | ch :: rest =>
      if ch == '\x7d' then .ok (taken, c.skip ch rest)
      else if first then
        if ch == '"' then
          let (m, c) ← memberAt element c
          members element fuel false (insert m.1 m.2 taken) c
        else .error (c.faultAhead false)
      else if ch == ',' then
        let c := (c.skip ch rest).skipBlanks
        match c.rest with
        | [] => .error (c.faultAhead true)
        | ch :: _ =>
          if ch == '"' then
            let (m, c) ← memberAt element c
            members element fuel false (insert m.1 m.2 taken) c
          else .error (c.faultAhead false)
      else .error (c.faultAhead false)

/-- A document that nests at most `depth` levels, after blanks. -/
def value : Nat → Reader Json
  | depth, c =>
    let c := c.skipBlanks
    match c.rest with
    | [] => .error (c.faultAhead true)
    | ch :: rest =>
      let c' := c.skip ch rest
      if ch == 'n' then (word ['u', 'l', 'l'] c').map (.null, ·)
      else if ch == 't' then (word ['r', 'u', 'e'] c').map (.bool true, ·)
      else if ch == 'f' then (word ['a', 'l', 's', 'e'] c').map (.bool false, ·)
      else if ch == '-' then number true c'
      else if ch.isDigit then number false c
      else if ch == '"' then (quotedText c').map fun (s, c) => (.text s, c)
      else if ch == '[' then
        match depth with
        | 0 => .error (c.faultAhead false)
        | depth + 1 => (items (value depth) (rest.length + 1) true [] c').map fun (vs, c) => (.array vs, c)
      else if ch == '\x7b' then
        match depth with
        | 0 => .error (c.faultAhead false)
        | depth + 1 => (members (value depth) (rest.length + 1) true [] c').map fun (ms, c) => (.object ms, c)
      else .error (c.faultAhead false)

/-- The most levels that objects and arrays nest. -/
def depthLimit : Nat := 127

/-- **The document that a text spells.** -/
def parse (text : List Char) : Except Fault Json := do
  let (v, c) ← value depthLimit (Cursor.start text)
  let c := c.skipBlanks
  if c.rest.isEmpty then .ok v else .error (c.faultAhead false)

end Json
end RowSql
