/-!
# Base64 — bytes as letters

Three bytes become four letters, the last group is filled up with equals signs.  Reading is strict: the filling
has to be there, and the bits that no byte uses have to be zero.
-/
namespace RowSql
namespace Base64

/-- The letter of six bits. -/
def letter (n : Nat) : Char :=
  if n < 26 then Char.ofNat (65 + n)
  else if n < 52 then Char.ofNat (71 + n)
  else if n < 62 then Char.ofNat (n - 4)
  else if n = 62 then '+'
  else '/'

/-- The six bits of a letter. -/
def bits? (c : Char) : Option Nat :=
  if c.isUpper then some (c.toNat - 65)
  else if c.isLower then some (c.toNat - 71)
  else if c.isDigit then some (c.toNat + 4)
  else if c == '+' then some 62
  else if c == '/' then some 63
  else none

/-- **The letters of some bytes.** -/
def encode : List UInt8 → List Char
  | [] => []
  | [a] => [letter (a.toNat / 4), letter (a.toNat % 4 * 16), '=', '=']
  | [a, b] => [letter (a.toNat / 4), letter (a.toNat % 4 * 16 + b.toNat / 16), letter (b.toNat % 16 * 4), '=']
  | a :: b :: c :: rest =>
    letter (a.toNat / 4) :: letter (a.toNat % 4 * 16 + b.toNat / 16) :: letter (b.toNat % 16 * 4 + c.toNat / 64)
      :: letter (c.toNat % 64) :: encode rest

/-- A byte of a number below 256. -/
def byte (n : Nat) : UInt8 := UInt8.ofNat n

/-- **The bytes of some letters.** -/
def decode? : List Char → Option (List UInt8)
  | [] => some []
  | [a, b, '=', '='] => do
    let x ← bits? a
    let y ← bits? b
    if y % 16 = 0 then some [byte (x * 4 + y / 16)] else none
  | [a, b, c, '='] => do
    let x ← bits? a
    let y ← bits? b
    let z ← bits? c
    if z % 4 = 0 then some [byte (x * 4 + y / 16), byte (y % 16 * 16 + z / 4)] else none
  | a :: b :: c :: d :: rest => do
    let x ← bits? a
    let y ← bits? b
    let z ← bits? c
    let w ← bits? d
    return byte (x * 4 + y / 16) :: byte (y % 16 * 16 + z / 4) :: byte (z % 4 * 64 + w) :: (← decode? rest)
  | _ => none

end Base64
end RowSql
