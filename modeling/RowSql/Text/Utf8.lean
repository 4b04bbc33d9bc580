/-!
# Utf8 — texts from bytes

`Text.decode` reads a text from its bytes, or answers the length of the longest prefix that is a text.
-/
namespace RowSql
namespace Text

/-- A byte that continues a character. -/
def isContinuation (b : UInt8) : Bool := 0x80 ≤ b && b ≤ 0xBF

/-- The low six bits of a continuation. -/
def payload (b : UInt8) : Nat := b.toNat - 0x80

/-- The first character of a list of bytes that is not empty, and its length; nothing when no character begins here. -/
def firstChar? : List UInt8 → Option (Char × Nat)
  | a :: rest =>
    if a < 0x80 then some (Char.ofNat a.toNat, 1)
    else if 0xC2 ≤ a && a ≤ 0xDF then
      match rest with
      | b :: _ => if isContinuation b then some (Char.ofNat ((a.toNat - 0xC0) * 64 + payload b), 2) else none
      | _ => none
    else if 0xE0 ≤ a && a ≤ 0xEF then
      match rest with
      | b :: c :: _ =>
        if isContinuation b && isContinuation c && !(a == 0xE0 && b < 0xA0) && !(a == 0xED && 0xA0 ≤ b) then
          some (Char.ofNat (((a.toNat - 0xE0) * 64 + payload b) * 64 + payload c), 3)
        else none
      | _ => none
    else if 0xF0 ≤ a && a ≤ 0xF4 then
      match rest with
      | b :: c :: d :: _ =>
        if isContinuation b && isContinuation c && isContinuation d && !(a == 0xF0 && b < 0x90)
            && !(a == 0xF4 && 0x90 ≤ b) then
          some (Char.ofNat ((((a.toNat - 0xF0) * 64 + payload b) * 64 + payload c) * 64 + payload d), 4)
        else none
      | _ => none
    else none
  | [] => none

/-- The characters of the bytes from offset `at` on, of which the first `skip` belong to the character before. -/
def decodeFrom (offset skip : Nat) : List UInt8 → Except Nat (List Char)
  | [] => .ok []
  | b :: rest =>
    match skip with
    | skip + 1 => decodeFrom (offset + 1) skip rest
    | 0 =>
      match firstChar? (b :: rest) with
      | none => .error offset
      | some (c, n) => (decodeFrom (offset + 1) (n - 1) rest).map (c :: ·)

/-- **The text of some bytes**, or the length of the longest prefix that is a text. -/
def decode (bytes : List UInt8) : Except Nat (List Char) := decodeFrom 0 0 bytes

/-- The bytes of a text. -/
def encode (s : String) : List UInt8 := s.toUTF8.toList

end Text
end RowSql
