import RowSql.Text.Parts
/-!
# Offsets — places in a text counted in bytes

A text is searched and cut at offsets in bytes.  An offset at which a text is cut is one at which a character begins, or
the end.
-/
namespace RowSql
namespace Text

/-- The bytes that characters take. -/
def byteCount : List Char → Nat
  | [] => 0
  | c :: cs => c.utf8Size + byteCount cs

/-- The offsets at which the characters begin, of which the first is `offset`. -/
def offsetsFrom (offset : Nat) : List Char → List Nat
  | [] => []
  | c :: cs => offset :: offsetsFrom (offset + c.utf8Size) cs

/-- The offset of the character at a place, and for the place behind the last one that of the end. -/
def offset? (cs : List Char) (place : Nat) : Option Nat :=
  (offsetsFrom 0 cs)[place]?.or (if place = cs.length then some (byteCount cs) else none)

/-- **The characters before and behind an offset**; nothing for an offset inside a character or behind the end. -/
def cut? (offset : Nat) : List Char → Option (List Char × List Char)
  | [] => if offset = 0 then some ([], []) else none
  | c :: cs =>
    if offset = 0 then some ([], c :: cs)
    else if c.utf8Size ≤ offset then (cut? (offset - c.utf8Size) cs).map fun (before, behind) => (c :: before, behind)
    else none

/-- **The offset of the first occurrence of `part`.** -/
def findOffset? (part cs : List Char) : Option Nat := (find? part cs).map fun n => byteCount (cs.take n)

end Text
end RowSql
