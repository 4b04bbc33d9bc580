/-!
# Space — white space

The twenty-five characters with the property `White_Space`, and the text between them.
-/
namespace RowSql
namespace Text

/-- The ranges of the characters that are white space. -/
def spaceRanges : List (Nat × Nat) :=
  [(0x09, 0x0D), (0x20, 0x20), (0x85, 0x85), (0xA0, 0xA0), (0x1680, 0x1680), (0x2000, 0x200A), (0x2028, 0x2029),
   (0x202F, 0x202F), (0x205F, 0x205F), (0x3000, 0x3000)]

/-- **White space.** -/
def isSpace (c : Char) : Bool := spaceRanges.any fun r => r.1 ≤ c.toNat && c.toNat ≤ r.2

def trimLeft (cs : List Char) : List Char := cs.dropWhile isSpace

def trimRight (cs : List Char) : List Char := (cs.reverse.dropWhile isSpace).reverse

/-- The text without the white space at its two ends. -/
def trim (cs : List Char) : List Char := trimRight (trimLeft cs)

/-- ASCII letters in lower case, every other character unchanged. -/
def lowerAscii (cs : List Char) : List Char := cs.map Char.toLower

/-- Equality up to the case of ASCII letters. -/
def sameIgnoringCase (a b : List Char) : Bool := lowerAscii a == lowerAscii b

end Text
end RowSql
