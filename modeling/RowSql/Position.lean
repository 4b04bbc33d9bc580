/-!
# Position — positions that count from one

The elements of an array and the characters of a text have positions: from one on from the start, and from minus
one back from the end.
-/
namespace RowSql
namespace Position

/-- **The place from zero of a position** in a sequence of a length; below zero for one too far before the end. -/
def place (i : Int) (length : Nat) : Int := if 0 < i then i - 1 else length + i

end Position
end RowSql
